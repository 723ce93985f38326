import Proctor.Shell.Escape
import Proctor.Tool.Awk.Value

/-!
# Tokens of pattern programs

Whether a slash divides or opens an expression depends on the token before it. Line ends are tokens,
since they end statements.
-/

set_option autoImplicit false

namespace Proctor

namespace Tool

open Shell

namespace Awk

inductive Token where
  | number (f : Float) (spelling : Text)
  | text (t : Text)
  | regex (t : Text)
  | name (s : String)
  /-- A name with an opening parenthesis right after it. -/
  | call (s : String)
  | builtin (s : String)
  | word (s : String)
  | sign (s : String)
  | newline
  | stop
  deriving Inhabited

structure Located where
  token : Token
  line : Nat
  deriving Inhabited

def words : List String :=
  ["BEGIN", "END", "function", "if", "else", "while", "for", "do", "break", "continue", "next",
   "nextfile", "exit", "return", "delete", "in", "getline", "print", "printf"]

def builtins : List String :=
  ["length", "substr", "index", "split", "sub", "gsub", "match", "sprintf", "sin", "cos", "atan2",
   "exp", "log", "sqrt", "int", "rand", "srand", "tolower", "toupper", "system", "close", "fflush"]

def signs : List String :=
  ["&&", "||", "++", "--", "+=", "-=", "*=", "/=", "%=", "^=", "==", "<=", ">=", "!=", "!~", ">>",
   "\x7b", "\x7d", "(", ")", "[", "]", ";", ",", "+", "-", "*", "/", "%", "^", "!", ">", "<", "|",
   "?", ":", "~", "$", "="]

/-- Whether a slash after a token divides. -/
def Token.endsOperand : Token → Bool
  | .number .. => true
  | .text _ => true
  | .regex _ => true
  | .name _ => true
  | .builtin _ => true
  | .sign s => s = ")" || s = "]" || s = "$" || s = "++" || s = "--"
  | _ => false

def Token.spelling : Token → Text
  | .number _ t => t
  | .text t => '"' :: t ++ ['"']
  | .regex t => '/' :: t ++ ['/']
  | .name s => s.toList
  | .call s => s.toList
  | .builtin s => s.toList
  | .word s => s.toList
  | .sign s => s.toList
  | .newline => "end of line".toList
  | .stop => "end of file".toList

def stringBody : Nat → Text → Text → Option (Text × Text)
  | 0, _, _ => none
  | _, _, [] => none
  | _, _, '\n' :: _ => none
  | _, sofar, '"' :: rest => some (sofar.reverse, rest)
  | fuel + 1, sofar, '\\' :: rest =>
    match rest with
    | [] => none
    | '\n' :: rest => stringBody fuel sofar rest
    | '"' :: rest => stringBody fuel ('"' :: sofar) rest
    | '/' :: rest => stringBody fuel ('/' :: sofar) rest
    | '\\' :: rest => stringBody fuel ('\\' :: sofar) rest
    | c :: rest =>
      if '0' ≤ c && c ≤ '7' then
        let digits := (c :: rest.take 2).takeWhile fun c => '0' ≤ c && c ≤ '7'
        let n := digits.foldl (fun n c => n * 8 + Text.digitValue c) 0
        stringBody fuel (Char.ofNat (n % 256) :: sofar) ((c :: rest).drop digits.length)
      else
        match Escape.letter? c with
        | some d => stringBody fuel (d :: sofar) rest
        | none => stringBody fuel (c :: '\\' :: sofar) rest
  | fuel + 1, sofar, c :: rest => stringBody fuel (c :: sofar) rest

def regexBody : Nat → Bool → Text → Text → Option (Text × Text)
  | 0, _, _, _ => none
  | _, _, _, [] => none
  | _, _, _, '\n' :: _ => none
  | fuel + 1, inSet, sofar, '\\' :: c :: rest =>
    regexBody fuel inSet (if c == '/' then '/' :: sofar else c :: '\\' :: sofar) rest
  | fuel + 1, inSet, sofar, c :: rest =>
    if c == '/' && !inSet then some (sofar.reverse, rest)
    else if c == '[' && !inSet then
      match rest with
      | '^' :: ']' :: rest => regexBody fuel true (']' :: '^' :: '[' :: sofar) rest
      | ']' :: rest => regexBody fuel true (']' :: '[' :: sofar) rest
      | rest => regexBody fuel true ('[' :: sofar) rest
    else regexBody fuel (inSet && c != ']') (c :: sofar) rest

def isNameChar (c : Char) : Bool := c.isAlphanum || c == '_'

def numberSpelling (t : Text) : Text :=
  let whole := t.takeWhile Char.isDigit
  let rest := t.drop whole.length
  let (fraction, rest) : Text × Text := match rest with
    | '.' :: more =>
      let digits := more.takeWhile Char.isDigit
      ('.' :: digits, more.drop digits.length)
    | more => ([], more)
  let power : Text := match rest with
    | e :: more =>
      if e == 'e' || e == 'E' then
        let (sign, digits) : Text × Text := match more with
          | '+' :: digits => (['+'], digits)
          | '-' :: digits => (['-'], digits)
          | digits => ([], digits)
        let digits := digits.takeWhile Char.isDigit
        if digits.isEmpty then [] else e :: sign ++ digits
      else []
    | [] => []
  whole ++ fraction ++ power

abbrev Complaint := Text

def atLine (line : Nat) (message : Text) : Complaint :=
  "line ".toList ++ Text.ofNat line ++ ": ".toList ++ message

def tokens : Nat → Nat → Token → List Located → Text → Except Complaint (List Located)
  | 0, _, _, done, _ => .ok done.reverse
  | _, line, _, done, [] => .ok (({ token := .stop, line } : Located) :: done).reverse
  | fuel + 1, line, last, done, c :: rest =>
    let add (token : Token) (rest : Text) : Except Complaint (List Located) :=
      tokens fuel line token ({ token, line } :: done) rest
    if c == '\n' then tokens fuel (line + 1) .newline ({ token := .newline, line } :: done) rest
    else if isBlank c then tokens fuel line last done rest
    else if c == '#' then tokens fuel line last done (rest.dropWhile (· ≠ '\n'))
    else if c == '\\' && rest.head? == some '\n' then tokens fuel (line + 1) last done rest.tail
    else if c == '"' then
      match stringBody (rest.length + 1) [] rest with
      | some (t, left) => add (.text t) left
      | none =>
        .error (atLine line ("runaway string constant \"".toList ++
          (rest.takeWhile (· ≠ '\n')).take 10 ++ " ...".toList))
    else if c == '/' && !last.endsOperand then
      match regexBody (rest.length + 1) false [] rest with
      | some (t, left) => add (.regex t) left
      | none =>
        .error (atLine line ("runaway regular expression /".toList ++
          (rest.takeWhile (· ≠ '\n')).take 10 ++ " ...".toList))
    else if c.isDigit || (c == '.' && (rest.head?.map Char.isDigit).getD false) then
      let spelling := numberSpelling (c :: rest)
      let f := leadingNumber spelling
      if f.isInf then .error (atLine line (spelling ++ " : decimal overflow".toList))
      else add (.number f spelling) ((c :: rest).drop spelling.length)
    else if c.isAlpha || c == '_' then
      let spelling := (c :: rest).takeWhile isNameChar
      let left := (c :: rest).drop spelling.length
      let s := String.ofList spelling
      if words.contains s then add (.word s) left
      else if builtins.contains s then add (.builtin s) left
      else if left.head? == some '(' then add (.call s) left
      else add (.name s) left
    else
      match signs.find? fun s => s.toList.isPrefixOf (c :: rest) with
      | some s => add (.sign s) ((c :: rest).drop s.length)
      | none =>
        .error (Text.ofNat line ++ ": unexpected character '".toList ++ [c, '\''])

end Awk

end Tool

end Proctor
