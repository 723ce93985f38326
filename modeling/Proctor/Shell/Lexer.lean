import Proctor.Shell.Script

/-!
# Characters of a script

The rest of a script with the line it has come to, and the small parts that words and operators are
made of. A backslash at the end of a line joins it to the next one wherever it stands, except
between single quotes.
-/

set_option autoImplicit false

namespace Proctor

namespace Shell

/-- A word that another text has taken the place of. The text is still being read as long as at
least `left` characters of the script are left. -/
structure Replaced where
  name : Text
  left : Nat
  /-- The text ends with a blank, so the word after it may be replaced too. -/
  opensNext : Bool
  deriving DecidableEq, Repr, Inhabited

structure Source where
  rest : Text
  line : Nat := 1
  replaced : List Replaced := []
  /-- Lines are shown when they are read, if the shell has been told to do so. -/
  isShown : Bool := false
  deriving Inhabited

abbrev Reading (α : Type) := Except (Fault × Nat) α

namespace Source

def skip (s : Source) (n : Nat) : Source :=
  { s with rest := s.rest.drop n, line := s.line + (s.rest.take n).count '\n' }

def joined : Nat → Source → Source
  | 0, s => s
  | fuel + 1, s =>
    match s.rest with
    | '\\' :: '\n' :: _ => joined fuel (s.skip 2)
    | _ => s

def eat (s : Source) : Source :=
  match s.rest with
  | '\\' :: '\n' :: _ => joined (s.rest.length / 2 + 1) s
  | _ => s

def takeWhile (accepts : Char → Bool) : Nat → Source → Text × Source
  | 0, s => ([], s)
  | fuel + 1, s =>
    let s := s.eat
    match s.rest with
    | c :: _ =>
      if accepts c then
        let (more, after) := takeWhile accepts fuel (s.skip 1)
        (c :: more, after)
      else ([], s)
    | [] => ([], s)

def skipBlanks : Nat → Source → Source
  | 0, s => s
  | fuel + 1, s =>
    match s.rest with
    | ' ' :: _ => skipBlanks fuel (s.skip 1)
    | '\t' :: _ => skipBlanks fuel (s.skip 1)
    | '\\' :: '\n' :: _ => skipBlanks fuel (s.skip 2)
    | '#' :: rest => s.skip ((rest.takeWhile (· ≠ '\n')).length + 1)
    | _ => s

def isReplacing (s : Source) (name : Text) : Bool :=
  s.replaced.any fun r => r.name = name && r.left ≤ s.rest.length

def replace (s : Source) (name value : Text) : Source :=
  let blank := value.getLast? == some ' ' || value.getLast? == some '\t'
  let current := s.replaced.filter fun r => r.left ≤ s.rest.length
  { s with
    rest := value ++ s.rest
    replaced := ⟨name, s.rest.length, blank⟩ :: current }

def opensBetween (s later : Source) : Bool :=
  !s.replaced.isEmpty &&
    s.replaced.any fun r =>
      r.opensNext && r.left < s.rest.length && later.rest.length ≤ r.left

end Source

def addChar (pieces : List Piece) (c : Char) (quoted : Bool) : List Piece :=
  match pieces with
  | .literal text q :: rest =>
    if q = quoted then .literal (c :: text) q :: rest else .literal [c] quoted :: pieces
  | _ => .literal [c] quoted :: pieces

def settlePieces (pieces : List Piece) : List Piece :=
  pieces.reverse.map fun piece =>
    match piece with
    | .literal text quoted => .literal text.reverse quoted
    | piece => piece

/-- How the pieces being read end, and what counts in them. -/
inductive Mode where
  | bare
  | endMark
  | doubleQuoted
  | braced (quoted : Bool)
  /-- Up to two closing parentheses, with this many opened inside. -/
  | arithmetic (opened : Nat)
  /-- Up to a line that is the delimiter; a new line may just have begun. -/
  | document (delimiter : Text) (dashed atStart : Bool)
  deriving DecidableEq, Repr

namespace Mode

def quoted : Mode → Bool
  | .bare => false
  | .endMark => false
  | .doubleQuoted => true
  | .braced quoted => quoted
  | .arithmetic _ => true
  | .document .. => true

def isDocument : Mode → Bool
  | .document .. => true
  | _ => false

def isBraced : Mode → Bool
  | .braced _ => true
  | _ => false

def mayEnd : Mode → Option Fault
  | .bare => none
  | .endMark => none
  | .document .. => none
  | .doubleQuoted => some .unterminatedQuote
  | .braced true => some .unterminatedQuote
  | .braced false => some (.missing "\x7d")
  | .arithmetic _ => some (.missing "))")

def after (m : Mode) (c : Char) : Mode :=
  match m with
  | .arithmetic opened =>
    .arithmetic (if c == '(' then opened + 1 else if c == ')' then opened - 1 else opened)
  | .document delimiter dashed _ => .document delimiter dashed (c == '\n')
  | m => m

/-- Whether a backslash takes away the meaning of a character. Between quotes it does so only where
there is one. -/
def escapes (m : Mode) (c : Char) : Bool :=
  !m.quoted || c == '\\' || c == '\x60' || c == '$' || (c == '\x22' && !m.isDocument) ||
    (c == '}' && m.isBraced)

end Mode

def isMeta (c : Char) : Bool :=
  c == ' ' || c == '\t' || c == '\n' || c == ';' || c == '&' || c == '|' || c == '<' || c == '>' ||
    c == '(' || c == ')'

def isSpecial (c : Char) : Bool :=
  c == '@' || c == '*' || c == '#' || c == '?' || c == '-' || c == '$' || c == '!'

/-- The text of a backquoted script up to the closing quote, in reverse, and what comes after it.
The backslash keeps its meaning only before some characters, among them the double quote if the
script stands between such. -/
def backquoted (quoted : Bool) : Nat → Source → Text → Option (Text × Source)
  | 0, _, _ => none
  | fuel + 1, s, done =>
    let s := s.eat
    match s.rest with
    | [] => none
    | '\x60' :: _ => some (done.reverse, s.skip 1)
    | '\\' :: c :: _ =>
      let plain := c == '$' || c == '\x60' || c == '\\' || (quoted && c == '\x22')
      backquoted quoted fuel (s.skip 2) (if plain then c :: done else c :: '\\' :: done)
    | c :: _ => backquoted quoted fuel (s.skip 1) (c :: done)

/-- The form that comes after the name of a braced parameter, with the rest after its operator. An
operator that there is not is passed over. The last part tells whether the parameter ends here. -/
def formAfter (s : Source) : Form × Source × Bool :=
  let s := s.eat
  let operator (colon : Bool) (s : Source) : Form × Source × Bool :=
    match s.rest with
    | '}' :: _ => (.value, s.skip 1, !colon)
    | '-' :: _ => (.fallback colon, s.skip 1, false)
    | '+' :: _ => (.alternative colon, s.skip 1, false)
    | '?' :: _ => (.require colon, s.skip 1, false)
    | '=' :: _ => (.assign colon, s.skip 1, false)
    | _ => (.bad, s.skip 1, false)
  let doubled (c : Char) (form : Bool → Form) : Form × Source × Bool :=
    let after := (s.skip 1).eat
    if after.rest.head? == some c then (form true, after.skip 1, false)
    else (form false, after, false)
  match s.rest with
  | ':' :: _ => operator true (s.skip 1).eat
  | '%' :: _ => doubled '%' .dropBack
  | '#' :: _ => doubled '#' .dropFront
  | _ => operator false s

def bracedName (s : Source) : Option (Text × Bool) × Source :=
  let fuel := s.rest.length + 1
  let plain (s : Source) : Text × Source :=
    match s.rest with
    | c :: _ =>
      if Text.isNameStart c then s.takeWhile Text.isNameChar fuel
      else if c.isDigit then s.takeWhile Char.isDigit fuel
      else ([], s)
    | [] => ([], s)
  let s := s.eat
  match plain s with
  | ([], _) =>
    match s.rest with
    | '#' :: _ =>
      let after := (s.skip 1).eat
      match plain after with
      | ([], _) =>
        match after.rest with
        | c :: _ =>
          let last := (after.skip 1).eat
          if c ≠ '}' && last.rest.head? == some '}' then
            if isSpecial c then (some ([c], true), last) else (none, last)
          else (some (['#'], false), after)
        | [] => (some (['#'], false), after)
      | (name, rest) => (some (name, true), rest)
    | c :: _ => if isSpecial c then (some ([c], false), s.skip 1) else (none, s)
    | [] => (none, s)
  | (name, rest) => (some (name, false), rest)

def documentLine (delimiter : Text) (dashed : Bool) (s : Source) : Source × Bool :=
  let s := if dashed then s.skip (s.rest.takeWhile (· == '\t')).length else s
  if delimiter.isPrefixOf s.rest then
    match s.rest.drop delimiter.length with
    | [] => (s.skip delimiter.length, true)
    | '\n' :: _ => (s.skip (delimiter.length + 1), true)
    | _ => (s, false)
  else (s, false)

def plainDocument (delimiter : Text) (dashed : Bool) : Nat → Source → Text → Text × Source
  | 0, s, done => (done, s)
  | fuel + 1, s, done =>
    match documentLine delimiter dashed s with
    | (s, true) => (done, s)
    | (s, false) =>
      let line := s.rest.takeWhile (· ≠ '\n')
      let done := line.reverse ++ done
      let s := s.skip line.length
      match s.rest with
      | [] => (done, s)
      | _ => plainDocument delimiter dashed fuel (s.skip 1) ('\n' :: done)

inductive Token where
  | eof
  | newline
  | semicolon
  | doubleSemicolon
  | ampersand
  | andIf
  | orIf
  | bar
  | leftParen
  | rightParen
  | redirect (descriptor : Nat) (direction : Direction) (dashed : Bool)
  | word (pieces : Word)
  | keyword (name : String)
  deriving Inhabited

def Token.plain? : Token → Option Text
  | .word [.literal text false] => some text
  | _ => none

def specialCommands : List String :=
  [":", ".", "break", "continue", "eval", "exec", "exit", "export", "local", "readonly", "return",
   "set", "shift", "times", "trap", "unset"]

def reserved : List String :=
  ["!", "\x7b", "\x7d", "case", "do", "done", "elif", "else", "esac", "fi", "for", "if", "in",
   "then", "until", "while"]

def quotedName (name : String) : String := "\"" ++ name ++ "\""

def Token.show : Token → String
  | .eof => "end of file"
  | .newline => "newline"
  | .semicolon => quotedName ";"
  | .doubleSemicolon => quotedName ";;"
  | .ampersand => quotedName "&"
  | .andIf => quotedName "&&"
  | .orIf => quotedName "||"
  | .bar => quotedName "|"
  | .leftParen => quotedName "("
  | .rightParen => quotedName ")"
  | .redirect .. => "redirection"
  | .word _ => "word"
  | .keyword name => quotedName name

def redirectAfter (descriptor : Option Nat) (s : Source) : Option (Token × Source) :=
  let second := (s.skip 1).eat
  let token (usual : Nat) (direction : Direction) (dashed : Bool) (after : Source) :
      Option (Token × Source) :=
    some (.redirect (descriptor.getD usual) direction dashed, after)
  match s.rest with
  | '<' :: _ =>
    match second.rest with
    | '<' :: _ =>
      let third := (second.skip 1).eat
      if third.rest.head? == some '-' then token 0 .here true (third.skip 1)
      else token 0 .here false third
    | '&' :: _ => token 0 .duplicateInput false (second.skip 1)
    | '>' :: _ => token 0 .both false (second.skip 1)
    | _ => token 0 .input false second
  | '>' :: _ =>
    match second.rest with
    | '>' :: _ => token 1 .append false (second.skip 1)
    | '&' :: _ => token 1 .duplicateOutput false (second.skip 1)
    | '|' :: _ => token 1 .overwrite false (second.skip 1)
    | _ => token 1 .output false second
  | _ => none

def operatorToken (s : Source) : Option (Token × Source) :=
  let second := (s.skip 1).eat
  let doubled (c : Char) (two one : Token) : Option (Token × Source) :=
    if second.rest.head? == some c then some (two, second.skip 1) else some (one, second)
  match s.rest with
  | [] => some (.eof, s)
  | '\n' :: _ => some (.newline, s.skip 1)
  | ';' :: _ => doubled ';' .doubleSemicolon .semicolon
  | '&' :: _ => doubled '&' .andIf .ampersand
  | '|' :: _ => doubled '|' .orIf .bar
  | '(' :: _ => some (.leftParen, s.skip 1)
  | ')' :: _ => some (.rightParen, s.skip 1)
  | _ => none

end Shell

end Proctor
