import Proctor.Regex.Read
import Proctor.Tool.Awk.Token

/-!
# Pattern programs

A program is a list of rules, each with a pattern and a block of statements, and of functions. It is
read from tokens by the ranks of its operators. Two operands side by side are joined.
-/

set_option autoImplicit false

namespace Proctor

namespace Tool

open Shell

namespace Awk

inductive Arithmetic where
  | plus
  | minus
  | times
  | over_
  | rest
  | power
  deriving DecidableEq, Repr, Inhabited

inductive Comparison where
  | less
  | lessOrSame
  | same
  | different
  | more
  | moreOrSame
  deriving DecidableEq, Repr, Inhabited

inductive Origin where
  | main
  | file
  | command
  deriving DecidableEq, Repr, Inhabited

mutual

inductive Expr where
  | number (f : Float)
  | text (t : Text)
  | regex (r : Regex)
  | get (p : Place)
  | assign (p : Place) (op : Option Arithmetic) (e : Expr)
  /-- Adds one or takes one away; the value is that before or after. -/
  | step (p : Place) (up first : Bool)
  | negative (e : Expr)
  | positive (e : Expr)
  | not (e : Expr)
  | arithmetic (op : Arithmetic) (a b : Expr)
  | join (a b : Expr)
  | compare (op : Comparison) (a b : Expr)
  | fits (negated : Bool) (a b : Expr)
  | and (a b : Expr)
  | or (a b : Expr)
  | choice (c a b : Expr)
  | isIn (keys : List Expr) (array : String)
  | call (name : String) (arguments : List Expr)
  | builtin (name : String) (arguments : List Expr)
  | getline (origin : Origin) (source : Option Expr) (target : Option Place)
  /-- In parentheses, one or more. -/
  | group (es : List Expr)

inductive Place where
  | name (s : String)
  | field (e : Expr)
  | element (array : String) (keys : List Expr)

end

instance : Inhabited Expr := ⟨.number 0.0⟩

inductive Target where
  | output
  | file (e : Expr)
  | append (e : Expr)
  | command (e : Expr)

inductive Statement where
  | expr (e : Expr)
  | print (es : List Expr) (target : Target)
  | printf (es : List Expr) (target : Target)
  | block (ss : List Statement)
  | choice (c : Expr) (a : Statement) (b : Option Statement)
  | while_ (c : Expr) (s : Statement)
  | doWhile (s : Statement) (c : Expr)
  | for_ (first : Option Statement) (c : Option Expr) (next : Option Statement) (s : Statement)
  | forKeys (key array : String) (s : Statement)
  | break_
  | continue_
  | next
  | nextFile
  | exit (e : Option Expr)
  | return_ (e : Option Expr)
  | delete (array : String) (keys : List Expr)
  | clear (array : String)

instance : Inhabited Statement := ⟨.block []⟩

inductive Pattern where
  | begin
  | end_
  | always
  | expr (e : Expr)
  | range (a b : Expr)

structure Rule where
  pattern : Pattern
  body : Option Statement

/-- A name that is given to a function by itself, and may be that of an array. -/
structure Passing where
  function : String
  position : Nat
  name : String

structure Function where
  name : String
  parameters : List String
  body : Statement
  /-- Names that the body uses as arrays. -/
  arrays : List String := []
  passings : List Passing := []

structure Program where
  rules : List Rule := []
  functions : List Function := []
  arrays : List String := []

/-! ### Reading -/

structure Cursor where
  rest : List Located
  parentheses : Nat := 0
  braces : Nat := 0
  isFunction : Bool := false
  isLoop : Bool := false
  isRecord : Bool := true
  /-- Names that have been used as arrays. -/
  arrays : List String := []
  passings : List Passing := []
  /-- Functions that have been called, with the numbers of their arguments. -/
  calls : List (String × Nat × Nat) := []

abbrev Parser (α : Type) := StateT Cursor (Except Complaint) α

def peek : Parser Located := do
  return ((← get).rest.headD { token := .stop, line := 1 })

def skip : Parser Unit := modify fun c => { c with rest := c.rest.tail }

def wrong {α : Type} : Parser α := do
  let c ← get
  let t := c.rest.headD { token := .stop, line := 1 }
  let isEnd := match t.token with
    | .stop => true
    | _ => false
  let closes := match t.token with
    | .sign s => s = "\x7d" || s = ";"
    | .newline => true
    | .stop => true
    | _ => false
  let near (c : Char) : Text :=
    "missing ".toList ++ c :: " near ".toList ++ t.token.spelling
  let message : Text :=
    if closes && 0 < c.parentheses then near ')'
    else if isEnd && 0 < c.braces then near '\x7d'
    else "syntax error at or near ".toList ++ t.token.spelling
  throw (atLine t.line message)

def refuse {α : Type} (message : String) : Parser α := do
  let t ← peek
  throw (atLine t.line message.toList)

def isSign (s : String) (t : Located) : Bool :=
  match t.token with
  | .sign x => x = s
  | _ => false

def isWord (s : String) (t : Located) : Bool :=
  match t.token with
  | .word x => x = s
  | _ => false

def isNewline (t : Located) : Bool :=
  match t.token with
  | .newline => true
  | _ => false

def isStop (t : Located) : Bool :=
  match t.token with
  | .stop => true
  | _ => false

def accept (s : String) : Parser Bool := do
  if isSign s (← peek) then
    skip
    modify fun c =>
      match s with
      | "(" => { c with parentheses := c.parentheses + 1 }
      | ")" => { c with parentheses := c.parentheses - 1 }
      | "\x7b" => { c with braces := c.braces + 1 }
      | "\x7d" => { c with braces := c.braces - 1 }
      | _ => c
    return true
  else return false

def expect (s : String) : Parser Unit := do
  if !(← accept s) then wrong

def skipNewlines : Parser Unit :=
  modify fun c => { c with rest := c.rest.dropWhile isNewline }

def skipEnds : Parser Unit :=
  modify fun c => { c with rest := c.rest.dropWhile fun t => isNewline t || isSign ";" t }

def name : Parser String := do
  match (← peek).token with
  | .name s => do
    skip
    return s
  | _ => wrong

def noteArray (s : String) : Parser Unit := modify fun c => { c with arrays := s :: c.arrays }

def noteCall (function : String) (arguments : List Expr) : Parser Unit := do
  let line := (← peek).line
  let passings := arguments.zipIdx.filterMap fun (e, position) =>
    match e with
    | .get (.name name) => some { function, position, name }
    | _ => none
  modify fun c =>
    { c with passings := passings ++ c.passings
             calls := (function, arguments.length, line) :: c.calls }

def regexText : Text → Text
  | '\\' :: 'n' :: rest => '\n' :: regexText rest
  | '\\' :: 't' :: rest => '\t' :: regexText rest
  | '\\' :: 'r' :: rest => '\r' :: regexText rest
  | '\\' :: 'f' :: rest => '\x0c' :: regexText rest
  | '\\' :: 'v' :: rest => '\x0b' :: regexText rest
  | '\\' :: 'a' :: rest => '\x07' :: regexText rest
  | '\\' :: '"' :: rest => '"' :: regexText rest
  | '\\' :: '/' :: rest => '/' :: regexText rest
  | '\\' :: c :: rest => '\\' :: c :: regexText rest
  | c :: rest => c :: regexText rest
  | [] => []

def setText : Bool → Text → Text
  | _, [] => []
  | true, '\\' :: c :: rest => c :: setText true rest
  | true, ']' :: rest => ']' :: setText false rest
  | true, c :: rest => c :: setText true rest
  | false, '\\' :: c :: rest => '\\' :: c :: setText false rest
  | false, '[' :: '^' :: ']' :: rest => '[' :: '^' :: ']' :: setText true rest
  | false, '[' :: ']' :: rest => '[' :: ']' :: setText true rest
  | false, '[' :: rest => '[' :: setText true rest
  | false, c :: rest => c :: setText false rest

def regexOf (t : Text) : Except Text Regex :=
  match Regex.read { extended := true } (setText false (regexText t)) with
  | .ok e => .ok e.regex
  | .error message => .error message.toList

def comparisonOf? : String → Option Comparison
  | "<" => some .less
  | "<=" => some .lessOrSame
  | "==" => some .same
  | "!=" => some .different
  | ">" => some .more
  | ">=" => some .moreOrSame
  | _ => none

def assignmentOf? : String → Option (Option Arithmetic)
  | "=" => some none
  | "+=" => some (some .plus)
  | "-=" => some (some .minus)
  | "*=" => some (some .times)
  | "/=" => some (some .over_)
  | "%=" => some (some .rest)
  | "^=" => some (some .power)
  | _ => none

def startsOperand (t : Located) : Bool :=
  match t.token with
  | .number .. => true
  | .text _ => true
  | .regex _ => true
  | .name _ => true
  | .call _ => true
  | .builtin _ => true
  | .sign s => s = "$" || s = "!" || s = "(" || s = "-" || s = "+" || s = "++" || s = "--"
  | _ => false

def arity : String → Nat × Nat
  | "length" => (0, 1)
  | "substr" => (2, 3)
  | "index" => (2, 2)
  | "split" => (2, 3)
  | "sub" => (2, 3)
  | "gsub" => (2, 3)
  | "match" => (2, 2)
  | "sprintf" => (1, 255)
  | "atan2" => (2, 2)
  | "rand" => (0, 0)
  | "srand" => (0, 1)
  | "fflush" => (0, 1)
  | _ => (1, 1)

/-- What may not stand in an expression by itself: a greater sign where it would send output, and
`in` where it would name an array. -/
structure Limits where
  noMore : Bool := false
  noIn : Bool := false

mutual

def expression (l : Limits) : Nat → Parser Expr
  | 0 => wrong
  | fuel + 1 => do
    let e ← ternary l fuel
    match e, (← peek).token with
    | .get p, .sign s =>
      match assignmentOf? s with
      | some op => do
        skip
        skipNewlines
        return .assign p op (← expression l fuel)
      | none => return e
    | _, _ => return e

def ternary (l : Limits) : Nat → Parser Expr
  | 0 => wrong
  | fuel + 1 => do
    let c ← disjunction l fuel
    if ← accept "?" then
      skipNewlines
      let a ← expression l fuel
      skipNewlines
      expect ":"
      skipNewlines
      return .choice c a (← expression l fuel)
    else return c

def disjunction (l : Limits) : Nat → Parser Expr
  | 0 => wrong
  | fuel + 1 => do
    let a ← conjunction l fuel
    more fuel a
where
  more : Nat → Expr → Parser Expr
    | 0, _ => wrong
    | fuel + 1, a => do
      if ← accept "||" then
        skipNewlines
        more fuel (.or a (← conjunction l fuel))
      else return a

def conjunction (l : Limits) : Nat → Parser Expr
  | 0 => wrong
  | fuel + 1 => do
    let a ← membership l fuel
    more fuel a
where
  more : Nat → Expr → Parser Expr
    | 0, _ => wrong
    | fuel + 1, a => do
      if ← accept "&&" then
        skipNewlines
        more fuel (.and a (← membership l fuel))
      else return a

def membership (l : Limits) : Nat → Parser Expr
  | 0 => wrong
  | fuel + 1 => do
    let a ← matching l fuel
    more fuel a
where
  more : Nat → Expr → Parser Expr
    | 0, _ => wrong
    | fuel + 1, a => do
      if !l.noIn && isWord "in" (← peek) then
        skip
        let array ← name
        noteArray array
        let keys : List Expr := match a with
          | .group es => es
          | e => [e]
        more fuel (.isIn keys array)
      else return a

def matching (l : Limits) : Nat → Parser Expr
  | 0 => wrong
  | fuel + 1 => do
    let a ← comparison l fuel
    more fuel a
where
  more : Nat → Expr → Parser Expr
    | 0, _ => wrong
    | fuel + 1, a => do
      if ← accept "~" then more fuel (.fits false a (← comparison l fuel))
      else if ← accept "!~" then more fuel (.fits true a (← comparison l fuel))
      else return a

def comparison (l : Limits) : Nat → Parser Expr
  | 0 => wrong
  | fuel + 1 => do
    let a ← concatenation l fuel
    more fuel a
where
  more : Nat → Expr → Parser Expr
    | 0, _ => wrong
    | fuel + 1, a => do
      match (← peek).token with
      | .sign s =>
        if s = "|" && isWord "getline" (((← get).rest.drop 1).headD default) then
          skip
          skip
          let p ← optionalPlace fuel
          more fuel (.getline .command (some a) p)
        else if s = ">" && l.noMore then return a
        else
          match comparisonOf? s with
          | some op => do
            skip
            more fuel (.compare op a (← concatenation l fuel))
          | none => return a
      | _ => return a

def concatenation (l : Limits) : Nat → Parser Expr
  | 0 => wrong
  | fuel + 1 => do
    let a ← sum l fuel
    more fuel a
where
  more : Nat → Expr → Parser Expr
    | 0, _ => wrong
    | fuel + 1, a => do
      let t ← peek
      if startsOperand t && !isSign "!" t then more fuel (.join a (← sum l fuel)) else return a

def sum (l : Limits) : Nat → Parser Expr
  | 0 => wrong
  | fuel + 1 => do
    let a ← product l fuel
    more fuel a
where
  more : Nat → Expr → Parser Expr
    | 0, _ => wrong
    | fuel + 1, a => do
      if ← accept "+" then more fuel (.arithmetic .plus a (← product l fuel))
      else if ← accept "-" then more fuel (.arithmetic .minus a (← product l fuel))
      else return a

def product (l : Limits) : Nat → Parser Expr
  | 0 => wrong
  | fuel + 1 => do
    let a ← unary l fuel
    more fuel a
where
  more : Nat → Expr → Parser Expr
    | 0, _ => wrong
    | fuel + 1, a => do
      if ← accept "*" then more fuel (.arithmetic .times a (← unary l fuel))
      else if ← accept "/" then more fuel (.arithmetic .over_ a (← unary l fuel))
      else if ← accept "%" then more fuel (.arithmetic .rest a (← unary l fuel))
      else return a

def unary (l : Limits) : Nat → Parser Expr
  | 0 => wrong
  | fuel + 1 => do
    if ← accept "!" then return .not (← unary l fuel)
    else if ← accept "-" then return .negative (← unary l fuel)
    else if ← accept "+" then return .positive (← unary l fuel)
    else power l fuel

def power (l : Limits) : Nat → Parser Expr
  | 0 => wrong
  | fuel + 1 => do
    let a ← postfix_ l fuel
    if ← accept "^" then
      if ← accept "-" then return .arithmetic .power a (.negative (← power l fuel))
      else if ← accept "+" then return .arithmetic .power a (← power l fuel)
      else return .arithmetic .power a (← power l fuel)
    else return a

def postfix_ (l : Limits) : Nat → Parser Expr
  | 0 => wrong
  | fuel + 1 => do
    let e ← primary l fuel
    match e with
    | .get p =>
      if ← accept "++" then return .step p true false
      else if ← accept "--" then return .step p false false
      else return e
    | _ => return e

def optionalPlace : Nat → Parser (Option Place)
  | 0 => wrong
  | fuel + 1 => do
    let starts := match (← peek).token with
      | .name _ => true
      | .sign s => s = "$"
      | _ => false
    if !starts then return none
    else
      match ← primary {} fuel with
      | .get p => return some p
      | _ => wrong

def primary (l : Limits) : Nat → Parser Expr
  | 0 => wrong
  | fuel + 1 => do
    let t ← peek
    match t.token with
    | .number f _ => do
      skip
      return .number f
    | .text s => do
      skip
      return .text s
    | .regex s => do
      skip
      match regexOf s with
      | .ok r => return .regex r
      | .error message =>
        throw ("regular expression compile failed (".toList ++ message ++ ")\n".toList ++ s)
    | .name s => do
      skip
      if ← accept "[" then
        noteArray s
        let keys ← list fuel
        expect "]"
        return .get (.element s keys)
      else return .get (.name s)
    | .call s => do
      skip
      expect "("
      let arguments ← if ← accept ")" then pure [] else arguments fuel
      noteCall s arguments
      return .call s arguments
    | .builtin s => do
      skip
      let arguments ←
        if isSign "(" (← peek) then do
          expect "("
          if ← accept ")" then pure [] else arguments fuel
        else if s = "length" then pure []
        else wrong
      let (least, most) := arity s
      if arguments.length < least || most < arguments.length then
        refuse ("wrong number of arguments in call to " ++ s)
      else
        match s, arguments with
        | "split", _ :: .get (.name array) :: _ => noteArray array
        | _, _ => pure ()
        return .builtin s arguments
    | .word "getline" => do
      skip
      let p ← optionalPlace fuel
      if ← accept "<" then return .getline .file (some (← postfix_ l fuel)) p
      else return .getline .main none p
    | .sign "$" => do
      skip
      if ← accept "++" then
        match ← primary l fuel with
        | .get p => return .get (.field (.step p true true))
        | _ => wrong
      else if ← accept "--" then
        match ← primary l fuel with
        | .get p => return .get (.field (.step p false true))
        | _ => wrong
      else if ← accept "-" then return .get (.field (.negative (← primary l fuel)))
      else return .get (.field (← primary l fuel))
    | .sign "++" => do
      skip
      match ← primary l fuel with
      | .get p => return .step p true true
      | _ => wrong
    | .sign "--" => do
      skip
      match ← primary l fuel with
      | .get p => return .step p false true
      | _ => wrong
    | .sign "(" => do
      expect "("
      let es ← list fuel
      expect ")"
      return .group es
    | .sign "-" => do
      skip
      return .negative (← unary l fuel)
    | .sign "+" => do
      skip
      return .positive (← unary l fuel)
    | .sign "!" => do
      skip
      return .not (← unary l fuel)
    | _ => wrong

def list : Nat → Parser (List Expr)
  | 0 => wrong
  | fuel + 1 => do
    skipNewlines
    let e ← expression {} fuel
    skipNewlines
    if ← accept "," then return e :: (← list fuel) else return [e]

def arguments : Nat → Parser (List Expr)
  | 0 => wrong
  | fuel + 1 => do
    let es ← list fuel
    expect ")"
    return es

end

/-! ### Statements -/

def statementEnd : Parser Unit := do
  let t ← peek
  if isSign ";" t || isNewline t then skip
  else if isSign "\x7d" t || isStop t then return ()
  else wrong

def endsPrint (t : Located) : Bool :=
  match t.token with
  | .sign s => s = ";" || s = "\x7d" || s = ">" || s = ">>" || s = "|"
  | .newline => true
  | .stop => true
  | _ => false

def printTarget (fuel : Nat) : Parser Target := do
  if ← accept ">" then return .file (← concatenation { noMore := true } fuel)
  else if ← accept ">>" then return .append (← concatenation { noMore := true } fuel)
  else if ← accept "|" then return .command (← concatenation { noMore := true } fuel)
  else return .output

def printed : Nat → Parser (List Expr × Target)
  | 0 => wrong
  | fuel + 1 => do
    let es ← if endsPrint (← peek) then pure [] else values fuel
    let es : List Expr := match es with
      | [.group inner] => inner
      | es => es
    return (es, ← printTarget fuel)
where
  values : Nat → Parser (List Expr)
    | 0 => wrong
    | fuel + 1 => do
      let e ← expression { noMore := true } fuel
      if ← accept "," then
        skipNewlines
        return e :: (← values fuel)
      else return [e]

mutual

def simple : Nat → Parser Statement
  | 0 => wrong
  | fuel + 1 => do
    let t ← peek
    if isWord "print" t then
      skip
      let (es, target) ← printed fuel
      return .print es target
    else if isWord "printf" t then
      skip
      let (es, target) ← printed fuel
      if es.isEmpty then refuse "no arguments in call to printf" else return .printf es target
    else if isWord "delete" t then
      skip
      let array ← name
      noteArray array
      if ← accept "[" then
        let keys ← list fuel
        expect "]"
        return .delete array keys
      else return .clear array
    else return .expr (← expression {} fuel)

def statement : Nat → Parser Statement
  | 0 => wrong
  | fuel + 1 => do
    let t ← peek
    let c ← get
    match t.token with
    | .sign "\x7b" => do
      let b ← block fuel
      return b
    | .sign ";" => do
      skip
      return .block []
    | .word "if" => do
      skip
      expect "("
      let e ← expression {} fuel
      expect ")"
      skipNewlines
      let a ← statement fuel
      let saved ← get
      skipEnds
      if isWord "else" (← peek) then
        skip
        skipNewlines
        return .choice e a (some (← statement fuel))
      else
        set saved
        return .choice e a none
    | .word "while" => do
      skip
      expect "("
      let e ← expression {} fuel
      expect ")"
      if ← accept ";" then return .while_ e (.block [])
      else
        skipNewlines
        return .while_ e (← looped fuel)
    | .word "do" => do
      skip
      skipNewlines
      let s ← looped fuel
      skipEnds
      if !isWord "while" (← peek) then wrong
      skip
      expect "("
      let e ← expression {} fuel
      expect ")"
      statementEnd
      return .doWhile s e
    | .word "for" => do
      skip
      expect "("
      forLoop fuel
    | .word "break" => do
      if !c.isLoop then refuse "break statement outside of loop"
      skip
      statementEnd
      return .break_
    | .word "continue" => do
      if !c.isLoop then refuse "continue statement outside of loop"
      skip
      statementEnd
      return .continue_
    | .word "next" => do
      if !c.isRecord then refuse "improper use of next"
      skip
      statementEnd
      return .next
    | .word "nextfile" => do
      skip
      statementEnd
      return .nextFile
    | .word "exit" => do
      skip
      let e ← if startsOperand (← peek) then some <$> expression {} fuel else pure none
      statementEnd
      return .exit e
    | .word "return" => do
      if !c.isFunction then refuse "return outside function body"
      skip
      let e ← if startsOperand (← peek) then some <$> expression {} fuel else pure none
      statementEnd
      return .return_ e
    | _ => do
      let s ← simple fuel
      statementEnd
      return s

def looped : Nat → Parser Statement
  | 0 => wrong
  | fuel + 1 => do
    let before := (← get).isLoop
    modify fun c => { c with isLoop := true }
    let s ← statement fuel
    modify fun c => { c with isLoop := before }
    return s

def forLoop : Nat → Parser Statement
  | 0 => wrong
  | fuel + 1 => do
    match (← get).rest.map Located.token with
    | .name key :: .word "in" :: .name array :: .sign ")" :: _ => do
      skip
      skip
      skip
      noteArray array
      expect ")"
      skipNewlines
      return .forKeys key array (← looped fuel)
    | _ => do
      let first ← if isSign ";" (← peek) then pure none else some <$> simple fuel
      expect ";"
      skipNewlines
      let e ← if isSign ";" (← peek) then pure none else some <$> expression {} fuel
      expect ";"
      skipNewlines
      let next ← if isSign ")" (← peek) then pure none else some <$> simple fuel
      expect ")"
      if ← accept ";" then return .for_ first e next (.block [])
      else
        skipNewlines
        return .for_ first e next (← looped fuel)

def block : Nat → Parser Statement
  | 0 => wrong
  | fuel + 1 => do
    expect "\x7b"
    let ss ← statements fuel
    expect "\x7d"
    return .block ss

def statements : Nat → Parser (List Statement)
  | 0 => wrong
  | fuel + 1 => do
    skipEnds
    if isSign "\x7d" (← peek) then return []
    else
      let s ← statement fuel
      return s :: (← statements fuel)

end

/-! ### Rules -/

def parameters : Nat → Parser (List String)
  | 0 => wrong
  | fuel + 1 => do
    skipNewlines
    let s ← name
    skipNewlines
    if ← accept "," then return s :: (← parameters fuel) else return [s]

def function (fuel : Nat) : Parser Function := do
  let s ←
    match (← peek).token with
    | .call s => pure s
    | .name s => pure s
    | _ => wrong
  skip
  expect "("
  let ps ← if isSign ")" (← peek) then pure [] else parameters fuel
  expect ")"
  skipNewlines
  let outside ← get
  modify fun c => { c with isFunction := true, arrays := [], passings := [] }
  let body ← block fuel
  let inside ← get
  let isLocal (s : String) : Bool := ps.contains s
  modify fun c =>
    { c with
      isFunction := false
      arrays := outside.arrays ++ inside.arrays.filter fun s => !isLocal s
      passings := outside.passings ++ inside.passings.filter fun p => !isLocal p.name }
  return { name := s, parameters := ps, body, arrays := inside.arrays.filter isLocal
           passings := inside.passings.filter fun p => isLocal p.name }

def ruleBody (fuel : Nat) : Parser (Option Statement) := do
  if isSign "\x7b" (← peek) then some <$> block fuel else pure none

def rule (fuel : Nat) : Parser Rule := do
  let t ← peek
  let special (pattern : Pattern) : Parser Rule := do
    skip
    if !isSign "\x7b" (← peek) then wrong
    modify fun c => { c with isRecord := false }
    let body ← block fuel
    modify fun c => { c with isRecord := true }
    return { pattern, body := some body }
  if isWord "BEGIN" t then special .begin
  else if isWord "END" t then special .end_
  else if isSign "\x7b" t then return { pattern := .always, body := some (← block fuel) }
  else
    let a ← expression {} fuel
    if ← accept "," then
      skipNewlines
      let b ← expression {} fuel
      return { pattern := .range a b, body := ← ruleBody fuel }
    else return { pattern := .expr a, body := ← ruleBody fuel }

def ruleEnd (hasBody : Bool) : Parser Unit := do
  let t ← peek
  if hasBody || isNewline t || isSign ";" t || isStop t then return () else wrong

def program (size : Nat) : Nat → Program → Parser Program
  | 0, p => return p
  | fuel + 1, p => do
    skipEnds
    let t ← peek
    if isStop t then return p
    else if isWord "function" t then
      skip
      let f ← function size
      program size fuel { p with functions := p.functions ++ [f] }
    else
      let r ← rule size
      ruleEnd r.body.isSome
      program size fuel { p with rules := p.rules ++ [r] }

def checkCalls (p : Program) (last : Nat) : List (String × Nat × Nat) → Except Complaint Unit
  | [] => .ok ()
  | (name, count, line) :: rest =>
    match p.functions.find? fun f => f.name = name with
    | none => .error (atLine last ("function " ++ name ++ " never defined").toList)
    | some f =>
      if f.parameters.length < count then
        .error (atLine line ("too many arguments in call to " ++ name).toList)
      else checkCalls p last rest

/-- The functions with one more round of names that are arrays because of what they are given to. -/
def spread (fs : List Function) : List Function :=
  fs.map fun f =>
    let more := f.passings.filterMap fun p => do
      let g ← fs.find? fun g => g.name = p.function
      let parameter ← g.parameters[p.position]?
      if g.arrays.contains parameter && !f.arrays.contains p.name then some p.name else none
    { f with arrays := more ++ f.arrays }

def read (t : Text) : Except Complaint Program := do
  let t := t ++ ['\n']
  let all ← tokens (t.length + 1) 1 .newline [] t
  let (p, c) ← (program (40 * all.length + 40) (all.length + 1) {}).run { rest := all }
  checkCalls p ((all.getLast?.map Located.line).getD 1) c.calls.reverse
  let functions := Nat.repeat spread p.functions.length p.functions
  let more := c.passings.filterMap fun (x : Passing) => do
    let g ← functions.find? fun g => g.name = x.function
    let parameter ← g.parameters[x.position]?
    if g.arrays.contains parameter then some x.name else none
  return { p with functions, arrays := more ++ c.arrays }

end Awk

end Tool

end Proctor
