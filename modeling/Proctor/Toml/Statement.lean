import Proctor.Toml.Moment
import Proctor.Toml.Table

/-!
# Statements of a TOML document

A document is read line by line into headers and pairs of a key and a value. Every reader takes the
characters ahead and answers with what it read and the characters left, or with nothing. Values nest
at most eighty deep, and a key has at most eighty parts.
-/

set_option autoImplicit false

namespace Proctor.Toml

/-- The greatest depth of nested values and the greatest number of parts of a key. -/
def depthLimit : Nat := 80

def isSpace (c : Char) : Bool := c = ' ' || c = '\t'

def skipSpaces (s : List Char) : List Char := s.dropWhile isSpace

def comment (s : List Char) : List Char := s.dropWhile isText

def skipLines : Nat → List Char → List Char
  | 0, s => s
  | fuel + 1, s =>
    match skipSpaces s with
    | '\n' :: rest => skipLines fuel rest
    | '\r' :: '\n' :: rest => skipLines fuel rest
    | '#' :: rest => skipLines fuel (comment rest)
    | s => s

def lineEnd (s : List Char) : Option (List Char) :=
  let rest := match skipSpaces s with
    | '#' :: rest => comment rest
    | rest => rest
  match rest with
  | [] => some []
  | '\n' :: rest => some rest
  | '\r' :: '\n' :: rest => some rest
  | _ => none

def isBare (c : Char) : Bool :=
  ('a' ≤ c && c ≤ 'z') || ('A' ≤ c && c ≤ 'Z') || ('0' ≤ c && c ≤ '9') || c = '_' || c = '-'

def simpleKey (s : List Char) : Option (String × List Char) :=
  match s with
  | '"' :: rest => (basic rest).map fun (text, rest) => (String.ofList text, rest)
  | '\'' :: rest => (literal rest).map fun (text, rest) => (String.ofList text, rest)
  | s =>
    match s.takeWhile isBare with
    | [] => none
    | text => some (String.ofList text, s.dropWhile isBare)

def keyParts : Nat → List Char → Option (List String × List Char)
  | 0, _ => none
  | fuel + 1, s => do
    let (part, rest) ← simpleKey s
    match skipSpaces rest with
    | '.' :: rest =>
      let (parts, rest) ← keyParts fuel (skipSpaces rest)
      return (part :: parts, rest)
    | rest => return ([part], rest)

def key (s : List Char) : Option (List String × List Char) :=
  keyParts depthLimit s

def isScalarChar (c : Char) : Bool :=
  !(isSpace c || c = '\n' || c = '\r' || c = '#' || c = ',' || c = '=' || c = '[' || c = ']' ||
    c = '\x7b' || c = '\x7d' || c = '"' || c = '\'')

def scalar? (s : List Char) : Option Value :=
  if s = ['t', 'r', 'u', 'e'] then some (.boolean true)
  else if s = ['f', 'a', 'l', 's', 'e'] then some (.boolean false)
  else if let some n := integer? s then some (.integer n)
  else if let some value := float? s then some value
  else if isMoment s then some .moment
  else none

/-- A value without quotes or brackets. A date may be followed by one space and a time. -/
def scalar (s : List Char) : Option (Value × List Char) :=
  let first := s.takeWhile isScalarChar
  let rest := s.dropWhile isScalarChar
  match date? first, rest with
  | some [], ' ' :: c :: _ =>
    if isDecimalDigit c then
      let later := rest.tail
      let second := later.takeWhile isScalarChar
      (scalar? (first ++ ' ' :: second)).map fun value => (value, later.dropWhile isScalarChar)
    else (scalar? first).map fun value => (value, rest)
  | _, _ => (scalar? first).map fun value => (value, rest)

def string (s : List Char) : Option (Value × List Char) :=
  let text : Option (List Char × List Char) := match s with
    | '"' :: '"' :: '"' :: rest => many '"' rest
    | '\'' :: '\'' :: '\'' :: rest => many '\'' rest
    | '"' :: rest => basic rest
    | '\'' :: rest => literal rest
    | _ => none
  text.map fun (text, rest) => (.string (String.ofList text), rest)

mutual

def value : Nat → Nat → List Char → Option (Value × List Char)
  | 0, _, _ => none
  | fuel + 1, depth, s =>
    match s with
    | '[' :: rest =>
      if depth = 0 then none
      else
        (items fuel (depth - 1) (skipLines rest.length rest)).map fun (items, rest) =>
          (.array false items, rest)
    | '\x7b' :: rest =>
      if depth = 0 then none
      else do
        let (pairs, rest) ← pairs fuel (depth - 1) (skipLines rest.length rest)
        let table ← inlineTable pairs
        return (table, rest)
    | '"' :: _ => string s
    | '\'' :: _ => string s
    | s => scalar s

def items : Nat → Nat → List Char → Option (List Value × List Char)
  | 0, _, _ => none
  | _ + 1, _, ']' :: rest => some ([], rest)
  | fuel + 1, depth, s => do
    let (item, rest) ← value fuel depth s
    match skipLines rest.length rest with
    | ',' :: rest =>
      let (more, rest) ← items fuel depth (skipLines rest.length rest)
      return (item :: more, rest)
    | ']' :: rest => return ([item], rest)
    | _ => none

/-- The pairs of a table between braces up to its closing brace. Lines may end around the equals
sign. -/
def pairs : Nat → Nat → List Char → Option (List (List String × Value) × List Char)
  | 0, _, _ => none
  | _ + 1, _, '\x7d' :: rest => some ([], rest)
  | fuel + 1, depth, s => do
    let (keys, rest) ← key s
    match skipLines rest.length rest with
    | '=' :: rest =>
      let (item, rest) ← value fuel depth (skipLines rest.length rest)
      match skipLines rest.length rest with
      | ',' :: rest =>
        let (more, rest) ← pairs fuel depth (skipLines rest.length rest)
        return ((keys, item) :: more, rest)
      | '\x7d' :: rest => return ([(keys, item)], rest)
      | _ => none
    | _ => none

end

inductive Statement where
  | header (keys : List String)
  | itemHeader (keys : List String)
  | pair (keys : List String) (value : Value)
  deriving Repr

def statement (s : List Char) : Option (Statement × List Char) :=
  match s with
  | '[' :: '[' :: rest => do
    let (keys, rest) ← key (skipSpaces rest)
    match rest with
    | ']' :: ']' :: rest => (lineEnd rest).map fun rest => (.itemHeader keys, rest)
    | _ => none
  | '[' :: rest => do
    let (keys, rest) ← key (skipSpaces rest)
    match rest with
    | ']' :: rest => (lineEnd rest).map fun rest => (.header keys, rest)
    | _ => none
  | s => do
    let (keys, rest) ← key s
    match rest with
    | '=' :: rest =>
      let rest := skipSpaces rest
      let (value, rest) ← value (2 * rest.length + 2) depthLimit rest
      (lineEnd rest).map fun rest => (.pair keys value, rest)
    | _ => none

def statements : Nat → List Char → Option (List Statement)
  | 0, _ => none
  | fuel + 1, s =>
    match skipLines s.length s with
    | [] => some []
    | s => do
      let (first, rest) ← statement s
      let more ← statements fuel rest
      return first :: more

end Proctor.Toml
