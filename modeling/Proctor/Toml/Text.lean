/-!
# Strings of a TOML document

The four kinds of strings, each read by a small machine that takes one character at a time. A
machine is given the characters after the opening quotes; it answers with the text and with the
characters after the closing quotes, or with nothing if the string is not well formed.
-/

set_option autoImplicit false

namespace Proctor.Toml

def isText (c : Char) : Bool :=
  let n := c.toNat
  n == 9 || (0x20 ≤ n && n != 0x7F)

def isHexDigit (c : Char) : Bool :=
  ('0' ≤ c && c ≤ '9') || ('a' ≤ c && c ≤ 'f') || ('A' ≤ c && c ≤ 'F')

def digitValue (c : Char) : Nat :=
  if '0' ≤ c && c ≤ '9' then c.toNat - '0'.toNat
  else if 'a' ≤ c && c ≤ 'f' then c.toNat - 'a'.toNat + 10
  else c.toNat - 'A'.toNat + 10

def scalarValue? (n : Nat) : Option Char :=
  if h : n.isValidChar then some (Char.ofNatAux n h) else none

/-- What follows a backslash: a character by its letter, or the number of digits of one given by
its number. -/
inductive Escape where
  | char (c : Char)
  | digits (count : Nat)
  deriving DecidableEq, Repr

def escape? : Char → Option Escape
  | 'b' => some (.char '\x08')
  | 't' => some (.char '\t')
  | 'n' => some (.char '\n')
  | 'f' => some (.char '\x0c')
  | 'r' => some (.char '\r')
  | 'e' => some (.char '\x1b')
  | '"' => some (.char '"')
  | '\\' => some (.char '\\')
  | 'x' => some (.digits 2)
  | 'u' => some (.digits 4)
  | 'U' => some (.digits 8)
  | _ => none

inductive Place where
  | plain
  /-- After a backslash. -/
  | escaped
  /-- Inside a number, with some digits to come. -/
  | numbered (left value : Nat)
  /-- After some quotes that may yet close the string. -/
  | quotes (count : Nat)
  /-- After a carriage return. -/
  | returned
  /-- In the blank after a backslash at the end of a line; the line has ended or not yet. -/
  | gap (ended : Bool)
  /-- After a carriage return in such a blank. -/
  | gapReturned
  deriving DecidableEq, Repr

def numberedStep (left value : Nat) (text : List Char) (c : Char) : Option (Place × List Char) :=
  if isHexDigit c then
    let value := value * 16 + digitValue c
    if left ≤ 1 then (scalarValue? value).map fun c => (.plain, c :: text)
    else some (.numbered (left - 1) value, text)
  else none

def escapedStep (text : List Char) (c : Char) : Option (Place × List Char) :=
  match escape? c with
  | some (.char c) => some (.plain, c :: text)
  | some (.digits count) => some (.numbered count 0, text)
  | none => none

def basicFrom : Place → List Char → List Char → Option (List Char × List Char)
  | _, _, [] => none
  | .plain, text, c :: rest =>
    if c = '"' then some (text.reverse, rest)
    else if c = '\\' then basicFrom .escaped text rest
    else if isText c then basicFrom .plain (c :: text) rest
    else none
  | .escaped, text, c :: rest =>
    match escapedStep text c with
    | some (place, text) => basicFrom place text rest
    | none => none
  | .numbered left value, text, c :: rest =>
    match numberedStep left value text c with
    | some (place, text) => basicFrom place text rest
    | none => none
  | _, _, _ => none

def basic (s : List Char) : Option (List Char × List Char) := basicFrom .plain [] s

def literalFrom : List Char → List Char → Option (List Char × List Char)
  | _, [] => none
  | text, c :: rest =>
    if c = '\'' then some (text.reverse, rest)
    else if isText c then literalFrom (c :: text) rest
    else none

def literal (s : List Char) : Option (List Char × List Char) := literalFrom [] s

/-- A character in the open part of a string of many lines. A backslash counts only where escapes
do. -/
def openStep (quote : Char) (text : List Char) (c : Char) : Option (Place × List Char) :=
  if c = quote then some (.quotes 1, text)
  else if c = '\\' && quote = '"' then some (.escaped, text)
  else if c = '\n' then some (.plain, c :: text)
  else if c = '\r' then some (.returned, text)
  else if isText c then some (.plain, c :: text)
  else none

/-- A character in the blank after a backslash, which must reach the end of the line. -/
def gapStep (ended : Bool) (quote : Char) (text : List Char) (c : Char) :
    Option (Place × List Char) :=
  if c = ' ' || c = '\t' then some (.gap ended, text)
  else if c = '\n' then some (.gap true, text)
  else if c = '\r' then some (.gapReturned, text)
  else if ended then openStep quote text c
  else none

def manyStep (quote : Char) (place : Place) (text : List Char) (c : Char) :
    Option (Place × List Char) :=
  match place with
  | .plain => openStep quote text c
  | .escaped =>
    if c = ' ' || c = '\t' || c = '\n' || c = '\r' then gapStep false quote text c
    else escapedStep text c
  | .numbered left value => numberedStep left value text c
  | .quotes count =>
    if c = quote then some (.quotes (count + 1), text)
    else openStep quote (List.replicate count quote ++ text) c
  | .returned => if c = '\n' then some (.plain, '\n' :: '\r' :: text) else none
  | .gap ended => gapStep ended quote text c
  | .gapReturned => if c = '\n' then some (.gap true, text) else none

/-- A string of many lines. Of three to five quotes in a row the last three close it. -/
def manyFrom (quote : Char) : Place → List Char → List Char → Option (List Char × List Char)
  | .quotes count, text, [] =>
    if 3 ≤ count then some ((List.replicate (count - 3) quote ++ text).reverse, []) else none
  | _, _, [] => none
  | place, text, c :: rest =>
    match place with
    | .quotes count =>
      if count = 5 || (3 ≤ count && c ≠ quote) then
        some ((List.replicate (count - 3) quote ++ text).reverse, c :: rest)
      else
        match manyStep quote place text c with
        | some (place, text) => manyFrom quote place text rest
        | none => none
    | _ =>
      match manyStep quote place text c with
      | some (place, text) => manyFrom quote place text rest
      | none => none

def afterOpening : List Char → List Char
  | '\n' :: rest => rest
  | '\r' :: '\n' :: rest => rest
  | s => s

def many (quote : Char) (s : List Char) : Option (List Char × List Char) :=
  manyFrom quote .plain [] (afterOpening s)

end Proctor.Toml
