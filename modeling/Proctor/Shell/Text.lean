import Proctor.Path

/-!
# Text as the shell sees it

The shell looks at bytes and does not care what they encode. A text here has one character for each
byte, all of them below 256, so that bytes and texts stand for each other exactly.
-/

set_option autoImplicit false

namespace Proctor

namespace Shell

abbrev Text := List Char

end Shell

def Bytes.toText (bytes : Bytes) : Shell.Text := bytes.map fun b => Char.ofNat b.toNat

namespace Shell

namespace Text

def toBytes (t : Text) : Bytes := t.map fun c => UInt8.ofNat c.toNat

def ofString (s : String) : Text := (Bytes.ofString s).toText

def isNameStart (c : Char) : Bool := c.isAlpha || c == '_'

def isNameChar (c : Char) : Bool := c.isAlphanum || c == '_'

def isName : Text → Bool
  | [] => false
  | c :: rest => isNameStart c && rest.all isNameChar

def digitValue (c : Char) : Nat := c.toNat - '0'.toNat

def decimal? : Text → Option Nat
  | [] => none
  | t => if t.all Char.isDigit then some (t.foldl (fun n c => n * 10 + digitValue c) 0) else none

def integer? (t : Text) : Option Int :=
  let blank (c : Char) := c == ' ' || c == '\t' || c == '\n'
  let core := ((t.dropWhile blank).reverse.dropWhile blank).reverse
  match core with
  | '-' :: digits => (decimal? digits).map fun n => -(n : Int)
  | '+' :: digits => (decimal? digits).map fun n => (n : Int)
  | digits => (decimal? digits).map fun n => (n : Int)

def ofNat (n : Nat) : Text := (toString n).toList

def ofInt (n : Int) : Text := (toString n).toList

/-- The lines of a text, each without its end; nothing comes after a last line end. -/
def lines (t : Text) : List Text :=
  match t with
  | [] => []
  | _ => go [] t
where
  go : Text → Text → List Text
    | [], [] => []
    | line, [] => [line.reverse]
    | line, '\n' :: rest => line.reverse :: go [] rest
    | line, c :: rest => go (c :: line) rest

def cutAt (p : Char → Bool) (t : Text) : Text × Option Text :=
  match t.dropWhile (fun c => !p c) with
  | [] => (t, none)
  | _ :: rest => (t.takeWhile (fun c => !p c), some rest)

def split (separator : Char) : Text → List Text
  | [] => [[]]
  | c :: rest =>
    if c = separator then [] :: split separator rest
    else
      match split separator rest with
      | [] => [[c]]
      | part :: parts => (c :: part) :: parts

end Text

def pathOf (t : Text) : Path := ⟨t.toBytes⟩

end Shell

end Proctor
