import Proctor.Toml.Text
import Proctor.Toml.Value

/-!
# Numbers of a TOML document

Digits may be parted by single underscores. An integer has no leading zero unless it has a base; a
number with a point or an exponent is held to the nearest binary fraction.
-/

set_option autoImplicit false

namespace Proctor.Toml

def isDecimalDigit (c : Char) : Bool := '0' ≤ c && c ≤ '9'
def isOctalDigit (c : Char) : Bool := '0' ≤ c && c ≤ '7'
def isBinaryDigit (c : Char) : Bool := c = '0' || c = '1'

def digitRun (isDigit : Char → Bool) : List Char → Option (List Char)
  | [] => none
  | [c] => if isDigit c then some [c] else none
  | c :: '_' :: rest => if isDigit c then (digitRun isDigit rest).map (c :: ·) else none
  | c :: rest => if isDigit c then (digitRun isDigit rest).map (c :: ·) else none

def decimalRun (s : List Char) : Option (List Char) :=
  match digitRun isDecimalDigit s with
  | some ('0' :: _ :: _) => none
  | digits => digits

def valueOf (base : Nat) (digits : List Char) : Nat :=
  digits.foldl (fun n c => n * base + digitValue c) 0

def signed : List Char → Bool × List Char
  | '-' :: rest => (true, rest)
  | '+' :: rest => (false, rest)
  | s => (false, s)

def integer? (s : List Char) : Option Int :=
  match s with
  | '0' :: 'x' :: rest => (digitRun isHexDigit rest).map fun ds => (valueOf 16 ds : Int)
  | '0' :: 'o' :: rest => (digitRun isOctalDigit rest).map fun ds => (valueOf 8 ds : Int)
  | '0' :: 'b' :: rest => (digitRun isBinaryDigit rest).map fun ds => (valueOf 2 ds : Int)
  | s =>
    let (negative, rest) := signed s
    (decimalRun rest).map fun ds =>
      if negative then -(valueOf 10 ds : Int) else (valueOf 10 ds : Int)

def exponent? (s : List Char) : Option Int :=
  let (negative, rest) := signed s
  (digitRun isDecimalDigit rest).map fun ds =>
    if negative then -(valueOf 10 ds : Int) else (valueOf 10 ds : Int)

/-- The size of `digits * 10 ^ exponent`. Exponents far out of range are settled without computing
the power. -/
def magnitudeOf (digits : List Char) (exponent : Int) : Magnitude :=
  let n := valueOf 10 digits
  let places : Int := (Nat.toDigits 10 n).length + exponent
  if n = 0 ∨ places < -400 then .finite ⟨0, Binary.leastExponent⟩
  else if 400 < places then .overflow
  else
    let ratio :=
      if exponent < 0 then Binary.ofRatio n (tenTo (-exponent).toNat)
      else Binary.ofRatio (n * tenTo exponent.toNat) 1
    match ratio with
    | some value => .finite value
    | none => .overflow

def isExponentMark (c : Char) : Bool := c = 'e' || c = 'E'

def cut (p : Char → Bool) (s : List Char) : List Char × Option (List Char) :=
  match s.dropWhile (fun c => !p c) with
  | [] => (s, none)
  | _ :: rest => (s.takeWhile (fun c => !p c), some rest)

def unsignedFloat? (s : List Char) : Option Magnitude :=
  if s = ['i', 'n', 'f'] then some .infinite
  else if s = ['n', 'a', 'n'] then some .notANumber
  else
    let (number, power) := cut isExponentMark s
    let (whole, fraction) := cut (· = '.') number
    if power.isNone && fraction.isNone then none
    else do
      let wholeDigits ← decimalRun whole
      let fractionDigits ← match fraction with
        | none => some []
        | some s => digitRun isDecimalDigit s
      let exponent ← match power with
        | none => some 0
        | some s => exponent? s
      return magnitudeOf (wholeDigits ++ fractionDigits) (exponent - fractionDigits.length)

def float? (s : List Char) : Option Value :=
  let (negative, rest) := signed s
  (unsignedFloat? rest).map (.float negative)

end Proctor.Toml
