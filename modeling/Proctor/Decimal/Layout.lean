import Proctor.Decimal.Quantity
import Proctor.Decimal.Shortest

/-!
# Layout of numbers

How a format directive writes whole numbers and quantities: with a sign, a base, a number of digits,
and room to the left or to the right.
-/

set_option autoImplicit false

namespace Proctor

structure Layout where
  /-- Aligned to the left. -/
  left : Bool := false
  /-- Filled with zeros after the sign. -/
  zero : Bool := false
  plus : Bool := false
  space : Bool := false
  /-- In the longer form that shows the base or the point. -/
  full : Bool := false
  width : Nat := 0
  precision : Option Nat := none
  deriving DecidableEq, Repr, Inhabited

namespace Layout

def place (l : Layout) (t : List Char) : List Char :=
  let missing := List.replicate (l.width - t.length) ' '
  if l.left then t ++ missing else missing ++ t

def placeNumber (l : Layout) (zero : Bool) (start body : List Char) : List Char :=
  if zero && !l.left then
    start ++ List.replicate (l.width - start.length - body.length) '0' ++ body
  else l.place (start ++ body)

def sign (l : Layout) (negative : Bool) : List Char :=
  if negative then ['-'] else if l.plus then ['+'] else if l.space then [' '] else []

/-- At least as many digits as asked for; zero needs none if none are asked for. -/
def atLeast (l : Layout) (n : Nat) (digits : List Char) : List Char :=
  match l.precision with
  | none => digits
  | some k => if n = 0 && k = 0 then [] else List.replicate (k - digits.length) '0' ++ digits

def decimal (l : Layout) (n : Int) : List Char :=
  l.placeNumber (l.zero && l.precision.isNone) (l.sign (n < 0))
    (l.atLeast n.natAbs (Nat.toDigits 10 n.natAbs))

def unsigned (l : Layout) (n : Nat) : List Char :=
  l.placeNumber (l.zero && l.precision.isNone) [] (l.atLeast n (Nat.toDigits 10 n))

def octal (l : Layout) (n : Nat) : List Char :=
  let digits := l.atLeast n (Nat.toDigits 8 n)
  let digits := if l.full && digits.head? != some '0' then '0' :: digits else digits
  l.placeNumber (l.zero && l.precision.isNone) [] digits

def hexadecimal (l : Layout) (upper : Bool) (n : Nat) : List Char :=
  let digits := l.atLeast n (Nat.toDigits 16 n)
  let start := if l.full && n ≠ 0 then ['0', 'x'] else []
  let text := l.placeNumber (l.zero && l.precision.isNone) start digits
  if upper then text.map Char.toUpper else text

/-! ### Quantities -/

def point (l : Layout) (places : List Char) : List Char :=
  if places.isEmpty && !l.full then [] else '.' :: places

def fixedParts (b : Binary) (places : Nat) : List Char × List Char :=
  let (p, q) := b.ratio
  let digits := Nat.toDigits 10 (roundDiv (p * tenTo places) q)
  let padded := List.replicate (places + 1 - digits.length) '0' ++ digits
  (padded.take (padded.length - places), padded.drop (padded.length - places))

def exponentParts (b : Binary) (places : Nat) : List Char × List Char × Int :=
  if b.mantissa = 0 then (['0'], List.replicate places '0', 0)
  else
    let e := b.magnitude
    let (p, q) := b.ratio
    let shift := (places : Int) - e
    let n := if 0 ≤ shift then roundDiv (p * tenTo shift.toNat) q
      else roundDiv p (q * tenTo (-shift).toNat)
    let (n, e) := if n = tenTo (places + 1) then (tenTo places, e + 1) else (n, e)
    let digits := Nat.toDigits 10 n
    (digits.take 1, digits.drop 1, e)

def exponentText (letter : Char) (least : Nat) (e : Int) : List Char :=
  let digits := Nat.toDigits 10 e.natAbs
  letter :: (if e < 0 then '-' else '+') :: List.replicate (least - digits.length) '0' ++ digits

def withoutZeros (places : List Char) : List Char :=
  (places.reverse.dropWhile (· == '0')).reverse

def fixedBody (l : Layout) (b : Binary) : List Char :=
  let (whole, places) := fixedParts b (l.precision.getD 6)
  whole ++ l.point places

def exponentBody (l : Layout) (b : Binary) : List Char :=
  let (whole, places, e) := exponentParts b (l.precision.getD 6)
  whole ++ l.point places ++ exponentText 'e' 2 e

/-- The shorter of the two forms, without zeros at its end. -/
def generalBody (l : Layout) (b : Binary) : List Char :=
  let digits := max 1 (l.precision.getD 6)
  let (whole, places, e) := exponentParts b (digits - 1)
  let trim (places : List Char) : List Char := if l.full then places else withoutZeros places
  if -4 ≤ e && e < digits then
    let (whole, places) := fixedParts b ((digits : Int) - 1 - e).toNat
    whole ++ l.point (trim places)
  else whole ++ l.point (trim places) ++ exponentText 'e' 2 e

def hexBody (l : Layout) (b : Binary) : List Char :=
  let normal := twoTo 52 ≤ b.mantissa
  let e : Int := if b.mantissa = 0 then 0 else b.exponent + 52
  let (lead, part) := if normal then (1, b.mantissa - twoTo 52) else (0, b.mantissa)
  let (lead, part, places) : Nat × Nat × Option Nat :=
    match l.precision with
    | none => (lead, part, none)
    | some k =>
      if 13 ≤ k then (lead, part, some k)
      else
        let unit := twoTo (52 - 4 * k)
        let n := roundDiv (lead * twoTo 52 + part) unit
        (n / twoTo (4 * k), n % twoTo (4 * k) * unit, some k)
  let digits := Nat.toDigits 16 part
  let padded := List.replicate (13 - digits.length) '0' ++ digits
  let places : List Char :=
    match places with
    | none => withoutZeros padded
    | some k => padded.take k ++ List.replicate (k - 13) '0'
  Nat.toDigits 10 lead ++ l.point places ++ exponentText 'p' 1 e

def quantity (l : Layout) (conversion : Char) (q : Quantity) : List Char :=
  let text : List Char :=
    match q with
    | .infinite negative => l.placeNumber false (l.sign negative) "inf".toList
    | .notNumber negative => l.placeNumber false (l.sign negative) "nan".toList
    | .finite negative b =>
      let number (start body : List Char) : List Char :=
        l.placeNumber l.zero (l.sign negative ++ start) body
      match conversion.toLower with
      | 'f' => number [] (l.fixedBody b)
      | 'e' => number [] (l.exponentBody b)
      | 'a' => number ['0', 'x'] (l.hexBody b)
      | _ => number [] (l.generalBody b)
  if conversion.isUpper then text.map Char.toUpper else text

end Layout

end Proctor
