import Proctor.Decimal.Binary

/-!
# Decimals of a binary fraction

The shortest decimal is the one with the fewest digits among those nearer to the fraction than to
any other fraction; of two such decimals the nearer one is taken, and the greater one on a tie. It
is written without an exponent. The other form has a fixed number of places.
-/

set_option autoImplicit false

namespace Proctor

/-- The number `digits * 10 ^ exponent`. -/
structure Decimal where
  digits : Nat
  exponent : Int
  deriving DecidableEq, Repr

namespace Decimal

def ratio (d : Decimal) : Nat × Nat :=
  if d.exponent < 0 then (d.digits, tenTo (-d.exponent).toNat)
  else (d.digits * tenTo d.exponent.toNat, 1)

def zeros (n : Nat) : String := String.ofList (List.replicate n '0')

def pointed (digits : List Char) (places : Nat) : String :=
  let padded := List.replicate (places + 1 - digits.length) '0' ++ digits
  String.ofList (padded.take (padded.length - places)) ++ "." ++
    String.ofList (padded.drop (padded.length - places))

def render (d : Decimal) : String :=
  let digits := Nat.toDigits 10 d.digits
  if 0 ≤ d.exponent then
    if d.digits = 0 then "0" else String.ofList digits ++ zeros d.exponent.toNat
  else pointed digits (-d.exponent).toNat

def renderPointed (d : Decimal) : String :=
  if 0 ≤ d.exponent then d.render ++ ".0" else d.render

end Decimal

namespace Binary

def ratioLe (a b : Nat × Nat) : Bool := a.1 * b.2 ≤ b.1 * a.2

def ratioLt (a b : Nat × Nat) : Bool := a.1 * b.2 < b.1 * a.2

def distance (a b : Nat × Nat) : Nat × Nat :=
  ((a.1 * b.2 - b.1 * a.2) + (b.1 * a.2 - a.1 * b.2), a.2 * b.2)

/-- The bounds between which a number is nearer to `b` than to its neighbours. The gap below a power
of two is half as wide. -/
def bounds (b : Binary) : (Nat × Nat) × (Nat × Nat) :=
  let below := if b.mantissa = twoTo 52 ∧ leastExponent < b.exponent then 1 else 2
  let quarter : Nat → Nat × Nat := fun n => ratio ⟨n, b.exponent - 2⟩
  (quarter (4 * b.mantissa - below), quarter (4 * b.mantissa + 2))

/-- Whether a decimal reads back as `b`. On the bounds themselves it does if `b` is even. -/
def readsBack (b : Binary) (d : Decimal) : Bool :=
  let (low, high) := b.bounds
  if b.mantissa % 2 = 0 then ratioLe low d.ratio && ratioLe d.ratio high
  else ratioLt low d.ratio && ratioLt d.ratio high

def magnitude (b : Binary) : Int :=
  let guess : Int := ((Nat.log2 b.mantissa : Int) + b.exponent) * 30103 / 100000
  if ratioLe (Decimal.ratio ⟨1, guess + 1⟩) b.ratio then guess + 1
  else if ratioLt b.ratio (Decimal.ratio ⟨1, guess⟩) then guess - 1
  else guess

def candidate? (b : Binary) (digits : Nat) : Option Decimal :=
  let e := b.magnitude - digits + 1
  let (p, q) := b.ratio
  let n := if e < 0 then p * tenTo (-e).toNat / q else p / (q * tenTo e.toNat)
  let low : Decimal := ⟨n, e⟩
  let high : Decimal := if n + 1 = tenTo digits then ⟨1, e + digits⟩ else ⟨n + 1, e⟩
  match readsBack b low, readsBack b high with
  | true, true =>
    if ratioLt (distance b.ratio low.ratio) (distance b.ratio high.ratio) then some low
    else some high
  | true, false => some low
  | false, true => some high
  | false, false => none

/-- Takes the first number of digits that serves; seventeen always do. -/
def shortest (b : Binary) : Decimal :=
  if b.mantissa = 0 then ⟨0, 0⟩
  else ((List.range 17).findSome? fun i => b.candidate? (i + 1)).getD ⟨0, 0⟩

def fixed (b : Binary) (places : Nat) : String :=
  let (p, q) := b.ratio
  Decimal.pointed (Nat.toDigits 10 (roundDiv (p * tenTo places) q)) places

end Binary

end Proctor
