import Proctor.Decimal.Power

/-!
# Binary fractions

Amounts of time and numbers in a settings file are held to 53 binary digits, as a whole number times
a power of two. All of it is exact arithmetic on natural numbers: a ratio is rounded once, to the
nearest such fraction, and a tie goes to the even one.
-/

set_option autoImplicit false

namespace Proctor

/-- The quotient rounded to the nearest whole number, a tie to the even one. -/
def roundDiv (n d : Nat) : Nat :=
  let q := n / d
  let r := n % d
  if 2 * r < d then q
  else if d < 2 * r then q + 1
  else if q % 2 = 0 then q
  else q + 1

/-- The fraction `mantissa * 2 ^ exponent`. -/
structure Binary where
  mantissa : Nat
  exponent : Int
  deriving DecidableEq, Repr

namespace Binary

def leastExponent : Int := -1074

def greatestExponent : Int := 971

def shifted (n d : Nat) (e : Int) : Nat × Nat :=
  if e < 0 then (n * twoTo (-e).toNat, d) else (n, d * twoTo e.toNat)

/-- An exponent that leaves 53 binary digits before the point of `n / d`, or fewer near zero. -/
def exponentOf (n d : Nat) : Int :=
  let low : Int := (Nat.log2 n : Int) - Nat.log2 d - 53
  let (p, q) := shifted n d low
  max (if twoTo 53 ≤ p / q then low + 1 else low) leastExponent

/-- The nearest fraction to `n / d`, or none when that is too large. -/
def ofRatio (n d : Nat) : Option Binary :=
  if n = 0 then some ⟨0, leastExponent⟩
  else
    let e := exponentOf n d
    let (p, q) := shifted n d e
    let m := roundDiv p q
    let rounded : Binary := if m = twoTo 53 then ⟨twoTo 52, e + 1⟩ else ⟨m, e⟩
    if greatestExponent < rounded.exponent then none else some rounded

def ratio (b : Binary) : Nat × Nat :=
  if b.exponent < 0 then (b.mantissa, twoTo (-b.exponent).toNat)
  else (b.mantissa * twoTo b.exponent.toNat, 1)

def add (a b : Binary) : Option Binary :=
  let (p, q) := a.ratio
  let (r, s) := b.ratio
  ofRatio (p * s + r * q) (q * s)

end Binary

end Proctor
