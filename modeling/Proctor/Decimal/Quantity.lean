import Proctor.Decimal.Binary

/-!
# Quantities

Numbers as programs hold them: binary fractions with a sign, and the few things beside them that
arithmetic may lead to. They are read from the start of a text, in decimal or hexadecimal digits.
-/

set_option autoImplicit false

namespace Proctor

inductive Quantity where
  | finite (negative : Bool) (size : Binary)
  | infinite (negative : Bool)
  | notNumber (negative : Bool)
  deriving DecidableEq, Repr

namespace Quantity

def zero : Quantity := .finite false ⟨0, Binary.leastExponent⟩

structure Found where
  value : Quantity
  rest : List Char
  /-- The digits say more than a quantity can hold. -/
  outOfRange : Bool := false

def isSpace (c : Char) : Bool := c == ' ' || ('\t' ≤ c && c ≤ '\r')

def hexDigit? (c : Char) : Option Nat :=
  if c.isDigit then some (c.toNat - '0'.toNat)
  else if 'a' ≤ c && c ≤ 'f' then some (c.toNat - 'a'.toNat + 10)
  else if 'A' ≤ c && c ≤ 'F' then some (c.toNat - 'A'.toNat + 10)
  else none

def digit? (c : Char) : Option Nat := if c.isDigit then some (c.toNat - '0'.toNat) else none

def digits (value? : Char → Option Nat) (base : Nat) : List Char → Nat → Nat → Nat × Nat × List Char
  | [], n, k => (n, k, [])
  | c :: rest, n, k =>
    match value? c with
    | some d => digits value? base rest (n * base + d) (k + 1)
    | none => (n, k, c :: rest)

/-- Digits with a point among them: their number, how many stand after the point, whether there are
any, and the rest. -/
def pointedDigits (value? : Char → Option Nat) (base : Nat) (s : List Char) :
    Nat × Nat × Bool × List Char :=
  let (n, k, rest) := digits value? base s 0 0
  match rest with
  | '.' :: after =>
    let (m, j, left) := digits value? base after n 0
    if k + j = 0 then (0, 0, false, s) else (m, j, true, left)
  | rest => (n, 0, 0 < k, rest)

def exponent (lower upper : Char) (s : List Char) : Int × List Char :=
  match s with
  | c :: after =>
    if c == lower || c == upper then
      let signed := after.head? == some '-' || after.head? == some '+'
      let (n, k, rest) := digits digit? 10 (if signed then after.tail else after) 0 0
      if k = 0 then (0, s)
      else (if after.head? == some '-' then -(n : Int) else n, rest)
    else (0, s)
  | [] => (0, [])

def isExact (n d : Nat) (b : Binary) : Bool :=
  let (p, q) := b.ratio
  n * q = p * d

def nearest (negative : Bool) (n d : Nat) (rest : List Char) : Found :=
  match Binary.ofRatio n d with
  | none => { value := .infinite negative, rest, outOfRange := true }
  | some b =>
    let tiny := b.mantissa < twoTo 52 && b.exponent = Binary.leastExponent
    { value := .finite negative b, rest, outOfRange := tiny && !isExact n d b }

/-- Exponents beyond which a number is as good as infinite or zero. -/
def exponentLimit : Int := 20000

def scaled (negative : Bool) (digits : Nat) (power : Nat → Nat) (e : Int) (rest : List Char) :
    Found :=
  if digits = 0 then { value := .finite negative ⟨0, Binary.leastExponent⟩, rest }
  else if exponentLimit < e then { value := .infinite negative, rest, outOfRange := true }
  else if e < -exponentLimit then
    { value := .finite negative ⟨0, Binary.leastExponent⟩, rest, outOfRange := true }
  else if 0 ≤ e then nearest negative (digits * power e.toNat) 1 rest
  else nearest negative digits (power (-e).toNat) rest

def afterWord (word : List Char) (s : List Char) : Option (List Char) :=
  if word.isPrefixOf ((s.take word.length).map Char.toLower) then some (s.drop word.length)
  else none

def read? (s : List Char) : Option Found :=
  let s := s.dropWhile isSpace
  let negative := s.head? == some '-'
  let s := if negative || s.head? == some '+' then s.tail else s
  let decimal : Option Found :=
    match pointedDigits digit? 10 s with
    | (_, _, false, _) => none
    | (n, places, true, rest) =>
      let (e, rest) := exponent 'e' 'E' rest
      some (scaled negative n tenTo (e - places) rest)
  match afterWord "infinity".toList s, afterWord "inf".toList s, afterWord "nan".toList s with
  | some rest, _, _ => some { value := .infinite negative, rest }
  | none, some rest, _ => some { value := .infinite negative, rest }
  | none, none, some rest => some { value := .notNumber negative, rest }
  | none, none, none =>
    match s with
    | '0' :: x :: after =>
      if x == 'x' || x == 'X' then
        match pointedDigits hexDigit? 16 after with
        | (_, _, false, _) => decimal
        | (n, places, true, rest) =>
          let (e, rest) := exponent 'p' 'P' rest
          some (scaled negative n twoTo (e - 4 * places) rest)
      else decimal
    | _ => decimal

end Quantity

end Proctor
