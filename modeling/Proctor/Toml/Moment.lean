import Proctor.Toml.Number

/-!
# Dates and times of a TOML document

Only well-formedness is decided: a day that exists, an hour of the day, an optional fraction of a
second, an optional offset. Seconds may be left out.
-/

set_option autoImplicit false

namespace Proctor.Toml

def pair? (a b : Char) : Option Nat :=
  if isDecimalDigit a && isDecimalDigit b then some (digitValue a * 10 + digitValue b) else none

def isLeap (year : Nat) : Bool := year % 4 = 0 && (year % 100 ≠ 0 || year % 400 = 0)

def daysIn (year month : Nat) : Nat :=
  if month = 2 then (if isLeap year then 29 else 28)
  else if month = 4 ∨ month = 6 ∨ month = 9 ∨ month = 11 then 30
  else 31

def date? : List Char → Option (List Char)
  | y₁ :: y₂ :: y₃ :: y₄ :: '-' :: m₁ :: m₂ :: '-' :: d₁ :: d₂ :: rest => do
    let century ← pair? y₁ y₂
    let year ← pair? y₃ y₄
    let month ← pair? m₁ m₂
    let day ← pair? d₁ d₂
    if 1 ≤ month ∧ month ≤ 12 ∧ 1 ≤ day ∧ day ≤ daysIn (century * 100 + year) month then some rest
    else none
  | _ => none

def fraction? : List Char → Option (List Char)
  | '.' :: rest =>
    match rest.takeWhile isDecimalDigit with
    | [] => none
    | _ => some (rest.dropWhile isDecimalDigit)
  | s => some s

/-- Reads the seconds, if they are given. A minute may have a leap second. -/
def seconds? : List Char → Option (List Char)
  | ':' :: a :: b :: rest => do
    let second ← pair? a b
    if second ≤ 60 then fraction? rest else none
  | ':' :: _ => none
  | s => some s

def time? : List Char → Option (List Char)
  | a :: b :: ':' :: c :: d :: rest => do
    let hour ← pair? a b
    let minute ← pair? c d
    if hour ≤ 23 ∧ minute ≤ 59 then seconds? rest else none
  | _ => none

def isOffset : List Char → Bool
  | [] => true
  | ['Z'] => true
  | ['z'] => true
  | [sign, a, b, ':', c, d] =>
    (sign = '+' || sign = '-') &&
      match pair? a b, pair? c d with
      | some hour, some minute => hour ≤ 23 && minute ≤ 59
      | _, _ => false
  | _ => false

def isMoment (s : List Char) : Bool :=
  match date? s with
  | some [] => true
  | some (mark :: rest) =>
    (mark = 'T' || mark = 't' || mark = ' ') && ((time? rest).map isOffset).getD false
  | none => time? s = some []

end Proctor.Toml
