/-!
# Numerals

Limits, exit statuses and settings are written in decimal digits, behind a sign if they are
negative. Reading the digits gives the number back, so no two numbers are written alike.
-/

set_option autoImplicit false

namespace Proctor.Numeral

theorem isDigit_of_mem {n : Nat} {c : Char} (h : c ∈ Nat.toDigits 10 n) : c.isDigit = true :=
  Nat.isDigit_of_mem_toDigits (by decide) (by decide) h

theorem repr_injective : Function.Injective Nat.repr := by
  intro m n h
  have hread := congrArg (fun s => Nat.ofDigitChars 10 s.toList 0) h
  simpa only [Nat.toList_repr, Nat.ofDigitChars_ten_toDigits] using hread

theorem repr_ne_negative (m n : Nat) : m.repr ≠ "-" ++ n.repr := by
  intro h
  have hsign : '-' ∈ Nat.toDigits 10 m := by
    rw [← Nat.toList_repr, h]
    simp
  exact absurd (isDigit_of_mem hsign) (by decide)

theorem int_repr_injective : Function.Injective Int.repr := by
  intro a b h
  rw [Int.repr_eq_if, Int.repr_eq_if] at h
  split at h <;> split at h
  · have hdigits := repr_injective h
    omega
  · exact absurd h (repr_ne_negative _ _)
  · exact absurd h.symm (repr_ne_negative _ _)
  · have hdigits := repr_injective ((String.append_right_inj _).mp h)
    omega

theorem newline_notMem_repr (n : Int) : '\n' ∉ n.repr.toList := by
  have hdigits (n : Nat) : '\n' ∉ Nat.toDigits 10 n := fun h =>
    absurd (isDigit_of_mem h) (by decide)
  rw [Int.repr_eq_if]
  split <;> simp [hdigits]

end Proctor.Numeral
