import Proctor.Proofs.Text.Utf8.Encoding

/-!
# Encoding keeps the order of texts

Of two characters the lesser one has the lesser encoding: a shorter encoding has a lesser lead byte,
and encodings of one length are digits to base 64, the first of them in the lead byte. So texts in
the order of their bytes are in the order of their characters.
-/

set_option autoImplicit false

namespace Proctor.Utf8

theorem cons_ofNat_lt {a b : Nat} (h : a < b) (hb : b < 256) (r s : Bytes) :
    UInt8.ofNat a :: r < UInt8.ofNat b :: s := by
  refine List.cons_lt_cons_iff.2 (.inl ?_)
  rw [UInt8.lt_iff_toNat_lt, toNat_ofNat (by omega), toNat_ofNat hb]
  exact h

theorem upper_le {m n : Nat} (h : m ≤ n) (k : Nat) : upper k m ≤ upper k n := by
  induction k with
  | zero => exact h
  | succ k ih => exact Nat.div_le_div_right ih

/-- Numbers with the same upper digits are told apart by the first lower digit in which they
differ. -/
theorem later_lt (k : Nat) {m n : Nat} (h : m < n) (hupper : upper k m = upper k n) (r s : Bytes) :
    later k m ++ r < later k n ++ s := by
  induction k with
  | zero =>
    rw [upper, upper] at hupper
    omega
  | succ k ih =>
    simp only [later, List.cons_append]
    rcases Nat.lt_or_eq_of_le (upper_le (Nat.le_of_lt h) k) with hlt | heq
    · rw [upper, upper] at hupper
      exact cons_ofNat_lt (by omega) (by omega) _ _
    · rw [heq]
      exact List.cons_lt_cons_iff.2 (.inr ⟨rfl, ih heq⟩)

theorem lead_later_lt (k base : Nat) {m n : Nat} (h : m < n) (hn : upper k n + base < 256)
    (r s : Bytes) :
    UInt8.ofNat (upper k m + base) :: later k m ++ r <
      UInt8.ofNat (upper k n + base) :: later k n ++ s := by
  rcases Nat.lt_or_eq_of_le (upper_le (Nat.le_of_lt h) k) with hlt | heq
  · exact cons_ofNat_lt (by omega) hn _ _
  · rw [heq]
    exact List.cons_lt_cons_iff.2 (.inr ⟨rfl, later_lt k h heq r s⟩)

def laterCount (n : Nat) : Nat :=
  if n < 0x80 then 0 else if n < 0x800 then 1 else if n < 0x10000 then 2 else 3

def leadBase : Nat → Nat
  | 0 => 0
  | 1 => 0xC0
  | 2 => 0xE0
  | _ => 0xF0

theorem encodeChar_eq {n : Nat} (h : n.isValidChar) :
    String.utf8EncodeChar (Char.ofNat n) =
      UInt8.ofNat (upper (laterCount n) n + leadBase (laterCount n)) :: later (laterCount n) n := by
  have hvalid : n < 0xD800 ∨ 0xDFFF < n ∧ n < 0x110000 := h
  simp only [laterCount]
  split_ifs with h1 h2 h3
  · exact encode_one h1
  · exact (encode_two (by omega) h2).2
  · rw [(encode_three (by omega) h3 (by omega)).2]
    simp only [upper, leadBase, Nat.div_div_eq_div_mul]
  · rw [(encode_four (by omega) (by omega)).2]
    simp only [upper, leadBase, Nat.div_div_eq_div_mul]

theorem lead_lt {m n : Nat} (hm : m < 0x110000) (hn : n < 0x110000)
    (h : laterCount m < laterCount n) :
    upper (laterCount m) m + leadBase (laterCount m) <
      upper (laterCount n) n + leadBase (laterCount n) := by
  simp only [laterCount] at h ⊢
  split_ifs at h ⊢ <;> simp only [upper, leadBase] <;> omega

theorem lead_small {n : Nat} (hn : n < 0x110000) :
    upper (laterCount n) n + leadBase (laterCount n) < 256 := by
  simp only [laterCount]
  split_ifs <;> simp only [upper, leadBase] <;> omega

theorem laterCount_le {m n : Nat} (h : m ≤ n) : laterCount m ≤ laterCount n := by
  simp only [laterCount]
  split_ifs <;> omega

/-- The lesser of two characters has the lesser encoding, whatever comes after them. -/
theorem encodeChar_lt {c d : Char} (h : c < d) (r s : Bytes) :
    String.utf8EncodeChar c ++ r < String.utf8EncodeChar d ++ s := by
  obtain ⟨m, hm, rfl⟩ : ∃ m, m.isValidChar ∧ c = Char.ofNat m :=
    ⟨c.toNat, c.valid, (Char.ofNat_toNat c).symm⟩
  obtain ⟨n, hn, rfl⟩ : ∃ n, n.isValidChar ∧ d = Char.ofNat n :=
    ⟨d.toNat, d.valid, (Char.ofNat_toNat d).symm⟩
  have hlt : m < n := by
    have hval : (Char.ofNat m).val.toNat < (Char.ofNat n).val.toNat := h
    rwa [toNat_ofNat_of_valid hm, toNat_ofNat_of_valid hn] at hval
  have hbounds : (m < 0xD800 ∨ 0xDFFF < m ∧ m < 0x110000) ∧
      (n < 0xD800 ∨ 0xDFFF < n ∧ n < 0x110000) := ⟨hm, hn⟩
  rw [encodeChar_eq hm, encodeChar_eq hn]
  rcases Nat.lt_or_eq_of_le (laterCount_le (Nat.le_of_lt hlt)) with hcount | hcount
  · exact cons_ofNat_lt (lead_lt (by omega) (by omega) hcount) (lead_small (by omega)) _ _
  · rw [hcount]
    exact lead_later_lt _ _ hlt (lead_small (by omega)) r s

theorem encode_lt {s t : List Char} (h : s < t) : encode s < encode t := by
  induction s generalizing t with
  | nil =>
    rcases t with _ | ⟨d, t⟩
    · exact absurd h (List.lt_irrefl [])
    · have hne : encode (d :: t) ≠ [] := fun hnil =>
        List.cons_ne_nil d t (encode_injective (hnil.trans rfl))
      obtain ⟨b, bytes, hcons⟩ := List.exists_cons_of_ne_nil hne
      rw [hcons]
      exact List.nil_lt_cons b bytes
  | cons c s ih =>
    rcases t with _ | ⟨d, t⟩
    · exact absurd h (List.not_lt_nil _)
    · rw [encode, encode, List.flatMap_cons, List.flatMap_cons]
      rcases List.cons_lt_cons_iff.1 h with hlt | ⟨rfl, hlt⟩
      · exact encodeChar_lt hlt _ _
      · exact List.append_left_lt (ih hlt)

end Proctor.Utf8

namespace Proctor

/-- The order of texts by their bytes is their order by characters. -/
theorem Bytes.ofString_lt_iff {a b : String} : Bytes.ofString a < Bytes.ofString b ↔ a < b := by
  refine ⟨fun h => ?_, fun h => Utf8.encode_lt h⟩
  by_contra hle
  rcases List.le_iff_lt_or_eq.1 (List.not_lt.1 hle) with hlt | heq
  · exact List.lt_asymm h (Utf8.encode_lt hlt)
  · rw [Bytes.ofString, Bytes.ofString, heq] at h
    exact List.lt_irrefl _ h

end Proctor
