import Proctor.Proofs.Text.Utf8.Reading

/-!
# ASCII among other bytes

A character begun is never continued by an ASCII byte. So such a byte is read as itself wherever it
stands, and a byte string may be cut there before or after it is read.
-/

set_option autoImplicit false

namespace Proctor.Utf8

def Guarded (d : Decoder) : Prop := ∀ p, d.begun = some p → 0x80 ≤ p.low

theorem guarded_start (output : List Char) (b : UInt8) : Guarded (start output b) := by
  intro p hp
  simp only [start] at hp
  rcases hlead : lead b with c | q | _ <;> simp only [hlead] at hp
  · simp at hp
  · obtain rfl := Option.some.inj hp
    exact (lead_more hlead).low_ge
  · simp at hp

theorem guarded_step (d : Decoder) (b : UInt8) : Guarded (d.step b) := by
  rcases hd : d.begun with _ | p
  · simp only [Decoder.step, hd]
    exact guarded_start _ b
  · simp only [Decoder.step, hd]
    rcases hnext : p.next b with c | q | _
    · intro p' hp'
      simp at hp'
    · intro p' hp'
      obtain rfl := Option.some.inj hp'
      simp only [Begun.next] at hnext
      split_ifs at hnext
      obtain rfl := Reading.more.inj hnext
      exact Nat.le_refl _
    · exact guarded_start _ b

theorem guarded_foldl (bytes : Bytes) (d : Decoder) (h : Guarded d) :
    Guarded (bytes.foldl Decoder.step d) := by
  induction bytes generalizing d with
  | nil => exact h
  | cons b bytes ih => exact ih _ (guarded_step d b)

theorem step_ascii (d : Decoder) (n : Nat) (hn : n < 0x80) (h : Guarded d) :
    d.step (UInt8.ofNat n) = { output := Char.ofNat n :: d.finish.reverse } := by
  have hlead : lead (UInt8.ofNat n) = .whole (Char.ofNat n) := by
    rw [lead, toNat_ofNat (by omega), if_pos hn]
  rcases hd : d.begun with _ | p
  · simp [Decoder.step, hd, start, hlead, Decoder.finish]
  · have hlow := h p hd
    have hnext : p.next (UInt8.ofNat n) = .refused := by
      rw [Begun.next, toNat_ofNat (by omega), if_neg (by omega)]
    simp [Decoder.step, hd, hnext, start, hlead, Decoder.finish]

theorem decodeLossy_append_ascii (bytes rest : Bytes) (n : Nat) (hn : n < 0x80) :
    decodeLossy (bytes ++ UInt8.ofNat n :: rest) =
      decodeLossy bytes ++ Char.ofNat n :: decodeLossy rest := by
  have hguard : Guarded (bytes.foldl Decoder.step {}) :=
    guarded_foldl bytes {} fun p hp => by simp at hp
  rw [decodeLossy, List.foldl_append, List.foldl_cons, step_ascii _ n hn hguard, foldl_finish]
  simp [decodeLossy]

/-- Byte strings by how they are read: an ASCII byte is one character, and what is read as any other
character lies outside ASCII. -/
theorem ascii_induction {P : Bytes → Prop} (nil : P [])
    (ascii : ∀ (n : Nat) (rest : Bytes), n < 0x80 →
      decodeLossy (UInt8.ofNat n :: rest) = Char.ofNat n :: decodeLossy rest →
      P rest → P (UInt8.ofNat n :: rest))
    (high : ∀ (used rest : Bytes) (c : Char), used ≠ [] → (∀ b ∈ used, 0x80 ≤ b.toNat) →
      0x80 ≤ c.toNat → decodeLossy (used ++ rest) = c :: decodeLossy rest →
      P rest → P (used ++ rest))
    (bytes : Bytes) : P bytes := by
  obtain ⟨text, h⟩ : ∃ text, Lossy bytes text := ⟨_, lossy_decodeLossy bytes⟩
  induction h with
  | nil => exact nil
  | @whole c rest _ _ ih =>
    by_cases hc : c.toNat < 0x80
    · have he : String.utf8EncodeChar c = [UInt8.ofNat c.toNat] := by
        conv => lhs; rw [← Char.ofNat_toNat c]
        exact encode_one hc
      rw [he]
      exact ascii c.toNat rest hc (decodeLossy_ascii _ _ hc) ih
    · exact high _ rest c (String.utf8EncodeChar_ne_nil) (high_encodeChar c (by omega)) (by omega)
        (decodeLossy_encodeChar c rest) ih
  | @replaced used rest _ hs _ ih =>
    exact high used rest replacement hs.ne (high_spoilt hs) (by decide) (decodeLossy_spoilt hs) ih

theorem toNat_ofNat_ascii {n : Nat} (hn : n < 0x80) : (Char.ofNat n).toNat = n :=
  toNat_ofNat_of_valid (Or.inl (by omega))

theorem ascii_eq_iff {m n : Nat} (hm : m < 0x80) (hn : n < 0x80) :
    Char.ofNat m = Char.ofNat n ↔ UInt8.ofNat m = UInt8.ofNat n := by
  constructor
  · intro h
    rw [← toNat_ofNat_ascii hm, h, toNat_ofNat_ascii hn]
  · intro h
    rw [← toNat_ofNat (show m < 256 by omega), h, toNat_ofNat (by omega)]

theorem high_ne_ascii {c : Char} {n : Nat} (hc : 0x80 ≤ c.toNat) (hn : n < 0x80) :
    c ≠ Char.ofNat n := by
  rintro rfl
  rw [toNat_ofNat_ascii hn] at hc
  omega

theorem ascii_notMem_high {used : Bytes} {n : Nat} (hused : ∀ b ∈ used, 0x80 ≤ b.toNat)
    (hn : n < 0x80) : UInt8.ofNat n ∉ used := by
  intro hmem
  have hhigh := hused _ hmem
  rw [toNat_ofNat (by omega)] at hhigh
  omega

theorem mem_decodeLossy_ascii (bytes : Bytes) {n : Nat} (hn : n < 0x80) :
    Char.ofNat n ∈ decodeLossy bytes ↔ UInt8.ofNat n ∈ bytes := by
  induction bytes using ascii_induction with
  | nil => simp [decodeLossy, Decoder.finish]
  | ascii m rest hm hread ih => rw [hread, List.mem_cons, List.mem_cons, ih, ascii_eq_iff hn hm]
  | high used rest c _ hused hc hread ih =>
    rw [hread, List.mem_cons, List.mem_append, ih, or_iff_right (high_ne_ascii hc hn).symm,
      or_iff_right (ascii_notMem_high hused hn)]

theorem head_decodeLossy_ascii (bytes : Bytes) {n : Nat} (hn : n < 0x80) :
    (decodeLossy bytes).head? = some (Char.ofNat n) ↔ bytes.head? = some (UInt8.ofNat n) := by
  induction bytes using ascii_induction with
  | nil => simp [decodeLossy, Decoder.finish]
  | ascii m rest hm hread _ => simp [hread, ascii_eq_iff hm hn]
  | high used rest c hne hused hc hread _ =>
    obtain ⟨b, used, rfl⟩ := List.exists_cons_of_ne_nil hne
    have hb : UInt8.ofNat n ≠ b := fun h => ascii_notMem_high hused hn (h ▸ List.mem_cons_self)
    rw [hread]
    simp [high_ne_ascii hc hn, hb.symm]

theorem getLast_decodeLossy_ascii (bytes : Bytes) {n : Nat} (hn : n < 0x80) :
    (decodeLossy bytes).getLast? = some (Char.ofNat n) ↔ bytes.getLast? = some (UInt8.ofNat n) := by
  induction bytes using ascii_induction with
  | nil => simp [decodeLossy, Decoder.finish]
  | ascii m rest hm hread ih =>
    rw [hread]
    by_cases hrest : rest = []
    · simp [hrest, decodeLossy, Decoder.finish, ascii_eq_iff hm hn]
    · rw [List.getLast?_cons_of_ne_nil (mt decodeLossy_eq_nil hrest),
        List.getLast?_cons_of_ne_nil hrest, ih]
  | high used rest c hne hused hc hread ih =>
    rw [hread]
    by_cases hrest : rest = []
    · have hlast : used.getLast? ≠ some (UInt8.ofNat n) := fun h =>
        ascii_notMem_high hused hn (List.mem_of_getLast? h)
      simp [hrest, decodeLossy, Decoder.finish, high_ne_ascii hc hn, hlast]
    · rw [List.getLast?_cons_of_ne_nil (mt decodeLossy_eq_nil hrest), ih, List.getLast?_append,
        List.getLast?_eq_some_getLast hrest, Option.some_or]

end Proctor.Utf8
