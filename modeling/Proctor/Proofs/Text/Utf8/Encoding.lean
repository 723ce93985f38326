import Mathlib.Tactic.Common
import Proctor.Text.Utf8

/-!
# Encoded text is read back

The encoding of a character is its number in digits to base 64, the first of them in the lead byte.
The decoder meets the same digits in the same order, so it ends each character where its encoding
ends.
-/

set_option autoImplicit false

namespace Proctor.Utf8

theorem step_output (begun : Option Begun) (output : List Char) (b : UInt8) :
    Decoder.step ⟨begun, output⟩ b =
      ⟨(Decoder.step ⟨begun, []⟩ b).begun, (Decoder.step ⟨begun, []⟩ b).output ++ output⟩ := by
  rcases begun with _ | p
  · simp only [Decoder.step, start]
    cases lead b <;> rfl
  · simp only [Decoder.step]
    cases p.next b with
    | whole c => rfl
    | more q => rfl
    | refused =>
      simp only [start]
      cases lead b <;> rfl

theorem foldl_finish (bytes : Bytes) (begun : Option Begun) (output : List Char) :
    (bytes.foldl Decoder.step ⟨begun, output⟩).finish =
      output.reverse ++ (bytes.foldl Decoder.step ⟨begun, []⟩).finish := by
  induction bytes generalizing begun output with
  | nil => cases begun <;> simp [Decoder.finish]
  | cons b bytes ih =>
    rw [List.foldl_cons, List.foldl_cons, step_output, ih]
    conv => rhs; rw [ih]
    simp

def resume (p : Begun) (bytes : Bytes) : List Char :=
  (bytes.foldl Decoder.step { begun := some p }).finish

theorem decodeLossy_cons (b : UInt8) (bytes : Bytes) :
    decodeLossy (b :: bytes) =
      match lead b with
      | .whole c => c :: decodeLossy bytes
      | .more p => resume p bytes
      | .refused => replacement :: decodeLossy bytes := by
  rw [decodeLossy, List.foldl_cons, Decoder.step, start]
  cases lead b with
  | whole c => exact foldl_finish bytes none [c]
  | more p => rfl
  | refused => exact foldl_finish bytes none [replacement]

theorem resume_cons (p : Begun) (b : UInt8) (bytes : Bytes) :
    resume p (b :: bytes) =
      match p.next b with
      | .whole c => c :: decodeLossy bytes
      | .more q => resume q bytes
      | .refused => replacement :: decodeLossy (b :: bytes) := by
  rw [resume, List.foldl_cons, Decoder.step]
  rcases hnext : p.next b with c | q | _
  · simp only [hnext]
    exact foldl_finish bytes none [c]
  · simp only [hnext]
    rfl
  · rw [decodeLossy_cons]
    simp only [hnext, start]
    cases lead b with
    | whole c => exact foldl_finish bytes none [c, replacement]
    | more q => exact foldl_finish bytes (some q) [replacement]
    | refused => exact foldl_finish bytes none [replacement, replacement]

/-- A number without its last `k` digits to base 64. -/
def upper : Nat → Nat → Nat
  | 0, n => n
  | k + 1, n => upper k n / 64

def later : Nat → Nat → Bytes
  | 0, _ => []
  | k + 1, n => UInt8.ofNat (upper k n % 64 + 0x80) :: later k n

theorem toNat_ofNat_of_valid {n : Nat} (h : n.isValidChar) : (Char.ofNat n).val.toNat = n := by
  rw [Char.ofNat, dif_pos h]
  rfl

theorem toNat_ofNat {n : Nat} (h : n < 256) : (UInt8.ofNat n).toNat = n :=
  Nat.mod_eq_of_lt h

theorem encode_one {n : Nat} (h : n < 0x80) :
    String.utf8EncodeChar (Char.ofNat n) = [UInt8.ofNat n] := by
  have hn : n.isValidChar := Or.inl (by omega)
  simp only [String.utf8EncodeChar, toNat_ofNat_of_valid hn]
  rw [if_pos (by omega)]

theorem encode_two {n : Nat} (h : 0x80 ≤ n) (h' : n < 0x800) : n.isValidChar ∧
    String.utf8EncodeChar (Char.ofNat n) = UInt8.ofNat (n / 64 + 0xC0) :: later 1 n := by
  have hn : n.isValidChar := Or.inl (by omega)
  refine ⟨hn, ?_⟩
  simp only [String.utf8EncodeChar, toNat_ofNat_of_valid hn, later, upper]
  rw [if_neg (by omega), if_pos (by omega), Nat.mod_eq_of_lt (show n / 64 < 0x20 by omega)]

theorem encode_three {n : Nat} (h : 0x800 ≤ n) (h' : n < 0x10000)
    (hs : n < 0xD800 ∨ 0xDFFF < n) : n.isValidChar ∧
    String.utf8EncodeChar (Char.ofNat n) = UInt8.ofNat (n / 4096 + 0xE0) :: later 2 n := by
  have hn : n.isValidChar := hs.imp id fun h => ⟨h, by omega⟩
  refine ⟨hn, ?_⟩
  simp only [String.utf8EncodeChar, toNat_ofNat_of_valid hn, later, upper]
  rw [if_neg (by omega), if_neg (by omega), if_pos (by omega),
    Nat.mod_eq_of_lt (show n / 4096 < 0x10 by omega)]

theorem encode_four {n : Nat} (h : 0x10000 ≤ n) (h' : n < 0x110000) : n.isValidChar ∧
    String.utf8EncodeChar (Char.ofNat n) = UInt8.ofNat (n / 262144 + 0xF0) :: later 3 n := by
  have hn : n.isValidChar := Or.inr ⟨by omega, h'⟩
  refine ⟨hn, ?_⟩
  simp only [String.utf8EncodeChar, toNat_ofNat_of_valid hn, later, upper]
  rw [if_neg (by omega), if_neg (by omega), if_neg (by omega),
    Nat.mod_eq_of_lt (show n / 262144 < 0x08 by omega), Nat.div_div_eq_div_mul]

theorem next_digit (k low high value digit : Nat) (hlow : low ≤ digit + 0x80)
    (hhigh : digit + 0x80 ≤ high) (h : digit < 64) :
    Begun.next ⟨k + 1, low, high, value⟩ (UInt8.ofNat (digit + 0x80)) =
      if k = 0 then .whole (Char.ofNat (value * 64 + digit))
      else .more ⟨k, 0x80, 0xBF, value * 64 + digit⟩ := by
  simp only [Begun.next]
  rw [toNat_ofNat (by omega), if_pos ⟨hlow, hhigh⟩, Nat.add_sub_cancel]
  cases k with
  | zero => rfl
  | succ k => rw [if_neg (by omega), if_neg (by omega), Nat.add_sub_cancel]

/-- The later bytes of a character bring the decoder back to its number. -/
theorem resume_later (k n low high : Nat) (rest : Bytes)
    (hlow : low ≤ upper k n % 64 + 0x80) (hhigh : upper k n % 64 + 0x80 ≤ high) :
    resume ⟨k + 1, low, high, upper (k + 1) n⟩ (later (k + 1) n ++ rest) =
      Char.ofNat n :: decodeLossy rest := by
  induction k generalizing low high with
  | zero =>
    rw [later, List.cons_append, resume_cons, next_digit _ _ _ _ _ hlow hhigh (by omega)]
    simp only [upper, if_true, later, List.nil_append]
    rw [show n / 64 * 64 + n % 64 = n by omega]
  | succ k ih =>
    rw [later, List.cons_append, resume_cons, next_digit _ _ _ _ _ hlow hhigh (by omega),
      if_neg (Nat.succ_ne_zero k)]
    dsimp only
    rw [show upper (k + 1 + 1) n * 64 + upper (k + 1) n % 64 = upper (k + 1) n by
      rw [upper]; omega]
    exact ih 0x80 0xBF (by omega) (by omega)

theorem lead_two {b : UInt8} (h : 0xC2 ≤ b.toNat) (h' : b.toNat < 0xE0) :
    lead b = .more ⟨1, 0x80, 0xBF, b.toNat - 0xC0⟩ := by
  simp only [lead]
  rw [if_neg (by omega), if_neg (by omega), if_pos h']

theorem lead_three {b : UInt8} (h : 0xE0 ≤ b.toNat) (h' : b.toNat < 0xF0) :
    ∃ low high, lead b = .more ⟨2, low, high, b.toNat - 0xE0⟩ ∧
      (b.toNat = 0xE0 ∧ low = 0xA0 ∨ b.toNat ≠ 0xE0 ∧ low = 0x80) ∧
      (b.toNat = 0xED ∧ high = 0x9F ∨ b.toNat ≠ 0xED ∧ high = 0xBF) := by
  simp only [lead]
  rw [if_neg (by omega), if_neg (by omega), if_neg (by omega)]
  split_ifs with h0 hd
  · exact ⟨0xA0, 0xBF, by rw [h0], by omega, by omega⟩
  · exact ⟨0x80, 0x9F, by rw [hd], by omega, by omega⟩
  · exact ⟨0x80, 0xBF, rfl, by omega, by omega⟩

theorem lead_four {b : UInt8} (h : 0xF0 ≤ b.toNat) (h' : b.toNat < 0xF5) :
    ∃ low high, lead b = .more ⟨3, low, high, b.toNat - 0xF0⟩ ∧
      (b.toNat = 0xF0 ∧ low = 0x90 ∨ b.toNat ≠ 0xF0 ∧ low = 0x80) ∧
      (b.toNat = 0xF4 ∧ high = 0x8F ∨ b.toNat ≠ 0xF4 ∧ high = 0xBF) := by
  simp only [lead]
  rw [if_neg (by omega), if_neg (by omega), if_neg (by omega), if_neg (by omega),
    if_neg (by omega), if_neg (by omega)]
  split_ifs with h0 h4 h5
  · exact ⟨0x90, 0xBF, by rw [h0], by omega, by omega⟩
  · exact ⟨0x80, 0xBF, rfl, by omega, by omega⟩
  · exact ⟨0x80, 0x8F, by rw [h5], by omega, by omega⟩
  · omega

theorem decodeLossy_ascii (n : Nat) (rest : Bytes) (h : n < 0x80) :
    decodeLossy (UInt8.ofNat n :: rest) = Char.ofNat n :: decodeLossy rest := by
  rw [decodeLossy_cons, lead, toNat_ofNat (by omega), if_pos h]

/-- An encoded character is read back, whatever comes after it. -/
theorem decodeLossy_encodeChar (c : Char) (rest : Bytes) :
    decodeLossy (String.utf8EncodeChar c ++ rest) = c :: decodeLossy rest := by
  obtain ⟨n, hn, rfl⟩ : ∃ n, n.isValidChar ∧ c = Char.ofNat n :=
    ⟨c.toNat, c.valid, (Char.ofNat_toNat c).symm⟩
  have hvalid : n < 0xD800 ∨ 0xDFFF < n ∧ n < 0x110000 := hn
  by_cases h1 : n < 0x80
  · rw [encode_one h1]
    exact decodeLossy_ascii n rest h1
  by_cases h2 : n < 0x800
  · rw [(encode_two (by omega) h2).2, List.cons_append, decodeLossy_cons,
      lead_two (by rw [toNat_ofNat (by omega)]; omega) (by rw [toNat_ofNat (by omega)]; omega),
      toNat_ofNat (by omega), Nat.add_sub_cancel]
    exact resume_later 0 n _ _ rest (by omega) (by simp only [upper]; omega)
  by_cases h3 : n < 0x10000
  · have hb : (UInt8.ofNat (n / 4096 + 0xE0)).toNat = n / 4096 + 0xE0 := toNat_ofNat (by omega)
    obtain ⟨low, high, hlead, hlow, hhigh⟩ :=
      lead_three (b := UInt8.ofNat (n / 4096 + 0xE0)) (by omega) (by omega)
    rw [(encode_three (by omega) h3 (by omega)).2, List.cons_append, decodeLossy_cons, hlead, hb,
      Nat.add_sub_cancel, show n / 4096 = upper 2 n by simp only [upper]; omega]
    exact resume_later 1 n low high rest (by simp only [upper]; omega)
      (by simp only [upper]; omega)
  · have hb : (UInt8.ofNat (n / 262144 + 0xF0)).toNat = n / 262144 + 0xF0 := toNat_ofNat (by omega)
    obtain ⟨low, high, hlead, hlow, hhigh⟩ :=
      lead_four (b := UInt8.ofNat (n / 262144 + 0xF0)) (by omega) (by omega)
    rw [(encode_four (by omega) (by omega)).2, List.cons_append, decodeLossy_cons, hlead, hb,
      Nat.add_sub_cancel, show n / 262144 = upper 3 n by simp only [upper]; omega]
    exact resume_later 2 n low high rest (by simp only [upper]; omega)
      (by simp only [upper]; omega)

theorem decodeLossy_encode (text : List Char) : decodeLossy (encode text) = text := by
  induction text with
  | nil => rfl
  | cons c text ih => rw [encode, List.flatMap_cons, decodeLossy_encodeChar]; exact congrArg _ ih

theorem encode_injective : Function.Injective encode :=
  Function.LeftInverse.injective decodeLossy_encode

theorem high_encodeChar (c : Char) (h : 0x80 ≤ c.toNat) :
    ∀ b ∈ String.utf8EncodeChar c, 0x80 ≤ b.toNat := by
  intro b hb
  have hc : ¬ c.val.toNat ≤ 0x7F := by change ¬ c.toNat ≤ 0x7F; omega
  simp only [String.utf8EncodeChar, if_neg hc] at hb
  split_ifs at hb <;> simp only [List.mem_cons, List.not_mem_nil, or_false] at hb
  · rcases hb with rfl | rfl <;> rw [toNat_ofNat (by omega)] <;> omega
  · rcases hb with rfl | rfl | rfl <;> rw [toNat_ofNat (by omega)] <;> omega
  · rcases hb with rfl | rfl | rfl | rfl <;> rw [toNat_ofNat (by omega)] <;> omega

theorem resume_ne_nil (p : Begun) (bytes : Bytes) : resume p bytes ≠ [] := by
  induction bytes generalizing p with
  | nil => simp [resume, Decoder.finish]
  | cons b bytes ih =>
    rw [resume_cons]
    split
    · simp
    · exact ih _
    · simp

theorem decodeLossy_eq_nil {bytes : Bytes} (h : decodeLossy bytes = []) : bytes = [] := by
  rcases bytes with _ | ⟨b, bytes⟩
  · rfl
  · rw [decodeLossy_cons] at h
    split at h
    · simp at h
    · exact absurd h (resume_ne_nil _ _)
    · simp at h

end Proctor.Utf8

namespace Proctor

theorem Bytes.ofString_append (a b : String) :
    Bytes.ofString (a ++ b) = Bytes.ofString a ++ Bytes.ofString b := by
  simp [Bytes.ofString, Utf8.encode]

theorem Bytes.text?_eq_some_iff {bytes : Bytes} {text : String} :
    bytes.text? = some text ↔ bytes = Bytes.ofString text := by
  simp only [Bytes.text?, Utf8.decode?, Option.map_eq_some_iff]
  constructor
  · rintro ⟨chars, hchars, rfl⟩
    split at hchars
    · next hencode =>
      obtain rfl := Option.some.inj hchars
      rw [Bytes.ofString, String.toList_ofList, hencode]
    · cases hchars
  · rintro rfl
    refine ⟨text.toList, ?_, String.ofList_toList⟩
    rw [Bytes.ofString, Utf8.decodeLossy_encode, if_pos rfl]

end Proctor
