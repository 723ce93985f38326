import Mathlib.Data.List.Induction
import Proctor.Proofs.Text.Utf8.Encoding

/-!
# What the decoder reads

A byte string falls into parts. A part is the encoding of one character, or it is replaced: then it
is as long as bytes that begin a character can be, or one byte that begins none. Text that was read
without a replacement tells its bytes.
-/

set_option autoImplicit false

namespace Proctor.Utf8

/-- The bytes `used` have brought the decoder to `p`: whatever number `p` can still become is a
character, and its encoding goes on from `used`. -/
structure Pending (used : Bytes) (p : Begun) : Prop where
  reads : ∀ rest, decodeLossy (used ++ rest) = resume p rest
  used_ne : used ≠ []
  high_used : ∀ b ∈ used, 0x80 ≤ b.toNat
  low_ge : 0x80 ≤ p.low
  low_le_high : p.low ≤ p.high
  high_le : p.high ≤ 0xBF
  need_pos : 0 < p.need
  encodes : ∀ n, upper p.need n = p.value →
    p.low ≤ upper (p.need - 1) n % 64 + 0x80 → upper (p.need - 1) n % 64 + 0x80 ≤ p.high →
    n.isValidChar ∧ String.utf8EncodeChar (Char.ofNat n) = used ++ later p.need n

theorem lead_whole {b : UInt8} {c : Char} (h : lead b = .whole c) :
    b.toNat < 0x80 ∧ c = Char.ofNat b.toNat := by
  simp only [lead] at h
  split at h
  · next hb => exact ⟨hb, by simpa using h.symm⟩
  · split_ifs at h

theorem lead_range {b : UInt8} {p : Begun} (h : lead b = .more p) :
    0xC2 ≤ b.toNat ∧ b.toNat < 0xF5 := by
  simp only [lead] at h
  split_ifs at h <;> omega

theorem lead_more {b : UInt8} {p : Begun} (h : lead b = .more p) : Pending [b] p := by
  obtain ⟨hfirst, hlast⟩ := lead_range h
  have hreads (rest : Bytes) : decodeLossy ([b] ++ rest) = resume p rest := by
    rw [List.singleton_append, decodeLossy_cons, h]
  have hhigh : ∀ x ∈ [b], 0x80 ≤ x.toNat := by simp; omega
  by_cases h2 : b.toNat < 0xE0
  · obtain rfl := Reading.more.inj ((lead_two hfirst h2).symm.trans h)
    refine ⟨hreads, by simp, hhigh, by simp, by simp, by simp, by simp, ?_⟩
    intro n hv _ _
    simp only [upper] at hv
    obtain ⟨hn, he⟩ := encode_two (n := n) (by omega) (by omega)
    rw [show n / 64 + 0xC0 = b.toNat by omega, UInt8.ofNat_toNat] at he
    exact ⟨hn, he⟩
  by_cases h3 : b.toNat < 0xF0
  · obtain ⟨low, high, hlead, hl, hh⟩ := lead_three (by omega) h3
    obtain rfl := Reading.more.inj (hlead.symm.trans h)
    refine ⟨hreads, by simp, hhigh, by simp only; omega, by simp only; omega, by simp only; omega,
      by simp, ?_⟩
    intro n hv hlow hhigh
    simp only [upper, Nat.add_one_sub_one] at hv hlow hhigh
    obtain ⟨hn, he⟩ := encode_three (n := n) (by omega) (by omega) (by omega)
    rw [show n / 4096 + 0xE0 = b.toNat by omega, UInt8.ofNat_toNat] at he
    exact ⟨hn, he⟩
  · obtain ⟨low, high, hlead, hl, hh⟩ := lead_four (b := b) (by omega) hlast
    obtain rfl := Reading.more.inj (hlead.symm.trans h)
    refine ⟨hreads, by simp, hhigh, by simp only; omega, by simp only; omega, by simp only; omega,
      by simp, ?_⟩
    intro n hv hlow hhigh
    simp only [upper, Nat.add_one_sub_one] at hv hlow hhigh
    obtain ⟨hn, he⟩ := encode_four (n := n) (by omega) (by omega)
    rw [show n / 262144 + 0xF0 = b.toNat by omega, UInt8.ofNat_toNat] at he
    exact ⟨hn, he⟩

theorem next_whole {used : Bytes} {p : Begun} (hp : Pending used p) {b : UInt8} {c : Char}
    (h : p.next b = .whole c) : String.utf8EncodeChar c = used ++ [b] := by
  have hlow := hp.low_ge
  have hhigh := hp.high_le
  simp only [Begun.next] at h
  split_ifs at h with hb hneed
  obtain rfl := Reading.whole.inj h
  have hone : p.need = 1 := Nat.le_antisymm hneed hp.need_pos
  have he := (hp.encodes (p.value * 64 + (b.toNat - 0x80))
    (by simp only [hone, upper]; omega) (by simp only [hone, Nat.sub_self, upper]; omega)
    (by simp only [hone, Nat.sub_self, upper]; omega)).2
  simp only [hone, later, upper] at he
  rw [he, show (p.value * 64 + (b.toNat - 0x80)) % 64 + 0x80 = b.toNat by omega,
    UInt8.ofNat_toNat]

theorem next_more {used : Bytes} {p q : Begun} (hp : Pending used p) {b : UInt8}
    (h : p.next b = .more q) : Pending (used ++ [b]) q := by
  have hlow := hp.low_ge
  have hhigh := hp.high_le
  have hreads (rest : Bytes) : decodeLossy (used ++ [b] ++ rest) = resume q rest := by
    rw [List.append_assoc, List.singleton_append, hp.reads, resume_cons, h]
  simp only [Begun.next] at h
  split_ifs at h with hb hneed
  obtain rfl := Reading.more.inj h
  obtain ⟨k, hk⟩ : ∃ k, p.need = k + 2 := ⟨p.need - 2, by omega⟩
  refine ⟨hreads, by simp, ?_, by simp, by simp, by simp, by simp only; omega, ?_⟩
  · intro x hx
    rcases List.mem_append.mp hx with hx | hx
    · exact hp.high_used x hx
    · obtain rfl := List.mem_singleton.mp hx
      omega
  · intro n hv _ _
    have hdigits : upper (k + 1) n = p.value * 64 + (b.toNat - 0x80) := by simpa [hk] using hv
    obtain ⟨hn, he⟩ := hp.encodes n
      (by rw [hk, upper, hdigits]; omega)
      (by simp only [hk, Nat.add_succ_sub_one, hdigits]; omega)
      (by simp only [hk, Nat.add_succ_sub_one, hdigits]; omega)
    refine ⟨hn, ?_⟩
    rw [he, hk, later, hdigits,
      show (p.value * 64 + (b.toNat - 0x80)) % 64 + 0x80 = b.toNat by omega, UInt8.ofNat_toNat]
    simp

def Begins (bytes : Bytes) : Prop := ∃ c, bytes <+: String.utf8EncodeChar c

/-- Bytes that are replaced by one character when `rest` follows them: part of a character that
the next byte cannot go on with, or a byte that begins none. -/
structure Spoilt (used rest : Bytes) : Prop where
  ne : used ≠ []
  part : (∃ c, used <+: String.utf8EncodeChar c ∧ used ≠ String.utf8EncodeChar c) ∨
    ∃ b, used = [b] ∧ ¬ Begins [b]
  ends : ∀ b ∈ rest.head?, ¬ Begins (used ++ [b])

theorem exists_upper (k m : Nat) : ∃ n, upper k n = m := by
  induction k generalizing m with
  | zero => exact ⟨m, rfl⟩
  | succ k ih =>
    obtain ⟨n, hn⟩ := ih (m * 64)
    exact ⟨n, by rw [upper, hn]; omega⟩

theorem pending_part {used : Bytes} {p : Begun} (hp : Pending used p) :
    ∃ c, used <+: String.utf8EncodeChar c ∧ used ≠ String.utf8EncodeChar c := by
  have hlow := hp.low_ge
  have hhigh := hp.high_le
  have hle := hp.low_le_high
  obtain ⟨k, hk⟩ : ∃ k, p.need = k + 1 := ⟨p.need - 1, by have := hp.need_pos; omega⟩
  obtain ⟨n, hn⟩ := exists_upper k (p.value * 64 + (p.low - 0x80))
  obtain ⟨_, he⟩ := hp.encodes n (by rw [hk, upper, hn]; omega)
    (by rw [hk, Nat.add_sub_cancel, hn]; omega) (by rw [hk, Nat.add_sub_cancel, hn]; omega)
  refine ⟨Char.ofNat n, ⟨_, he.symm⟩, ?_⟩
  rw [he, hk, later]
  simp

theorem refused_ends {used : Bytes} {p : Begun} (hp : Pending used p) {b : UInt8}
    (h : p.next b = .refused) : ¬ Begins (used ++ [b]) := by
  rintro ⟨c, tail, htail⟩
  have hread := decodeLossy_encodeChar c []
  rw [List.append_nil, ← htail, List.append_assoc, List.singleton_append, hp.reads, resume_cons,
    h] at hread
  exact absurd (decodeLossy_eq_nil (List.cons.inj hread).2) (by simp)

theorem refused_begins {b : UInt8} (h : lead b = .refused) : ¬ Begins [b] := by
  rintro ⟨c, tail, htail⟩
  have hread := decodeLossy_encodeChar c []
  rw [List.append_nil, ← htail, List.singleton_append, decodeLossy_cons, h] at hread
  obtain ⟨rfl, hnil⟩ := List.cons.inj hread
  -- The only character left is the replacement itself, which is longer than one byte.
  have hlength : (String.utf8EncodeChar replacement).length = 3 := by decide
  simp [← htail, decodeLossy_eq_nil hnil] at hlength

/-- The standard reading of a byte string: a character for its encoding, and one replacement for
each part that is spoilt. -/
inductive Lossy : Bytes → List Char → Prop
  | nil : Lossy [] []
  | whole (c : Char) {rest : Bytes} {text : List Char} (h : Lossy rest text) :
      Lossy (String.utf8EncodeChar c ++ rest) (c :: text)
  | replaced {used rest : Bytes} {text : List Char} (hs : Spoilt used rest)
      (h : Lossy rest text) : Lossy (used ++ rest) (replacement :: text)

theorem lossy_resume (bytes used : Bytes) (p : Begun) (hp : Pending used p)
    (hrest : ∀ rest, rest.length ≤ bytes.length → Lossy rest (decodeLossy rest)) :
    Lossy (used ++ bytes) (resume p bytes) := by
  induction bytes generalizing used p with
  | nil => exact .replaced ⟨hp.used_ne, .inl (pending_part hp), by simp⟩ .nil
  | cons b bytes ih =>
    rw [resume_cons]
    rcases hnext : p.next b with c | q | _
    · rw [show used ++ b :: bytes = (used ++ [b]) ++ bytes by simp, ← next_whole hp hnext]
      exact .whole c (hrest bytes (by simp))
    · rw [show used ++ b :: bytes = (used ++ [b]) ++ bytes by simp]
      exact ih _ q (next_more hp hnext) fun rest hr => hrest rest (by simp; omega)
    · refine .replaced ⟨hp.used_ne, .inl (pending_part hp), ?_⟩ (hrest (b :: bytes) (Nat.le_refl _))
      simpa using refused_ends hp hnext

theorem lossy_decodeLossy (bytes : Bytes) : Lossy bytes (decodeLossy bytes) := by
  induction hlength : bytes.length using Nat.strongRecOn generalizing bytes with
  | ind n ih =>
    subst hlength
    rcases bytes with _ | ⟨b, bytes⟩
    · exact .nil
    · have hrest (rest : Bytes) (hr : rest.length ≤ bytes.length) :
          Lossy rest (decodeLossy rest) :=
        ih rest.length (by simp; omega) rest rfl
      rw [decodeLossy_cons]
      rcases hlead : lead b with c | p | _
      · obtain ⟨hb, rfl⟩ := lead_whole hlead
        have he : String.utf8EncodeChar (Char.ofNat b.toNat) = [b] := by
          rw [encode_one hb, UInt8.ofNat_toNat]
        simpa [he] using Lossy.whole (Char.ofNat b.toNat) (hrest bytes (Nat.le_refl _))
      · exact lossy_resume bytes [b] p (lead_more hlead) hrest
      · change Lossy ([b] ++ bytes) (replacement :: decodeLossy bytes)
        refine .replaced ⟨by simp, .inr ⟨b, rfl, refused_begins hlead⟩, ?_⟩
          (hrest bytes (Nat.le_refl _))
        rintro x - ⟨c, hc⟩
        exact refused_begins hlead ⟨c, (List.prefix_append [b] [x]).trans hc⟩

theorem encodeChar_unextended {c d : Char}
    (h : String.utf8EncodeChar c <+: String.utf8EncodeChar d) : c = d := by
  obtain ⟨tail, htail⟩ := h
  have hread := decodeLossy_encodeChar d []
  rw [List.append_nil, ← htail, decodeLossy_encodeChar] at hread
  exact (List.cons.inj hread).1

theorem pending_of_part (used : Bytes) (c : Char) (hne : used ≠ [])
    (hpart : used <+: String.utf8EncodeChar c) (hproper : used ≠ String.utf8EncodeChar c) :
    ∃ p, Pending used p := by
  induction used using List.reverseRecOn with
  | nil => exact absurd rfl hne
  | append_singleton used b ih =>
    rcases used with _ | ⟨a, used⟩
    · rcases hlead : lead b with d | p | _
      · obtain ⟨hb, rfl⟩ := lead_whole hlead
        have he : String.utf8EncodeChar (Char.ofNat b.toNat) = [b] := by
          rw [encode_one hb, UInt8.ofNat_toNat]
        rw [List.nil_append, ← he] at hpart hproper
        exact absurd (congrArg _ (encodeChar_unextended hpart)) hproper
      · exact ⟨p, lead_more hlead⟩
      · exact absurd ⟨c, hpart⟩ (refused_begins hlead)
    · have hshort : a :: used <+: String.utf8EncodeChar c :=
        (List.prefix_append _ [b]).trans hpart
      have hlonger : a :: used ≠ String.utf8EncodeChar c := by
        intro he
        have hlength := hpart.length_le
        rw [← he, List.length_append, List.length_singleton] at hlength
        omega
      obtain ⟨p, hp⟩ := ih (by simp) hshort hlonger
      rcases hnext : p.next b with d | q | _
      · rw [← next_whole hp hnext] at hpart hproper
        exact absurd (congrArg _ (encodeChar_unextended hpart)) hproper
      · exact ⟨q, next_more hp hnext⟩
      · exact absurd ⟨c, hpart⟩ (refused_ends hp hnext)

theorem begins_encodeChar (c : Char) : Begins (String.utf8EncodeChar c) :=
  ⟨c, List.prefix_refl _⟩

theorem begins_ascii {b : UInt8} (h : b.toNat < 0x80) : Begins [b] := by
  have hb := begins_encodeChar (Char.ofNat b.toNat)
  rwa [encode_one h, UInt8.ofNat_toNat] at hb

theorem begins_of_pending {used : Bytes} {p : Begun} (hp : Pending used p) : Begins used :=
  (pending_part hp).imp fun _ h => h.1

theorem decodeLossy_spoilt {used rest : Bytes} (h : Spoilt used rest) :
    decodeLossy (used ++ rest) = replacement :: decodeLossy rest := by
  rcases h.part with ⟨c, hpart, hproper⟩ | ⟨b, rfl, hb⟩
  · obtain ⟨p, hp⟩ := pending_of_part used c h.ne hpart hproper
    rw [hp.reads]
    rcases rest with _ | ⟨b, rest⟩
    · rfl
    · have hends := h.ends b rfl
      rw [resume_cons]
      rcases hnext : p.next b with d | q | _
      · exact absurd (next_whole hp hnext ▸ begins_encodeChar d) hends
      · exact absurd (begins_of_pending (next_more hp hnext)) hends
      · rfl
  · rw [List.singleton_append, decodeLossy_cons]
    rcases hlead : lead b with d | p | _
    · exact absurd (begins_ascii (lead_whole hlead).1) hb
    · exact absurd (begins_of_pending (lead_more hlead)) hb
    · rfl

theorem high_spoilt {used rest : Bytes} (h : Spoilt used rest) : ∀ b ∈ used, 0x80 ≤ b.toNat := by
  rcases h.part with ⟨c, hpart, hproper⟩ | ⟨b, rfl, hb⟩
  · obtain ⟨p, hp⟩ := pending_of_part used c h.ne hpart hproper
    exact hp.high_used
  · intro x hx
    obtain rfl := List.mem_singleton.mp hx
    exact Nat.not_lt.mp fun hx => hb (begins_ascii hx)

/-- The standard reading is the only one, so it may be followed part by part. -/
theorem lossy_iff {bytes : Bytes} {text : List Char} :
    Lossy bytes text ↔ text = decodeLossy bytes := by
  constructor
  · intro h
    induction h with
    | nil => rfl
    | whole c _ ih => rw [decodeLossy_encodeChar, ih]
    | replaced hs _ ih => rw [decodeLossy_spoilt hs, ih]
  · rintro rfl
    exact lossy_decodeLossy bytes

theorem encode_of_lossy {bytes : Bytes} {text : List Char} (h : Lossy bytes text)
    (hnone : replacement ∉ text) : encode text = bytes := by
  induction h with
  | nil => rfl
  | whole c _ ih =>
    rw [encode, List.flatMap_cons]
    exact congrArg _ (ih fun hc => hnone (List.mem_cons_of_mem c hc))
  | replaced _ _ _ => exact absurd List.mem_cons_self hnone

end Proctor.Utf8
