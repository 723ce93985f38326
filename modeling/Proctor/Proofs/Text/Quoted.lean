import Mathlib.Tactic.SplitIfs
import Proctor.Decimal.Quantity
import Proctor.Text.Quoted

/-!
# Reading quoted text back

A reader takes quoted text one character at a time, up to the quote that closes it. It gives back
every text that was quoted, whatever follows, so no two texts are quoted alike and none is quoted as
the beginning of another. A backslash in the text is itself escaped, which keeps text that looks
like an escape apart from an escape. Quoted text has no line end in it.
-/

set_option autoImplicit false

namespace Proctor.Quoted

inductive Place where
  | plain
  /-- After a backslash. -/
  | escaped
  /-- Before the brace that opens a number. -/
  | opening
  /-- Inside a number, with its value so far. -/
  | numbered (value : Nat)
  deriving DecidableEq, Repr

def named? : Char → Option Char
  | '0' => some '\x00'
  | 't' => some '\t'
  | 'n' => some '\n'
  | 'r' => some '\r'
  | '"' => some '"'
  | '\\' => some '\\'
  | _ => none

def named : List Char := ['\x00', '\t', '\n', '\r', '"', '\\']

theorem named?_ne {c : Char} (h : c ∉ named) (letter : Char) : named? letter ≠ some c := by
  intro hletter
  unfold named? at hletter
  split at hletter <;> cases hletter <;> exact h (by decide)

/-- The place after one more character, with the text read so far, last character first. -/
def step (text : List Char) : Place → Char → Option (Place × List Char)
  | .plain, c => some (if c = '\\' then (.escaped, text) else (.plain, c :: text))
  | .escaped, c =>
    if c = 'u' then some (.opening, text) else (named? c).map fun d => (.plain, d :: text)
  | .opening, c => if c = '\x7b' then some (.numbered 0, text) else none
  | .numbered n, c =>
    if c = '\x7d' then some (.plain, Char.ofNat n :: text)
    else (Quantity.hexDigit? c).map fun d => (.numbered (n * 16 + d), text)

def readFrom : Place → List Char → List Char → Option (List Char × List Char)
  | _, _, [] => none
  | place, text, c :: rest =>
    if place = .plain ∧ c = '"' then some (text.reverse, rest)
    else
      match step text place c with
      | none => none
      | some (place, text) => readFrom place text rest

def decode : List Char → Option (List Char × List Char)
  | '"' :: rest => readFrom .plain [] rest
  | _ => none

theorem readFrom_named {letter c : Char} (h : named? letter = some c) (text rest : List Char) :
    readFrom .plain text ('\\' :: letter :: rest) = readFrom .plain (c :: text) rest := by
  have hletter : letter ≠ 'u' := by
    rintro rfl
    cases h
  simp [readFrom, step, hletter, h]

theorem hexDigit?_digitChar : ∀ d < 16, Quantity.hexDigit? (Nat.digitChar d) = some d := by
  decide

theorem digitChar_ne : ∀ d < 16, Nat.digitChar d ≠ '\x7d' ∧ Nat.digitChar d ≠ '\n' := by
  decide

theorem readFrom_digit (n : Nat) {d : Nat} (hd : d < 16) (text rest : List Char) :
    readFrom (.numbered n) text (Nat.digitChar d :: rest) =
      readFrom (.numbered (n * 16 + d)) text rest := by
  simp [readFrom, step, (digitChar_ne d hd).1, hexDigit?_digitChar d hd]

theorem readFrom_digits (n : Nat) (text rest : List Char) :
    readFrom (.numbered 0) text (Nat.toDigits 16 n ++ rest) =
      readFrom (.numbered n) text rest := by
  -- All digits but the last are those of `n / 16`.
  induction n using Nat.strongRecOn generalizing rest with
  | ind n ih =>
    rw [Nat.toDigits_eq_if (by decide)]
    split
    · next hn => simpa using readFrom_digit 0 hn text rest
    · next hn =>
      have hlast : n % 16 < 16 := Nat.mod_lt n (by decide)
      rw [List.append_assoc, List.singleton_append, ih _ (by omega), readFrom_digit _ hlast,
        Nat.div_add_mod']

theorem readFrom_numbered (c : Char) (text rest : List Char) :
    readFrom .plain text (numbered c ++ rest) = readFrom .plain (c :: text) rest := by
  have hdigits : readFrom (.numbered 0) text (Nat.toDigits 16 c.toNat ++ '\x7d' :: rest) =
      readFrom .plain (c :: text) rest := by
    rw [readFrom_digits]
    simp [readFrom, step]
  simpa [numbered, readFrom, step] using hdigits

/-- A character with a letter of its own is written by the letter, any other by its number if it is
unprintable, and else as itself. -/
theorem escape_cases (c : Char) :
    (∃ letter, named? letter = some c ∧ escape c = ['\\', letter]) ∨
    (∀ letter, named? letter ≠ some c) ∧
      ((unprintable c = true ∧ escape c = numbered c) ∨
        (unprintable c = false ∧ escape c = [c])) := by
  unfold escape
  split_ifs with hnul htab hline hreturn hquote hslash hhidden
  · exact .inl ⟨'0', congrArg some hnul.symm, rfl⟩
  · exact .inl ⟨'t', congrArg some htab.symm, rfl⟩
  · exact .inl ⟨'n', congrArg some hline.symm, rfl⟩
  · exact .inl ⟨'r', congrArg some hreturn.symm, rfl⟩
  · exact .inl ⟨'"', congrArg some hquote.symm, rfl⟩
  · exact .inl ⟨'\\', congrArg some hslash.symm, rfl⟩
  · have hother : c ∉ named := by simp [named, hnul, htab, hline, hreturn, hquote, hslash]
    exact .inr ⟨named?_ne hother, .inl ⟨hhidden, rfl⟩⟩
  · have hother : c ∉ named := by simp [named, hnul, htab, hline, hreturn, hquote, hslash]
    exact .inr ⟨named?_ne hother, .inr ⟨by simpa using hhidden, rfl⟩⟩

theorem readFrom_escape (c : Char) (text rest : List Char) :
    readFrom .plain text (escape c ++ rest) = readFrom .plain (c :: text) rest := by
  rcases escape_cases c with
    ⟨letter, hletter, hescape⟩ | ⟨hnone, ⟨-, hescape⟩ | ⟨-, hescape⟩⟩
  · rw [hescape]
    exact readFrom_named hletter text rest
  · rw [hescape]
    exact readFrom_numbered c text rest
  · have hquote : c ≠ '"' := fun h => hnone '"' (congrArg some h.symm)
    have hslash : c ≠ '\\' := fun h => hnone '\\' (congrArg some h.symm)
    rw [hescape]
    simp [readFrom, step, hquote, hslash]

theorem readFrom_body (s text rest : List Char) :
    readFrom .plain text (body s ++ '"' :: rest) = some (text.reverse ++ s, rest) := by
  induction s generalizing text with
  | nil => simp [body, readFrom]
  | cons c s ih =>
    rw [body, List.flatMap_cons, List.append_assoc, readFrom_escape, ← body, ih]
    simp

/-- Quoted text is read back, and nothing of what follows it is taken. -/
theorem decode_encode (s rest : List Char) : decode (encode s ++ rest) = some (s, rest) := by
  have hbody := readFrom_body s [] rest
  simpa [encode, decode] using hbody

theorem newline_notMem_digits (n : Nat) : '\n' ∉ Nat.toDigits 16 n := by
  induction n using Nat.strongRecOn with
  | ind n ih =>
    rw [Nat.toDigits_eq_if (by decide)]
    split
    · next hn => simp [(digitChar_ne n hn).2.symm]
    · next hn =>
      have hlast := (digitChar_ne (n % 16) (Nat.mod_lt n (by decide))).2.symm
      simpa [hlast] using ih (n / 16) (by omega)

theorem newline_notMem_escape (c : Char) : '\n' ∉ escape c := by
  rcases escape_cases c with
    ⟨letter, hletter, hescape⟩ | ⟨hnone, ⟨-, hescape⟩ | ⟨-, hescape⟩⟩
  · have hne : '\n' ≠ letter := by
      rintro rfl
      cases hletter
    simp [hescape, hne]
  · simp [hescape, numbered, newline_notMem_digits]
  · have hline : c ≠ '\n' := fun h => hnone 'n' (congrArg some h.symm)
    simp [hescape, hline.symm]

theorem newline_notMem_encode (s : List Char) : '\n' ∉ encode s := by
  simp [encode, body, newline_notMem_escape]

end Proctor.Quoted

namespace Proctor

def unquote? (s : String) : Option String :=
  match Quoted.decode s.toList with
  | some (text, []) => some (String.ofList text)
  | _ => none

theorem unquote?_quoted (s : String) : unquote? (quoted s) = some s := by
  have hread := Quoted.decode_encode s.toList []
  rw [List.append_nil] at hread
  simp [unquote?, quoted, hread]

theorem quoted_injective : Function.Injective quoted := by
  intro s t h
  have hs := unquote?_quoted s
  rw [h, unquote?_quoted t] at hs
  exact (Option.some.inj hs).symm

theorem newline_notMem_quoted (s : String) : '\n' ∉ (quoted s).toList := by
  rw [quoted, String.toList_ofList]
  exact Quoted.newline_notMem_encode s.toList

end Proctor
