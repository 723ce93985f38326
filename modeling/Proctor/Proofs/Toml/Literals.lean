import Proctor.Proofs.Text.Numerals
import Proctor.Proofs.Toml.Locality

/-!
# Writing values

Strings, whole numbers, truth values and lists of strings, as they are written in a document: a
string stands between quotation marks, with escapes for the two characters that would end it or
begin an escape and for those that may not stand in a line. Whatever a string says, even if it looks
like a piece of a document, it is read as the string it is.
-/

set_option autoImplicit false

namespace Proctor.Toml

/-! ## Strings -/

def escapeLetter? : Char → Option Char
  | '\x08' => some 'b'
  | '\t' => some 't'
  | '\n' => some 'n'
  | '\x0c' => some 'f'
  | '\r' => some 'r'
  | '"' => some '"'
  | '\\' => some '\\'
  | _ => none

def fourDigits (n : Nat) : List Char :=
  [n / 4096, n / 256 % 16, n / 16 % 16, n % 16].map Nat.digitChar

def written (c : Char) : List Char :=
  match escapeLetter? c with
  | some letter => ['\\', letter]
  | none => if isText c then [c] else '\\' :: 'u' :: fourDigits c.toNat

def basicString (s : String) : List Char := '"' :: (s.toList.flatMap written ++ ['"'])

theorem escape?_of_letter {c letter : Char} (h : escapeLetter? c = some letter) :
    escape? letter = some (.char c) := by
  unfold escapeLetter? at h
  split at h <;> cases h <;> rfl

theorem scalarValue?_toNat (c : Char) : scalarValue? c.toNat = some c :=
  dif_pos c.valid

theorem hexDigit : ∀ d < 16, isHexDigit d.digitChar ∧ digitValue d.digitChar = d := by decide

theorem basicFrom_digit {d : Nat} (hd : d < 16) (left value : Nat) (text rest : List Char) :
    basicFrom (.numbered (left + 2) value) text (d.digitChar :: rest) =
      basicFrom (.numbered (left + 1) (value * 16 + d)) text rest := by
  obtain ⟨hhex, hvalue⟩ := hexDigit d hd
  simp [basicFrom, numberedStep, hhex, hvalue]

theorem basicFrom_lastDigit {d value : Nat} {c : Char} (hd : d < 16)
    (hc : value * 16 + d = c.toNat) (text rest : List Char) :
    basicFrom (.numbered 1 value) text (d.digitChar :: rest) =
      basicFrom .plain (c :: text) rest := by
  obtain ⟨hhex, hvalue⟩ := hexDigit d hd
  simp [basicFrom, numberedStep, hhex, hvalue, hc, scalarValue?_toNat]

theorem basicFrom_fourDigits {c : Char} (hc : c.toNat < 65536) (text rest : List Char) :
    basicFrom (.numbered 4 0) text (fourDigits c.toNat ++ rest) =
      basicFrom .plain (c :: text) rest := by
  simp only [fourDigits, List.map_cons, List.map_nil, List.cons_append, List.nil_append]
  rw [basicFrom_digit (by omega), basicFrom_digit (by omega), basicFrom_digit (by omega),
    basicFrom_lastDigit (c := c) (by omega) (by omega)]

/-- A character is read as itself, whichever way it is written. -/
theorem basicFrom_written (c : Char) (text rest : List Char) :
    basicFrom .plain text (written c ++ rest) = basicFrom .plain (c :: text) rest := by
  rw [written]
  split
  next letter hletter => simp [basicFrom, escapedStep, escape?_of_letter hletter]
  next hletter =>
    have hquote : c ≠ '"' := by
      rintro rfl
      cases hletter
    have hslash : c ≠ '\\' := by
      rintro rfl
      cases hletter
    split_ifs with htext
    · simp [basicFrom, hquote, hslash, htext]
    · have hsmall : c.toNat < 65536 := by
        simp [isText] at htext
        omega
      rw [← basicFrom_fourDigits hsmall]
      simp [basicFrom, escapedStep, escape?]

theorem basicFrom_flatMap (s text rest : List Char) :
    basicFrom .plain text (s.flatMap written ++ rest) =
      basicFrom .plain (s.reverse ++ text) rest := by
  induction s generalizing text with
  | nil => rfl
  | cons c s ih =>
    rw [List.flatMap_cons, List.append_assoc, basicFrom_written, ih, List.reverse_cons,
      List.append_assoc]
    rfl

theorem written_head (c : Char) : ∃ d more, written c = d :: more ∧ d ≠ '"' := by
  rw [written]
  split
  next letter _ => exact ⟨'\\', [letter], rfl, by decide⟩
  next hletter =>
    split_ifs
    · refine ⟨c, [], rfl, ?_⟩
      rintro rfl
      cases hletter
    · exact ⟨'\\', _, rfl, by decide⟩

theorem string_basicString (s : String) {rest : List Char} (hrest : rest.head? ≠ some '"') :
    string (basicString s ++ rest) = some (.string s, rest) := by
  have hbasic : basic (s.toList.flatMap written ++ '"' :: rest) = some (s.toList, rest) := by
    rw [basic, basicFrom_flatMap]
    simp [basicFrom]
  have hone (more : List Char) : s.toList.flatMap written ++ '"' :: rest ≠ '"' :: '"' :: more := by
    intro h
    rcases hs : s.toList with _ | ⟨c, cs⟩
    · rw [hs] at h
      cases h
      exact hrest rfl
    · obtain ⟨d, later, hwritten, hd⟩ := written_head c
      rw [hs, List.flatMap_cons, hwritten] at h
      exact hd (List.cons.inj h).1
  rw [basicString, List.cons_append, List.append_assoc, List.singleton_append]
  simp [string, hbasic]

theorem value_basicString (fuel depth : Nat) (s : String) {rest : List Char}
    (hrest : rest.head? ≠ some '"') :
    value (fuel + 1) depth (basicString s ++ rest) = some (.string s, rest) := by
  rw [← string_basicString s hrest, basicString, List.cons_append, value]

/-! ## Lists of strings -/

def listed : List String → List Char
  | [] => [']']
  | [s] => basicString s ++ [']']
  | s :: ss => basicString s ++ ',' :: ' ' :: listed ss

theorem listed_start (ss : List String) : ∃ c rest, listed ss = c :: rest ∧ isStart c := by
  fun_cases listed ss with
  | case1 => exact ⟨_, _, rfl, rfl⟩
  | case2 s => exact ⟨_, _, rfl, rfl⟩
  | case3 s ss => exact ⟨_, _, rfl, rfl⟩

theorem length_listed (ss : List String) : ss.length < (listed ss).length := by
  fun_induction listed ss with
  | case1 => decide
  | case2 s => simp [basicString]
  | case3 s ss _ ih => simp; omega

theorem skipAll_of_start {s u : List Char} (h : skipSpaces s = u)
    (hu : ∃ c rest, u = c :: rest ∧ isStart c) : skipAll s = u := by
  obtain ⟨c, rest, rfl, hc⟩ := hu
  rcases s with _ | ⟨d, s⟩
  · cases h
  · have hline : c ≠ '\n' := ne_of_holds hc rfl
    have hreturn : c ≠ '\r' := ne_of_holds hc rfl
    have hcomment : c ≠ '#' := ne_of_holds hc rfl
    rw [skipAll, List.length_cons, skipLines, h]
    simp [hline, hreturn, hcomment]

theorem skipSpaces_of_start {s : List Char} (h : ∃ c rest, s = c :: rest ∧ isStart c) :
    skipSpaces s = s := by
  obtain ⟨c, rest, rfl, hc⟩ := h
  have hspace : ¬ isSpace c := by
    intro hspace
    have hblank : c = ' ' ∨ c = '\t' := by simpa [isSpace] using hspace
    obtain rfl | rfl := hblank <;> cases hc
  rw [skipSpaces, List.dropWhile_cons, if_neg hspace]

theorem items_listed {fuel : Nat} (depth : Nat) (ss : List String) (hfuel : ss.length + 2 ≤ fuel) :
    items fuel depth (listed ss) = some (ss.map .string, []) := by
  induction ss generalizing fuel with
  | nil =>
    obtain ⟨fuel, rfl⟩ : ∃ k, fuel = k + 1 := ⟨fuel - 1, by omega⟩
    exact items_eq_some_iff.2 (.inl ⟨rfl, rfl⟩)
  | cons s ss ih =>
    obtain ⟨fuel, rfl⟩ : ∃ k, fuel = k + 2 := ⟨fuel - 2, by omega⟩
    refine items_eq_some_iff.2 (.inr ?_)
    rcases ss with _ | ⟨s', ss⟩
    · exact ⟨_, _, value_basicString fuel depth s (by decide), .inl ⟨rfl, rfl⟩⟩
    · refine ⟨_, _, value_basicString fuel depth s (by simp), .inr ⟨_, _, rfl, ?_, rfl⟩⟩
      have hskip : skipSpaces (' ' :: listed (s' :: ss)) = listed (s' :: ss) :=
        skipSpaces_of_start (listed_start (s' :: ss))
      rw [skipAll_of_start hskip (listed_start (s' :: ss))]
      refine ih ?_
      simp only [List.length_cons] at hfuel ⊢
      omega

/-! ## Whole numbers -/

theorem isDecimalDigit_of_isDigit {c : Char} (h : c.isDigit) : isDecimalDigit c := by
  simpa [Char.isDigit, isDecimalDigit, Char.le_def] using h

theorem digitRun_digits {digits : List Char} (hne : digits ≠ [])
    (hdigits : ∀ c ∈ digits, isDecimalDigit c) : digitRun isDecimalDigit digits = some digits := by
  fun_induction digitRun isDecimalDigit digits with
  | case1 => exact absurd rfl hne
  | case2 c hc => rfl
  | case3 c hc => exact absurd (hdigits c List.mem_cons_self) hc
  | case4 c rest hc ih => exact absurd (hdigits '_' (by simp)) (by decide)
  | case5 c rest hc => exact absurd (hdigits c List.mem_cons_self) hc
  | case6 c rest hone hmark hc ih =>
    rw [ih hone fun d hd => hdigits d (List.mem_cons_of_mem c hd)]
    rfl
  | case7 c rest hone hmark hc => exact absurd (hdigits c List.mem_cons_self) hc

theorem eq_zero_of_toDigits {n : Nat} {rest : List Char} (h : Nat.toDigits 10 n = '0' :: rest) :
    n = 0 := by
  induction n using Nat.strongRecOn generalizing rest with
  | ind n ih =>
    rw [Nat.toDigits_eq_if (by decide)] at h
    split_ifs at h with hsmall
    · have hdigit : ∀ d < 10, Nat.digitChar d = '0' → d = 0 := by decide
      exact hdigit n hsmall (List.cons.inj h).1
    · rcases hfirst : Nat.toDigits 10 (n / 10) with _ | ⟨c, digits⟩
      · exact absurd hfirst Nat.toDigits_ne_nil
      · rw [hfirst] at h
        obtain ⟨rfl, -⟩ := List.cons.inj h
        have hzero := ih (n / 10) (by omega) hfirst
        omega

theorem foldl_digitValue {digits : List Char} (hdigits : ∀ c ∈ digits, isDecimalDigit c)
    (n : Nat) :
    digits.foldl (fun n c => n * 10 + digitValue c) n = Nat.ofDigitChars 10 digits n := by
  induction digits generalizing n with
  | nil => rfl
  | cons c digits ih =>
    have hc : digitValue c = c.toNat - '0'.toNat := by
      rw [digitValue]
      exact if_pos (hdigits c List.mem_cons_self)
    rw [List.foldl_cons, Nat.ofDigitChars_cons, hc, Nat.mul_comm,
      ih fun d hd => hdigits d (List.mem_cons_of_mem c hd)]

theorem isDecimalDigit_of_mem_toDigits {n : Nat} {c : Char} (h : c ∈ Nat.toDigits 10 n) :
    isDecimalDigit c :=
  isDecimalDigit_of_isDigit (Numeral.isDigit_of_mem h)

theorem integer?_toDigits (n : Nat) : integer? (Nat.toDigits 10 n) = some (n : Int) := by
  rcases Nat.eq_zero_or_pos n with rfl | hn
  · rfl
  · have hdigits : ∀ c ∈ Nat.toDigits 10 n, isDecimalDigit c :=
      fun c hc => isDecimalDigit_of_mem_toDigits hc
    have hrun := digitRun_digits Nat.toDigits_ne_nil hdigits
    have hvalue : valueOf 10 (Nat.toDigits 10 n) = n := by
      rw [valueOf, foldl_digitValue hdigits, Nat.ofDigitChars_ten_toDigits]
    rcases hcons : Nat.toDigits 10 n with _ | ⟨c, rest⟩
    · exact absurd hcons Nat.toDigits_ne_nil
    · have hzero : c ≠ '0' := by
        rintro rfl
        exact absurd (eq_zero_of_toDigits hcons) (by omega)
      have hc := hdigits c (by rw [hcons]; exact List.mem_cons_self)
      have hminus : c ≠ '-' := ne_of_holds hc rfl
      have hplus : c ≠ '+' := ne_of_holds hc rfl
      rw [hcons] at hrun hvalue
      simp [integer?, signed, decimalRun, hzero, hminus, hplus, hrun, hvalue]

theorem scalar?_toDigits (n : Nat) : scalar? (Nat.toDigits 10 n) = some (.integer n) := by
  have hword {word : List Char} (hword : ∃ c ∈ word, isDecimalDigit c = false) :
      Nat.toDigits 10 n ≠ word := by
    rintro rfl
    obtain ⟨c, hc, hdigit⟩ := hword
    rw [isDecimalDigit_of_mem_toDigits hc] at hdigit
    cases hdigit
  rw [scalar?, if_neg (hword ⟨'t', by simp, rfl⟩), if_neg (hword ⟨'f', by simp, rfl⟩),
    integer?_toDigits]

theorem isScalarChar_of_digit {c : Char} (h : isDecimalDigit c) : isScalarChar c := by
  simp only [isScalarChar, isSpace, Bool.not_eq_true', Bool.or_eq_false_iff,
    decide_eq_false_iff_not]
  repeat' apply And.intro
  all_goals exact ne_of_holds h rfl

theorem value_plain (fuel depth : Nat) {s : List Char} (hne : s ≠ [])
    (hs : ∀ c ∈ s, isScalarChar c) :
    value (fuel + 1) depth s = (scalar? s).map fun v => (v, []) := by
  rcases s with _ | ⟨c, rest⟩
  · exact absurd rfl hne
  · rw [value_scalar fuel depth (hs c List.mem_cons_self), scalar, List.takeWhile_eq_self_iff.2 hs,
      List.dropWhile_eq_nil_iff.2 hs]
    split
    next hnil => cases hnil
    next => rfl

/-! ## All of them -/

inductive Literal where
  | text (s : String)
  | number (n : Nat)
  | truth (b : Bool)
  | texts (ss : List String)
  deriving DecidableEq, Repr

namespace Literal

def render : Literal → List Char
  | .text s => basicString s
  | .number n => Nat.toDigits 10 n
  | .truth true => ['t', 'r', 'u', 'e']
  | .truth false => ['f', 'a', 'l', 's', 'e']
  | .texts ss => '[' :: listed ss

def value : Literal → Value
  | .text s => .string s
  | .number n => .integer n
  | .truth b => .boolean b
  | .texts ss => .array false (ss.map .string)

theorem fits (l : Literal) : Fits l.render l.value := by
  cases l with
  | text s =>
    have hread := value_basicString (2 * (basicString s).length + 1) depthLimit s
      (show ([] : List Char).head? ≠ some '"' by decide)
    rwa [List.append_nil] at hread
  | number n =>
    have hread := value_plain (2 * (Nat.toDigits 10 n).length + 1) depthLimit
      (Nat.toDigits_ne_nil (b := 10) (n := n))
      fun c hc => isScalarChar_of_digit (isDecimalDigit_of_mem_toDigits hc)
    rwa [scalar?_toDigits] at hread
  | truth b => cases b <;> rfl
  | texts ss =>
    have hskip : skipLines (listed ss).length (listed ss) = listed ss :=
      skipAll_of_start (skipSpaces_of_start (listed_start ss)) (listed_start ss)
    have hlength := length_listed ss
    rw [Fits, render, Toml.value, if_neg (by decide)]
    rw [hskip, items_listed _ ss (by simp only [List.length_cons]; omega)]
    rfl

end Literal

end Proctor.Toml
