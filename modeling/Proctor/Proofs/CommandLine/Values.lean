import Mathlib.Data.Option.Basic
import Proctor.CommandLine.Options
import Proctor.Proofs.Text.Numerals
import Proctor.Proofs.Text.Utf8.Encoding

/-!
# What options say, setting by setting

Options are known by three things: the tests they name, the value they give to each setting as it
would be written, and the flags they raise. Taking a value changes what is said of one setting,
raising a flag what is said of one flag, and nothing else.
-/

set_option autoImplicit false

namespace Proctor

open CommandLine

namespace Options

theorem readDigits_ofDigitChars {digits : List Char} (hdigits : ∀ c ∈ digits, c.isDigit) (n : Nat)
    (h : Nat.ofDigitChars 10 digits n < twoTo 64) :
    readDigits n digits = .ok (Nat.ofDigitChars 10 digits n) := by
  induction digits generalizing n with
  | nil => rfl
  | cons c digits ih =>
    have hc : c.isDigit = true := hdigits c List.mem_cons_self
    rw [Nat.ofDigitChars_cons, Nat.mul_comm] at h ⊢
    have hsmall : ¬ twoTo 64 ≤ n * 10 + (c.toNat - '0'.toNat) := by
      rw [Nat.ofDigitChars_eq_ofDigitChars_zero] at h
      have hpos : 0 < 10 ^ digits.length := Nat.pow_pos (by decide)
      have hle := Nat.le_mul_of_pos_left (n * 10 + (c.toNat - '0'.toNat)) hpos
      omega
    simp only [readDigits, hc, Bool.true_eq_false, if_false, if_neg hsmall]
    exact ih (fun d hd => hdigits d (List.mem_cons_of_mem c hd)) _ h

theorem readNumber_repr {n : Nat} (h : n < twoTo 64) : readNumber n.repr.toList = .ok n := by
  have hdigits : ∀ c ∈ Nat.toDigits 10 n, c.isDigit := fun _ =>
    Numeral.isDigit_of_mem
  have hread : readDigits 0 (Nat.toDigits 10 n) = .ok n := by
    rw [readDigits_ofDigitChars hdigits 0 (by rw [Nat.ofDigitChars_ten_toDigits]; exact h),
      Nat.ofDigitChars_ten_toDigits]
  rw [Nat.toList_repr]
  rcases hcons : Nat.toDigits 10 n with _ | ⟨c, digits⟩
  · exact absurd hcons Nat.toDigits_ne_nil
  · have hplus : c ≠ '+' := by
      rintro rfl
      exact absurd (hdigits '+' (by rw [hcons]; exact List.mem_cons_self)) (by decide)
    rw [← hread, hcons, readNumber]
    · simp
    · simp [hplus]
    · simp [hplus]

def text? (o : Options) : Setting → Option Bytes
  | .config => o.config.map Path.bytes
  | .testDir => o.testDir.map Path.bytes
  | .scratchDir => o.scratchDir.map Path.bytes
  | .runtime => o.runtime.map Path.bytes
  | .preconditionDir => o.preconditionDir.map Path.bytes
  | .assembler => o.assembler.map Bytes.ofString
  | .linker => o.linker.map Bytes.ofString
  | .compiler => o.compiler.map Bytes.ofString
  | .timeout => o.timeout.map fun n => Bytes.ofString n.repr
  | .execTimeout => o.execTimeout.map fun n => Bytes.ofString n.repr

def isRaised (o : Options) : Flag → Bool
  | .exitFirst => o.exitFirst
  | .checkExitStatus => o.checkExitStatus
  | .verbose => o.verbose
  | .help => false
  | .version => false

theorem has_eq (o : Options) (s : Setting) : o.has s = (o.text? s).isSome := by
  cases s <;> simp [has, text?]

/-- Options are known by their tests, their values and their flags. -/
theorem eq_of_view {o o' : Options} (htests : o.tests = o'.tests)
    (htext : ∀ s, o.text? s = o'.text? s) (hflags : ∀ f, o.isRaised f = o'.isRaised f) :
    o = o' := by
  have hpath : Function.Injective (Option.map Path.bytes) :=
    Option.map_injective fun p q h => by cases p; cases q; exact congrArg Path.mk h
  have hstring : Function.Injective (Option.map Bytes.ofString) :=
    Option.map_injective fun s t h => String.toList_inj.1 (Utf8.encode_injective h)
  have hseconds : Function.Injective (Option.map fun n : Nat => Bytes.ofString n.repr) :=
    Option.map_injective fun m n h =>
      Numeral.repr_injective (String.toList_inj.1 (Utf8.encode_injective h))
  rcases o with ⟨tests, config, testDir, scratchDir, runtime, preconditionDir, assembler, linker,
    compiler, timeout, execTimeout, exitFirst, checkExitStatus, verbose⟩
  obtain rfl : tests = o'.tests := htests
  obtain rfl : config = o'.config := hpath (htext .config)
  obtain rfl : testDir = o'.testDir := hpath (htext .testDir)
  obtain rfl : scratchDir = o'.scratchDir := hpath (htext .scratchDir)
  obtain rfl : runtime = o'.runtime := hpath (htext .runtime)
  obtain rfl : preconditionDir = o'.preconditionDir := hpath (htext .preconditionDir)
  obtain rfl : assembler = o'.assembler := hstring (htext .assembler)
  obtain rfl : linker = o'.linker := hstring (htext .linker)
  obtain rfl : compiler = o'.compiler := hstring (htext .compiler)
  obtain rfl : timeout = o'.timeout := hseconds (htext .timeout)
  obtain rfl : execTimeout = o'.execTimeout := hseconds (htext .execTimeout)
  obtain rfl : exitFirst = o'.exitFirst := hflags .exitFirst
  obtain rfl : checkExitStatus = o'.checkExitStatus := hflags .checkExitStatus
  obtain rfl : verbose = o'.verbose := hflags .verbose
  rfl

def given (o : Options) : List (Setting × Bytes) :=
  Setting.all.filterMap fun s => (o.text? s).map fun value => (s, value)

def flags (o : Options) : List Flag := Flag.all.filter o.isRaised

theorem mem_given {o : Options} {s : Setting} {value : Bytes} :
    (s, value) ∈ o.given ↔ o.text? s = some value := by
  have hall : s ∈ Setting.all := by cases s <;> decide
  simp [given, hall]

theorem mem_flags {o : Options} {f : Flag} : f ∈ o.flags ↔ o.isRaised f = true := by
  have hall : f ∈ Flag.all := by cases f <;> decide
  simp [flags, hall]

theorem nodup_given (o : Options) : (o.given.map Prod.fst).Nodup := by
  have hsublist : ∀ settings : List Setting,
      ((settings.filterMap fun s => (o.text? s).map fun value => (s, value)).map
        Prod.fst).Sublist settings := by
    intro settings
    induction settings with
    | nil => exact List.Sublist.refl []
    | cons s settings ih =>
      rcases hvalue : o.text? s with _ | value
      · simpa [hvalue] using ih.cons s
      · simpa [hvalue] using ih.cons_cons s
  exact (hsublist Setting.all).nodup (by decide)

theorem nodup_flags (o : Options) : o.flags.Nodup := by
  have hall : Flag.all.Nodup := by decide
  exact hall.sublist List.filter_sublist

/-- Options that can be written: no value is empty, and seconds fit in a word. -/
structure Writable (o : Options) : Prop where
  values : ∀ s value, o.text? s = some value → value ≠ []
  timeout : ∀ n, o.timeout = some n → n < twoTo 64
  execTimeout : ∀ n, o.execTimeout = some n → n < twoTo 64

section Tests

variable (o : Options) (tests : List String)

theorem text?_tests (s : Setting) : { o with tests := tests }.text? s = o.text? s := by
  cases s <;> rfl

theorem isRaised_tests (f : Flag) : { o with tests := tests }.isRaised f = o.isRaised f := by
  cases f <;> rfl

theorem given_tests : { o with tests := tests }.given = o.given := by
  simp only [given, text?_tests]

theorem flags_tests : { o with tests := tests }.flags = o.flags := rfl

theorem Writable.withTests {o : Options} (h : o.Writable) : { o with tests := tests }.Writable :=
  ⟨fun s value => by rw [text?_tests]; exact h.values s value, h.timeout, h.execTimeout⟩

end Tests

theorem readPath_of_ne_nil (s : Setting) {value : Bytes} (h : value ≠ []) :
    readPath s value = .ok ⟨value⟩ := by
  rw [readPath, if_neg (by simpa using h)]

theorem readText_ofString (text : String) : readText (Bytes.ofString text) = .ok text := by
  rw [readText, Bytes.text?_eq_some_iff.2 rfl]

theorem readSeconds_repr (s : Setting) {n : Nat} (h : n < twoTo 64) :
    readSeconds s (Bytes.ofString n.repr) = .ok n := by
  simp only [readSeconds, readText_ofString, bind, Except.bind, readNumber_repr h]

def copy (o target : Options) : Setting → Options
  | .config => { o with config := target.config }
  | .testDir => { o with testDir := target.testDir }
  | .scratchDir => { o with scratchDir := target.scratchDir }
  | .runtime => { o with runtime := target.runtime }
  | .preconditionDir => { o with preconditionDir := target.preconditionDir }
  | .assembler => { o with assembler := target.assembler }
  | .linker => { o with linker := target.linker }
  | .compiler => { o with compiler := target.compiler }
  | .timeout => { o with timeout := target.timeout }
  | .execTimeout => { o with execTimeout := target.execTimeout }

theorem text?_copy (o target : Options) (s s' : Setting) :
    (o.copy target s).text? s' = if s' = s then target.text? s else o.text? s' := by
  cases s <;> cases s' <;> rfl

theorem isRaised_copy (o target : Options) (s : Setting) (f : Flag) :
    (o.copy target s).isRaised f = o.isRaised f := by
  cases s <;> cases f <;> rfl

theorem tests_copy (o target : Options) (s : Setting) : (o.copy target s).tests = o.tests := by
  cases s <;> rfl

theorem put_text {o target : Options} (hwritable : target.Writable) {s : Setting} {value : Bytes}
    (hvalue : target.text? s = some value) (hnew : o.text? s = none) :
    o.put s value = .ok (o.copy target s) := by
  have hhas : o.has s = false := by rw [has_eq, hnew]; rfl
  have hne : value ≠ [] := hwritable.values s value hvalue
  cases s with
  | config | testDir | scratchDir | runtime | preconditionDir =>
    obtain ⟨path, hpath, rfl⟩ := Option.map_eq_some_iff.1 hvalue
    simp [put, hhas, copy, hpath, readPath_of_ne_nil _ hne, bind, Except.bind, pure, Except.pure]
  | assembler | linker | compiler =>
    obtain ⟨text, htext, rfl⟩ := Option.map_eq_some_iff.1 hvalue
    simp [put, hhas, copy, htext, readText_ofString, bind, Except.bind, pure, Except.pure]
  | timeout =>
    obtain ⟨n, hn, rfl⟩ := Option.map_eq_some_iff.1 hvalue
    simp [put, hhas, copy, hn, readSeconds_repr _ (hwritable.timeout n hn), bind, Except.bind, pure,
      Except.pure]
  | execTimeout =>
    obtain ⟨n, hn, rfl⟩ := Option.map_eq_some_iff.1 hvalue
    simp [put, hhas, copy, hn, readSeconds_repr _ (hwritable.execTimeout n hn), bind, Except.bind,
      pure, Except.pure]

def raised (o : Options) : Flag → Options
  | .exitFirst => { o with exitFirst := true }
  | .checkExitStatus => { o with checkExitStatus := true }
  | .verbose => { o with verbose := true }
  | .help => o
  | .version => o

theorem text?_raised (o : Options) (f : Flag) (s : Setting) : (o.raised f).text? s = o.text? s := by
  cases f <;> cases s <;> rfl

theorem tests_raised (o : Options) (f : Flag) : (o.raised f).tests = o.tests := by
  cases f <;> rfl

theorem raise_new {o target : Options} {f : Flag} (hflag : target.isRaised f = true)
    (hnew : o.isRaised f = false) :
    o.raise f = .ok (o.raised f) ∧
      ∀ f', (o.raised f).isRaised f' = if f' = f then true else o.isRaised f' := by
  cases f with
  | exitFirst | checkExitStatus | verbose =>
    refine ⟨?_, fun f' => by cases f' <;> rfl⟩
    rw [isRaised] at hnew
    simp [raise, hnew, raised]
  | help | version => cases hflag

end Options

end Proctor
