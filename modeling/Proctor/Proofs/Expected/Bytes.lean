import Proctor.Program
import Proctor.Proofs.Expected.Lines
import Proctor.Proofs.Text.Utf8.Ascii

/-!
# Expected output in bytes

The source of a test and the output of its program are bytes, and both are read as text before they
are compared. The marks and the ends of lines are ASCII, which no reading swallows, so the expected
output can be taken from the bytes of the source line by line and read afterwards. That says what a
verdict means in bytes.
-/

set_option autoImplicit false

namespace Proctor.Expected

open Utf8

/-- The bytes behind the first `# ` of each line that has one, as lines. -/
def rawOutput (source : Bytes) : Bytes :=
  (marked 0x0A 0x23 0x20 source).flatMap (· ++ [0x0A])

theorem after?_decodeLossy (bytes : Bytes) {m n : Nat} (hm : m < 0x80) (hn : n < 0x80) :
    after? (Char.ofNat m) (Char.ofNat n) (decodeLossy bytes) =
      (after? (UInt8.ofNat m) (UInt8.ofNat n) bytes).map decodeLossy := by
  induction bytes using ascii_induction with
  | nil => rfl
  | ascii k rest hk hread ih =>
    simp only [hread, after?, ascii_eq_iff hk hm, head_decodeLossy_ascii rest hn, ih]
    by_cases hmark : UInt8.ofNat k = UInt8.ofNat m ∧ rest.head? = some (UInt8.ofNat n)
    · obtain ⟨text, rfl⟩ := List.head?_eq_some_iff.mp hmark.2
      rw [if_pos hmark, if_pos hmark, decodeLossy_ascii n text hn]
      rfl
    · rw [if_neg hmark, if_neg hmark]
  | high used rest c _ hused hc hread ih =>
    rw [hread, after?, if_neg (fun hmark => high_ne_ascii hc hm hmark.1), ih,
      after?_append _ _ (ascii_notMem_high hused hm)]

theorem marked_decodeLossy (bytes : Bytes) :
    marked '\n' '#' ' ' (decodeLossy bytes) = (marked 0x0A 0x23 0x20 bytes).map decodeLossy := by
  have hafter (line : Bytes) : (after? '#' ' ' (decodeLossy line)).toList =
      (after? 0x23 0x20 line).toList.map decodeLossy := by
    rw [show after? '#' ' ' (decodeLossy line) = (after? 0x23 0x20 line).map decodeLossy from
      after?_decodeLossy line (show 0x23 < 0x80 by decide) (show 0x20 < 0x80 by decide)]
    cases after? 0x23 0x20 line <;> rfl
  have hline (line : Bytes) (h : 0x0A ∉ line) : '\n' ∉ decodeLossy line := fun hmem =>
    h ((mem_decodeLossy_ascii line (show 0x0A < 0x80 by decide)).mp hmem)
  induction bytes using line_induction (0x0A : UInt8) with
  | last line h => rw [marked_last _ _ (hline line h), marked_last _ _ h, hafter]
  | more line rest h ih =>
    have hread : decodeLossy (line ++ 0x0A :: rest) =
        decodeLossy line ++ '\n' :: decodeLossy rest :=
      decodeLossy_append_ascii line rest 0x0A (by decide)
    rw [hread, marked_more _ _ _ (hline line h), marked_more _ _ _ h, ih, hafter, List.map_append]

theorem decodeLossy_lines (lines : List Bytes) :
    decodeLossy (lines.flatMap (· ++ [0x0A])) = output (lines.map decodeLossy) := by
  induction lines with
  | nil => rfl
  | cons line lines ih =>
    have hread : decodeLossy (line ++ 0x0A :: lines.flatMap (· ++ [0x0A])) =
        decodeLossy line ++ '\n' :: decodeLossy (lines.flatMap (· ++ [0x0A])) :=
      decodeLossy_append_ascii line _ 0x0A (by decide)
    rw [List.flatMap_cons, List.append_assoc, List.singleton_append, hread, ih]
    simp [output]

/-- To read the source and look for annotations is to look for them in its bytes and to read what
was found. -/
theorem expectedOutput_lossy (source : Bytes) :
    expectedOutput source.lossy = (rawOutput source).lossy := by
  rw [expectedOutput, Bytes.lossy, String.toList_ofList, scan_eq_marked, marked_decodeLossy,
    Bytes.lossy, rawOutput, decodeLossy_lines]

theorem judge_passed (policy : ExitPolicy) (id expected : String) (e : Execution) :
    (judge policy id expected e).passed = true ↔
      e.stdout = expected ∧ policy.accepts e = true ∧ e.timedOut = false := by
  simp only [Verdict.passed, judge]
  by_cases h : e.stdout = expected ∧ policy.accepts e = true ∧ e.timedOut = false
  · rw [if_pos h]
    exact iff_of_true rfl h
  · rw [if_neg h]
    exact iff_of_false Bool.false_ne_true h

theorem lossy_eq_iff {a b : Bytes} : a.lossy = b.lossy ↔ decodeLossy a = decodeLossy b :=
  String.ofList_inj

theorem eq_encode_of_lossy_eq {bytes : Bytes} {text : List Char} (hnone : replacement ∉ text)
    (h : bytes.lossy = (encode text).lossy) : bytes = encode text := by
  rw [lossy_eq_iff, decodeLossy_encode] at h
  exact (encode_of_lossy (lossy_iff.mpr h.symm) hnone).symm

/-- A test case expects what the bytes of its source say line by line, in the standard reading. Of a
program that was not killed, where its exit status does not count, the output must read the same.
Output with the same bytes will do, and nothing else will if those bytes are UTF-8 without
replacement characters. -/
theorem verdict_compares_bytes {ω : Type} (host : Host ω) (dir : Path) (id : String)
    (source : Bytes) (w : ω) (hsource : host.content w (dir.join (.ofString id)) = .ok source) :
    ∃ case : TestCase, Discovery.load host dir id w = (.ok case, w) ∧
      case.expected = (rawOutput source).lossy ∧
      (∀ bytes text, Lossy bytes text ↔ String.ofList text = bytes.lossy) ∧
      ∀ (ρ : Type) (r : Reporter ρ) (limit : Option Duration) (executable : Path)
        (outcome : Outcome) (before after : ω), r.policy = .ignore →
        host.launch { program := executable.display, keepsErrors := false } limit before =
          (.ok outcome, after) → outcome.timedOut = false →
        ∃ execution, Program.execute host limit executable before = (.ok execution, after) ∧
          let verdict := (r.record id case.expected execution).1
          (verdict.passed = true ↔ outcome.stdout.lossy = (rawOutput source).lossy) ∧
          (outcome.stdout = rawOutput source → verdict.passed = true) ∧
          ∀ text, rawOutput source = encode text → replacement ∉ text → verdict.passed = true →
            outcome.stdout = rawOutput source := by
  refine ⟨.ofSource id (dir.join (.ofString id)) source.lossy, ?_, expectedOutput_lossy source, ?_,
    ?_⟩
  · simp only [Discovery.load, hsource]
  · intro bytes text
    rw [lossy_iff, Bytes.lossy, String.ofList_inj]
  · intro ρ r limit executable outcome before after hpolicy hlaunch halive
    refine ⟨{ stdout := outcome.stdout.lossy, exitCode := outcome.status.exitCode,
              success := outcome.success, timedOut := outcome.timedOut }, ?_, ?_⟩
    · simp only [Program.execute, Action.andThen, Operation.orElse, hlaunch, Action.pure]
    · intro verdict
      have hpassed : verdict.passed = true ↔ outcome.stdout.lossy = (rawOutput source).lossy := by
        rw [← expectedOutput_lossy]
        refine (judge_passed ..).trans ?_
        simp [hpolicy, ExitPolicy.accepts, halive, TestCase.ofSource]
      refine ⟨hpassed, fun h => hpassed.mpr (congrArg _ h), ?_⟩
      intro text hraw hnone hverdict
      rw [hpassed, hraw] at hverdict
      rw [hraw, eq_encode_of_lossy_eq hnone hverdict]

def printing (source stdout : Bytes) : Host Unit where
  isDirectory _ _ := false
  isFile _ _ := true
  isPresent _ _ := true
  content _ _ := .ok source
  listing _ _ := .ok []
  removeTree _ w := (.ok (), w)
  createDirectories _ w := (.ok (), w)
  launch _ _ w := (.ok { status := .exited 3, stdout }, w)
  now _ := 0

/-- Two characters cut short by the end of their lines read the same, though their bytes differ. -/
theorem verdict_of_cut_characters :
    let source : Bytes := [0x78, 0x23, 0x20, 0x61, 0xE2, 0x82, 0x0A, 0x23]
    let stdout : Bytes := [0x61, 0xF0, 0x9F, 0x98, 0x0A]
    let host := printing source stdout
    let r : Reporter Unit :=
      { listener :=
          { collected := fun _ s => s, completed := fun _ s => s, finished := fun _ s => s }
        policy := .ignore
        state := () }
    stdout ≠ rawOutput source ∧
      ∃ case execution, Discovery.load host (.ofString "tests") "cut" () = (.ok case, ()) ∧
        Program.execute host none (.ofString "cut.exe") () = (.ok execution, ()) ∧
        (r.record "cut" case.expected execution).1.passed = true := by
  intro source stdout host r
  obtain ⟨case, hload, -, -, hrun⟩ :=
    verdict_compares_bytes host (.ofString "tests") "cut" source () rfl
  obtain ⟨execution, hexecute, hpassed, -, -⟩ :=
    hrun Unit r none (.ofString "cut.exe") _ () () rfl rfl rfl
  exact ⟨by decide, case, execution, hload, hexecute, hpassed.mpr (lossy_eq_iff.mpr (by decide))⟩

end Proctor.Expected
