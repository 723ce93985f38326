import Proctor.Proofs.Expected.Bytes
import Proctor.Proofs.Report.History
import Proctor.Proofs.Report.Readable

/-!
# Every failure shows its reason

The text of a mismatch is read by its lines, from the end, since a test may be called anything. A
label tells what a line shows, and a note stands on the last line. What is read is what was compared
and what was noted. Quoted texts differ just when the outputs do, so a test has failed exactly if
its text shows two different outputs or closes with a note.
-/

set_option autoImplicit false

namespace Proctor

namespace Mismatch

def lines (text : String) : List (List Char) := text.toList.splitOn '\n'

/-- What stands behind a label on the last line that begins with it. -/
def shown? (label text : String) : Option String :=
  ((lines text).reverse.findSome? fun line => line.dropPrefix? label.toList).map String.ofList

def closingNote? (text : String) : Option String :=
  ((lines text).getLast?.bind fun line => line.dropPrefix? "note:     ".toList).map String.ofList

def closingLines (m : Mismatch) : List (List Char) :=
  [quotedLine "expected: " m.expected, quotedLine "actual:   " m.actual] ++
    (m.note.map fun note => "note:     ".toList ++ note.toList).toList

/-- Whatever the test is called, the last lines are those of the outputs and the note. -/
theorem lines_render (m : Mismatch) :
    lines m.render = m.nameLine.toList.splitOn '\n' ++ m.closingLines := by
  have hexpected := newline_notMem_quotedLine (show '\n' ∉ "expected: ".toList by decide) m.expected
  have hactual := newline_notMem_quotedLine (show '\n' ∉ "actual:   ".toList by decide) m.actual
  rw [lines, toList_render, outputLines, closingLines]
  rcases hnote : m.note with _ | note
  · simp only [noteLine, hnote, List.append_nil, List.cons_append, Option.map_none,
      Option.toList_none, List.splitOn_append_cons_self, List.splitOn_eq_singleton hexpected,
      List.splitOn_eq_singleton hactual, List.nil_append]
  · have hline : '\n' ∉ "note:     ".toList ++ note.toList := by
      simpa using newline_notMem_note hnote
    simp only [noteLine, hnote, List.append_assoc, List.cons_append, Option.map_some,
      Option.toList_some, List.splitOn_append_cons_self, List.splitOn_eq_singleton hexpected,
      List.splitOn_eq_singleton hactual, List.splitOn_eq_singleton hline, List.nil_append]

theorem shown?_expected (m : Mismatch) : shown? "expected: " m.render = some (quoted m.expected) := by
  rw [shown?, lines_render, closingLines]
  rcases m.note with _ | note <;> simp [List.dropPrefix?, quotedLine]

theorem shown?_actual (m : Mismatch) : shown? "actual:   " m.render = some (quoted m.actual) := by
  rw [shown?, lines_render, closingLines]
  rcases m.note with _ | note <;> simp [List.dropPrefix?, quotedLine]

theorem closingNote?_render (m : Mismatch) : closingNote? m.render = m.note := by
  rw [closingNote?, lines_render, closingLines]
  rcases m.note with _ | note <;> simp [List.dropPrefix?, quotedLine]

theorem note_eq_killed (m : Mismatch) :
    m.note = some "killed after exceeding the time limit" ↔ m.timedOut = true := by
  rcases hm : m.timedOut with _ | _
  · rw [note_of_alive hm]
    exact iff_of_false (exited_ne_killed _) (by simp)
  · exact iff_of_true (note_of_killed hm) rfl

theorem note_eq_exited (m : Mismatch) (code : Int) :
    m.note = some ("exited with status " ++ toString code) ↔
      m.timedOut = false ∧ m.exitCode = some code := by
  rcases hm : m.timedOut with _ | _
  · rw [note_of_alive hm, Option.map_eq_some_iff]
    constructor
    · rintro ⟨found, hfound, hsame⟩
      exact ⟨rfl, hfound.trans (congrArg some (exited_injective hsame))⟩
    · rintro ⟨-, hfound⟩
      exact ⟨code, hfound, rfl⟩
  · rw [note_of_killed hm]
    exact iff_of_false (exited_ne_killed (some code)).symm (by simp)

theorem note_eq_none (m : Mismatch) : m.note = none ↔ m.timedOut = false ∧ m.exitCode = none := by
  rcases hm : m.timedOut with _ | _
  · simp [note_of_alive hm]
  · simp [note_of_killed hm]

def ofExecution (policy : ExitPolicy) (id expected : String) (e : Execution) : Mismatch where
  testId := id
  expected := expected
  actual := e.stdout
  exitCode := if policy = .requireSuccess ∧ e.success = false then some e.exitCode else none
  timedOut := e.timedOut

theorem ofExecution_exitCode (policy : ExitPolicy) (id expected : String) (e : Execution)
    (code : Int) :
    (ofExecution policy id expected e).exitCode = some code ↔
      policy = .requireSuccess ∧ e.success = false ∧ code = e.exitCode := by
  by_cases hcounts : policy = .requireSuccess ∧ e.success = false
  · simp [ofExecution, hcounts, eq_comm]
  · rw [← and_assoc]
    simp [ofExecution, hcounts]

theorem ofExecution_note_eq_none (policy : ExitPolicy) (id expected : String) (e : Execution) :
    (ofExecution policy id expected e).note = none ↔
      policy.accepts e = true ∧ e.timedOut = false := by
  rw [note_eq_none, ExitPolicy.accepts_iff, and_comm]
  simp [ofExecution]

end Mismatch

open Proctor.Mismatch

theorem judge_mismatch (policy : ExitPolicy) (id expected : String) (e : Execution) :
    (judge policy id expected e).mismatch =
      if (judge policy id expected e).passed then none
      else some (.ofExecution policy id expected e) := by
  by_cases hpassed : (judge policy id expected e).passed = true
  · rw [if_pos hpassed]
    exact Option.isNone_iff_eq_none.mp hpassed
  · rw [if_neg hpassed]
    rw [Expected.judge_passed] at hpassed
    rw [judge, if_neg hpassed, Mismatch.ofExecution]
    cases policy <;> cases hsuccess : e.success <;> simp [ExitPolicy.accepts, hsuccess]

theorem judge_passed_iff_quoted (policy : ExitPolicy) (id expected : String) (e : Execution) :
    (judge policy id expected e).passed = true ↔
      quoted expected = quoted e.stdout ∧ (ofExecution policy id expected e).note = none := by
  rw [Expected.judge_passed, ofExecution_note_eq_none, quoted_injective.eq_iff, eq_comm]

/-- What a test that fails is recorded as shows both outputs, quoted, behind their labels. It has
failed exactly if these are different or the text closes with a note. The note says that the program
was killed just when it was, and otherwise tells its exit status just when that is required to be a
success and is not. -/
theorem failure_shows_reason {ρ : Type} (r : Reporter ρ) (id expected : String) (e : Execution) :
    let verdict := (r.record id expected e).1
    let m := Mismatch.ofExecution r.policy id expected e
    (verdict.mismatch = if verdict.passed then none else some m) ∧
    shown? "expected: " m.render = some (quoted expected) ∧
    shown? "actual:   " m.render = some (quoted e.stdout) ∧
    (verdict.passed = false ↔
      shown? "expected: " m.render ≠ shown? "actual:   " m.render ∨
        (closingNote? m.render).isSome = true) ∧
    (closingNote? m.render = some "killed after exceeding the time limit" ↔
      e.timedOut = true) ∧
    ∀ code : Int, closingNote? m.render = some ("exited with status " ++ toString code) ↔
      e.timedOut = false ∧ r.policy = .requireSuccess ∧ e.success = false ∧
        code = e.exitCode := by
  intro verdict m
  refine ⟨judge_mismatch r.policy id expected e, shown?_expected m, shown?_actual m, ?_, ?_, ?_⟩
  · have hpassed : verdict.passed = true ↔ quoted expected = quoted e.stdout ∧ m.note = none :=
      judge_passed_iff_quoted r.policy id expected e
    rw [shown?_expected, shown?_actual, closingNote?_render, ← Bool.not_eq_true, hpassed, not_and_or,
      Option.isSome_iff_ne_none, Ne, Option.some.injEq]
    rfl
  · rw [closingNote?_render]
    exact note_eq_killed m
  · intro code
    rw [closingNote?_render, note_eq_exited]
    exact and_congr_right fun _ => ofExecution_exitCode r.policy id expected e code

end Proctor
