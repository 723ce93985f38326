import Mathlib.Data.List.Forall2
import Mathlib.Data.List.Induction
import Proctor.Proofs.Text.Numerals
import Proctor.Proofs.Text.Quoted
import Proctor.Tally

/-!
# What a failure report tells

The entries of a report stand one after another, each on three or four lines, and nothing but a
line end divides lines and entries alike. The outputs are quoted and a note is one of two sentences,
so none of these lines can hold a line end, and how a line begins tells what it is. A report is
therefore read from its end: the lines of the last entry can be taken off one by one. This works for
one entry whatever its test is called, and for a whole report if no name of a test has a line end.
-/

set_option autoImplicit false

namespace Proctor

/-- A text can be cut at its last line end in one way only. -/
theorem last_line_inj {α : Type} {newline : α} {s t line line' : List α} (hline : newline ∉ line)
    (hline' : newline ∉ line') (h : s ++ newline :: line = t ++ newline :: line') :
    s = t ∧ line = line' := by
  rcases List.append_eq_append_iff.mp h with ⟨more, rfl, hmore⟩ | ⟨more, rfl, hmore⟩
  · cases more with
    | nil => exact ⟨(List.append_nil s).symm, (List.cons.inj hmore).2⟩
    | cons c more =>
      rw [(List.cons.inj hmore).2] at hline
      exact absurd (by simp) hline
  · cases more with
    | nil => exact ⟨List.append_nil t, (List.cons.inj hmore).2.symm⟩
    | cons c more =>
      rw [(List.cons.inj hmore).2] at hline'
      exact absurd (by simp) hline'

namespace Mismatch

/-- Mismatches that nothing shown of them tells apart. The exit status of a killed program is not
shown. -/
structure Alike (m n : Mismatch) : Prop where
  testId : m.testId = n.testId
  expected : m.expected = n.expected
  actual : m.actual = n.actual
  timedOut : m.timedOut = n.timedOut
  exitCode : m.timedOut = false → m.exitCode = n.exitCode

theorem note_of_killed {m : Mismatch} (h : m.timedOut = true) :
    m.note = some "killed after exceeding the time limit" := by
  rw [note, if_pos h]

theorem note_of_alive {m : Mismatch} (h : m.timedOut = false) :
    m.note = m.exitCode.map fun code => "exited with status " ++ toString code := by
  rw [note, if_neg (by simp [h])]

theorem exited_ne_killed (code : Option Int) :
    code.map (fun code => "exited with status " ++ toString code) ≠
      some "killed after exceeding the time limit" := by
  intro h
  obtain ⟨code, -, hnote⟩ := Option.map_eq_some_iff.mp h
  simpa using congrArg (fun note => note.toList.head?) hnote

theorem exited_injective : Function.Injective fun code : Int =>
    "exited with status " ++ toString code := by
  intro a b h
  rw [String.append_right_inj, Int.toString_eq_repr, Int.toString_eq_repr] at h
  exact Numeral.int_repr_injective h

theorem note_eq_iff {m n : Mismatch} :
    m.note = n.note ↔
      m.timedOut = n.timedOut ∧ (m.timedOut = false → m.exitCode = n.exitCode) := by
  rcases hm : m.timedOut with _ | _ <;> rcases hn : n.timedOut with _ | _
  · rw [note_of_alive hm, note_of_alive hn, (Option.map_injective exited_injective).eq_iff]
    simp
  · rw [note_of_alive hm, note_of_killed hn]
    exact iff_of_false (exited_ne_killed _) (by simp)
  · rw [note_of_killed hm, note_of_alive hn]
    exact iff_of_false (exited_ne_killed _).symm (by simp)
  · rw [note_of_killed hm, note_of_killed hn]
    simp

theorem newline_notMem_note {m : Mismatch} {note : String} (h : m.note = some note) :
    '\n' ∉ note.toList := by
  rcases hm : m.timedOut with _ | _
  · rw [note_of_alive hm] at h
    obtain ⟨code, -, rfl⟩ := Option.map_eq_some_iff.mp h
    simp [Numeral.newline_notMem_repr]
  · rw [note_of_killed hm] at h
    obtain rfl := Option.some.inj h
    decide

def nameLine (m : Mismatch) : String := "FAIL: " ++ m.testId

def quotedLine (label text : String) : List Char := label.toList ++ (quoted text).toList

def outputLines (m : Mismatch) : List Char :=
  '\n' :: quotedLine "expected: " m.expected ++ '\n' :: quotedLine "actual:   " m.actual

def noteLine (m : Mismatch) : List Char :=
  match m.note with
  | none => []
  | some note => '\n' :: ("note:     ".toList ++ note.toList)

theorem toList_render (m : Mismatch) :
    m.render.toList = m.nameLine.toList ++ m.outputLines ++ m.noteLine := by
  rcases hnote : m.note with _ | note <;>
    simp [render, nameLine, outputLines, quotedLine, noteLine, hnote]

theorem newline_notMem_nameLine {m : Mismatch} (hid : '\n' ∉ m.testId.toList) :
    '\n' ∉ m.nameLine.toList := by
  simpa [nameLine] using hid

theorem newline_notMem_quotedLine {label : String} (hlabel : '\n' ∉ label.toList) (s : String) :
    '\n' ∉ quotedLine label s := by
  simp [quotedLine, hlabel, newline_notMem_quoted]

theorem quotedLine_injective (label : String) : Function.Injective (quotedLine label) := by
  intro s t h
  exact quoted_injective (String.toList_inj.mp (List.append_cancel_left h))

theorem outputLines_inj {s t : List Char} {m n : Mismatch}
    (h : s ++ m.outputLines = t ++ n.outputLines) :
    s = t ∧ m.expected = n.expected ∧ m.actual = n.actual := by
  rw [outputLines, outputLines, ← List.append_assoc, ← List.append_assoc] at h
  obtain ⟨h, hactual⟩ := last_line_inj (newline_notMem_quotedLine (by decide) _)
    (newline_notMem_quotedLine (by decide) _) h
  obtain ⟨h, hexpected⟩ := last_line_inj (newline_notMem_quotedLine (by decide) _)
    (newline_notMem_quotedLine (by decide) _) h
  exact ⟨h, quotedLine_injective _ hexpected, quotedLine_injective _ hactual⟩

theorem outputLines_ne_note (s t : List Char) (m : Mismatch) {n : Mismatch} {note : String}
    (hnote : n.note = some note) :
    s ++ m.outputLines ≠ t ++ '\n' :: ("note:     ".toList ++ note.toList) := by
  intro h
  rw [outputLines, ← List.append_assoc] at h
  have hlast := (last_line_inj (newline_notMem_quotedLine (by decide) _)
    (by simpa using newline_notMem_note hnote) h).2
  simpa [quotedLine] using congrArg List.head? hlast

theorem noteLine_inj {s t : List Char} {m n : Mismatch}
    (h : s ++ m.outputLines ++ m.noteLine = t ++ n.outputLines ++ n.noteLine) :
    s ++ m.outputLines = t ++ n.outputLines ∧ m.note = n.note := by
  rcases hm : m.note with _ | note <;> rcases hn : n.note with _ | note' <;>
    simp only [noteLine, hm, hn, List.append_nil] at h
  · exact ⟨h, rfl⟩
  · exact absurd h (outputLines_ne_note s _ m hn)
  · exact absurd h.symm (outputLines_ne_note t _ n hm)
  · obtain ⟨h, hnote⟩ := last_line_inj (by simpa using newline_notMem_note hm)
      (by simpa using newline_notMem_note hn) h
    exact ⟨h, congrArg some (String.toList_inj.mp (List.append_cancel_left hnote))⟩

theorem entry_inj {s t : List Char} {m n : Mismatch}
    (h : s ++ m.outputLines ++ m.noteLine = t ++ n.outputLines ++ n.noteLine) :
    s = t ∧ (m.nameLine = n.nameLine → m.Alike n) := by
  obtain ⟨h, hnote⟩ := noteLine_inj h
  obtain ⟨h, hexpected, hactual⟩ := outputLines_inj h
  obtain ⟨htimedOut, hexitCode⟩ := note_eq_iff.mp hnote
  refine ⟨h, fun hname => ⟨?_, hexpected, hactual, htimedOut, hexitCode⟩⟩
  exact (String.append_right_inj _).mp hname

theorem render_of_alike {m n : Mismatch} (h : m.Alike n) : m.render = n.render := by
  have hnote := note_eq_iff.mpr ⟨h.timedOut, h.exitCode⟩
  rw [render, render, h.testId, h.expected, h.actual, hnote]

theorem render_eq_iff {m n : Mismatch} : m.render = n.render ↔ m.Alike n := by
  refine ⟨fun h => ?_, render_of_alike⟩
  have hlists := congrArg String.toList h
  rw [toList_render, toList_render] at hlists
  obtain ⟨hname, halike⟩ := entry_inj hlists
  exact halike (String.toList_inj.mp hname)

end Mismatch

namespace Summary

def entries (ms : List Mismatch) : String := String.intercalate "\n" (ms.map Mismatch.render)

theorem entries_singleton (m : Mismatch) : entries [m] = m.render := by
  rw [entries, List.map_singleton, String.intercalate_singleton]

theorem toList_entries_append {ms : List Mismatch} (hms : ms ≠ []) (m : Mismatch) :
    (entries (ms ++ [m])).toList =
      (entries ms).toList ++ '\n' :: m.nameLine.toList ++ m.outputLines ++ m.noteLine := by
  have hentries : entries (ms ++ [m]) = entries ms ++ "\n" ++ m.render := by
    rw [entries, List.map_append, String.intercalate_append_of_ne_nil (by simpa using hms)
      (by simp), ← entries, List.map_singleton, String.intercalate_singleton]
  rw [hentries, String.toList_append, String.toList_append, Mismatch.toList_render]
  simp

/-- A single entry is not an entry after others, as its first line would end twice. -/
theorem entries_singleton_ne {m n : Mismatch} {ns : List Mismatch} (hns : ns ≠ [])
    (hid : '\n' ∉ m.testId.toList) : entries [m] ≠ entries (ns ++ [n]) := by
  intro h
  have hlists := congrArg String.toList h
  rw [entries_singleton, Mismatch.toList_render, toList_entries_append hns] at hlists
  have hname := (Mismatch.entry_inj hlists).1
  have hnone := Mismatch.newline_notMem_nameLine hid
  rw [hname] at hnone
  exact hnone (by simp)

/-- Entries with the same text are alike one by one, if no name has a line end. The last entries are
taken off first. -/
theorem alike_of_entries {ms ns : List Mismatch} (hms : ms ≠ []) (hns : ns ≠ [])
    (hmids : ∀ m ∈ ms, '\n' ∉ m.testId.toList) (hnids : ∀ n ∈ ns, '\n' ∉ n.testId.toList)
    (h : entries ms = entries ns) : List.Forall₂ Mismatch.Alike ms ns := by
  induction ms using List.reverseRecOn generalizing ns with
  | nil => exact absurd rfl hms
  | append_singleton ms m ih =>
    obtain ⟨ns, n, rfl⟩ := (List.eq_nil_or_concat' ns).resolve_left hns
    have hm : '\n' ∉ m.testId.toList := hmids m (by simp)
    have hn : '\n' ∉ n.testId.toList := hnids n (by simp)
    rcases eq_or_ne ms [] with rfl | hms <;> rcases eq_or_ne ns [] with rfl | hns
    · rw [List.nil_append, List.nil_append, entries_singleton, entries_singleton] at h
      exact .cons (Mismatch.render_eq_iff.mp h) .nil
    · exact absurd h (entries_singleton_ne hns hm)
    · exact absurd h.symm (entries_singleton_ne hms hn)
    · have hlists := congrArg String.toList h
      rw [toList_entries_append hms, toList_entries_append hns] at hlists
      obtain ⟨hbefore, halike⟩ := Mismatch.entry_inj hlists
      obtain ⟨hbefore, hname⟩ := last_line_inj (Mismatch.newline_notMem_nameLine hm)
        (Mismatch.newline_notMem_nameLine hn) hbefore
      have hrest := ih hms hns (fun m hm => hmids m (by simp [hm]))
        (fun n hn => hnids n (by simp [hn])) (String.toList_inj.mp hbefore)
      exact List.rel_append hrest (.cons (halike (String.toList_inj.mp hname)) .nil)

theorem entries_of_alike {ms ns : List Mismatch} (h : List.Forall₂ Mismatch.Alike ms ns) :
    entries ms = entries ns := by
  have hrender : ms.map Mismatch.render = ns.map Mismatch.render := by
    induction h with
    | nil => rfl
    | cons halike _ ih => rw [List.map_cons, List.map_cons, Mismatch.render_of_alike halike, ih]
  rw [entries, entries, hrender]

theorem failureReport_eq_none_iff {s : Summary} : s.failureReport = none ↔ s.failures = [] := by
  simp [failureReport]

theorem failureReport_of_failures {s : Summary} (h : s.failures ≠ []) :
    s.failureReport = some (entries s.failures) := by
  rw [failureReport, if_neg (by simpa using h), entries]

theorem failureReport_eq_iff {s t : Summary} (hs : ∀ m ∈ s.failures, '\n' ∉ m.testId.toList)
    (ht : ∀ m ∈ t.failures, '\n' ∉ m.testId.toList) :
    s.failureReport = t.failureReport ↔ List.Forall₂ Mismatch.Alike s.failures t.failures := by
  rcases eq_or_ne s.failures [] with hnone | hsome
  · rw [failureReport_eq_none_iff.mpr hnone, hnone, List.forall₂_nil_left_iff, eq_comm,
      failureReport_eq_none_iff]
  rcases eq_or_ne t.failures [] with hnone | hsome'
  · rw [failureReport_eq_none_iff.mpr hnone, hnone, List.forall₂_nil_right_iff,
      failureReport_eq_none_iff]
  rw [failureReport_of_failures hsome, failureReport_of_failures hsome', Option.some.injEq]
  exact ⟨alike_of_entries hsome hsome' hs ht, entries_of_alike⟩

/-- Text is quoted one character at a time, by the letter of the character, by its number or as it
is. Quoted text can be read back and stands on one line. So two entries read the same only if they
agree in all that is shown, whatever the tests are called. The same holds of whole reports, entry by
entry, if the names of the tests have no line end. Only without failures there is no report. -/
theorem failureReport_tells_failures :
    (∀ c, (∃ letter, Quoted.named? letter = some c ∧ Quoted.escape c = ['\\', letter]) ∨
      (∀ letter, Quoted.named? letter ≠ some c) ∧
        ((unprintable c = true ∧
          Quoted.escape c = '\\' :: 'u' :: '\x7b' :: Nat.toDigits 16 c.toNat ++ ['\x7d']) ∨
          (unprintable c = false ∧ Quoted.escape c = [c]))) ∧
    (∀ text, (quoted text).toList = '"' :: text.toList.flatMap Quoted.escape ++ ['"'] ∧
      unquote? (quoted text) = some text ∧ '\n' ∉ (quoted text).toList) ∧
    (∀ m n : Mismatch, m.render = n.render ↔ m.Alike n) ∧
    (∀ s : Summary, s.failureReport = none ↔ s.failures = []) ∧
    ∀ s t : Summary, (∀ m ∈ s.failures, '\n' ∉ m.testId.toList) →
      (∀ m ∈ t.failures, '\n' ∉ m.testId.toList) →
      (s.failureReport = t.failureReport ↔
        List.Forall₂ Mismatch.Alike s.failures t.failures) := by
  refine ⟨Quoted.escape_cases, fun text => ?_, ?_, ?_, ?_⟩
  · exact ⟨String.toList_ofList, unquote?_quoted text, newline_notMem_quoted text⟩
  · exact fun m n => Mismatch.render_eq_iff
  · exact fun s => failureReport_eq_none_iff
  · exact fun s t hs ht => failureReport_eq_iff hs ht

/-- An output that looks like the end of its entry and the start of another does not pass for
them. -/
theorem forged_entry_shows :
    let honest : Summary :=
      { failures := [⟨"a", "1", "2", none, false⟩, ⟨"b", "3", "4", some (-1), false⟩] }
    let forged : Summary :=
      { failures :=
          [⟨"a", "1", "2\"\nFAIL: b\nexpected: \"3\"\nactual:   \"4", some (-1), false⟩] }
    honest.failureReport ≠ forged.failureReport := by
  intro honest forged h
  have hsame := (failureReport_tells_failures.2.2.2.2 honest forged (by decide) (by decide)).mp h
  exact absurd hsame.length_eq (by decide)

end Summary

end Proctor
