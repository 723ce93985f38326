import Proctor.Proofs.Console.Output
import Proctor.Proofs.Suite.Policy

/-!
# The transcript of a run

What the console shows of a run, as one text made from the tests found and the verdicts on those
that were judged. The quiet form has one mark for each verdict and reads the same however the run
ended. The verbose form has one line for each verdict; it closes with the numbers, or, if a problem
ended the run, with the line of the test that was under way.
-/

set_option autoImplicit false

namespace Proctor.Console

open Suite (Event run course reached attempts)

variable {ω : Type}

def heading (ids : List String) : String :=
  "tests: " ++ String.intercalate " " ids ++ "\n"

def marks (verdicts : List Verdict) : String :=
  String.ofList (verdicts.map fun v => if v.passed then '.' else 'F')

def lines (verdicts : List Verdict) : String :=
  String.join (verdicts.map fun v => v.testId ++ " ... " ++ (if v.passed then "ok" else "FAILED") ++
    "\n")

def closing (passed failed notRun : Nat) (duration : Duration) : String :=
  toString passed ++ " passed, " ++ toString failed ++ " failed" ++
    (if 0 < notRun then ", " ++ toString notRun ++ " not run" else "") ++
    " in " ++ duration.renderFixed ++ "s\n"

theorem printed_eq (verbose : Bool) (es : List Event) :
    printed verbose es = Bytes.ofString (String.join (es.map (text verbose))) := by
  induction es with
  | nil => rfl
  | cons e es ih =>
    rw [printed, List.flatMap_cons, ← printed, ih, List.map_cons, String.join_cons,
      Bytes.ofString_append]

theorem printed_course (verbose : Bool) (ids : List String) (verdicts : List Verdict)
    (rest : List Event) :
    printed verbose (.collected ids :: course verdicts ++ rest) = Bytes.ofString
      (heading ids ++ String.join ((course verdicts).map (text verbose)) ++
        String.join (rest.map (text verbose))) := by
  rw [printed_eq, List.map_append, List.map_cons, String.join_append, String.join_cons]
  rfl

theorem text_course_quiet (verdicts : List Verdict) :
    String.join ((course verdicts).map (text false)) = marks verdicts := by
  induction verdicts with
  | nil => rfl
  | cons v vs ih =>
    have hmark : completedMark false v.passed = String.ofList [if v.passed then '.' else 'F'] := by
      rcases v.passed <;> rfl
    rw [Suite.course_cons, List.map_cons, List.map_cons, String.join_cons, String.join_cons, ih,
      text, text, hmark]
    simp [marks, startedMark]

theorem text_course_verbose (verdicts : List Verdict) :
    String.join ((course verdicts).map (text true)) = lines verdicts := by
  induction verdicts with
  | nil => rfl
  | cons v vs ih =>
    have hmark : completedMark true v.passed = (if v.passed then "ok" else "FAILED") ++ "\n" := by
      rcases v.passed <;> rfl
    rw [Suite.course_cons, List.map_cons, List.map_cons, String.join_cons, String.join_cons, ih,
      text, text, hmark, lines, lines, List.map_cons, String.join_cons]
    simp [startedMark, String.append_assoc]

/-- In the verbose form a problem leaves the line of its test unfinished. -/
theorem printed_problem (ids : List String) (verdicts : List Verdict) (id : String) :
    printed true (.collected ids :: course verdicts ++ [.started id, .aborted]) =
      Bytes.ofString (heading ids ++ lines verdicts ++ id ++ " ... \n") := by
  have hend : String.join ([.started id, .aborted].map (text true)) = id ++ " ... \n" := by
    simp [text, startedMark, abortedLine, String.append_assoc]
  rw [printed_course, text_course_verbose, hend, ← String.append_assoc]

theorem printed_summary (ids : List String) (verdicts : List Verdict) (summary : Summary) :
    printed true (.collected ids :: course verdicts ++ [.finished summary]) =
      Bytes.ofString (heading ids ++ lines verdicts ++ finishedLine true summary) := by
  rw [printed_course, text_course_verbose, List.map_singleton, String.join_cons, String.join_nil,
    String.append_empty, text]

theorem quiet_written (c : Collaborators ω) (settings : Settings) (names : List String)
    (policy : ExitPolicy) (start : Nat) (w w₁ : ω) (ids : List String)
    (h : c.discover settings.testDir names w = (.ok ids, w₁)) :
    (run c settings names (reporter false policy start none) w).state.written =
      Bytes.ofString (heading ids ++
        marks ((reached (Suite.Attempt.stops policy settings.failurePolicy)
          (attempts c settings.testDir ids w₁)).filterMap (Suite.Attempt.verdict? policy)) ++
        "\n") := by
  have hevents := Suite.events_by_verdicts c settings names (reporter false policy start none) w w₁
    ids h
  rw [run_written]
  split at hevents
  · rw [hevents.2, printed_course, text_course_quiet]
    rfl
  · obtain ⟨id, -, hheard⟩ := hevents
    rw [hheard, printed_course, text_course_quiet]
    rfl

theorem failed_eq (verdicts : List Verdict) :
    (verdicts.filterMap Verdict.mismatch).length = verdicts.countP fun v => !v.passed := by
  rw [List.length_filterMap_eq_countP]
  congr 1
  funext v
  simp [Verdict.passed]

theorem passed_add_failed (verdicts : List Verdict) :
    verdicts.countP Verdict.passed + (verdicts.countP fun v => !v.passed) = verdicts.length := by
  rw [List.length_eq_countP_add_countP Verdict.passed]
  simp

theorem finishedLine_of_run (c : Collaborators ω) (settings : Settings) (names : List String)
    (policy : ExitPolicy) (start : Nat) (w w₁ : ω) (ids : List String)
    (h : c.discover settings.testDir names w = (.ok ids, w₁)) (summary : Summary)
    (hok : (run c settings names (reporter true policy start none) w).result = .ok summary) :
    let taken := reached (Suite.Attempt.stops policy settings.failurePolicy)
      (attempts c settings.testDir ids w₁)
    let verdicts := taken.filterMap (Suite.Attempt.verdict? policy)
    let passed := verdicts.countP Verdict.passed
    let failed := verdicts.countP fun v => !v.passed
    taken.findSome? Suite.Attempt.problem? = none ∧
    finishedLine true summary = closing passed failed (ids.length - passed - failed)
      summary.duration := by
  intro taken verdicts passed failed
  have hresult := Suite.run_settles c settings names (reporter true policy start none) w w₁ ids h
    taken rfl
  rw [hok, Suite.settle] at hresult
  split at hresult
  · cases hresult
  · next hnone =>
    refine ⟨hnone, ?_⟩
    rw [Suite.foldl_add] at hresult
    cases hresult
    have hpassed : 0 + passed = passed := Nat.zero_add _
    have hfailed : ([] ++ verdicts.filterMap Verdict.mismatch).length = failed := failed_eq verdicts
    have hleft : ids.length - (passed + failed) = ids.length - passed - failed :=
      Nat.sub_add_eq _ _ _
    rw [← hleft, ← hfailed, ← hpassed]
    rfl

/-- Tests are left out without a problem only by a run that fails fast, and then its last verdict
is a failure. -/
theorem failed_last_of_short (c : Collaborators ω) (dir : Path) (ids : List String) (w : ω)
    (policy : ExitPolicy) (failure : FailurePolicy) (taken : List (Suite.Attempt ω))
    (htaken : reached (Suite.Attempt.stops policy failure) (attempts c dir ids w) = taken)
    (hnone : taken.findSome? Suite.Attempt.problem? = none)
    (hshort : (taken.filterMap (Suite.Attempt.verdict? policy)).length < ids.length) :
    failure = .failFast ∧
      ∃ v, (taken.filterMap (Suite.Attempt.verdict? policy)).getLast? = some v ∧
        v.passed = false := by
  have hmap := Suite.map_verdict policy taken hnone
  have hlength : (taken.filterMap (Suite.Attempt.verdict? policy)).length = taken.length := by
    simpa using (congrArg List.length hmap).symm
  have hall : (attempts c dir ids w).length = ids.length := by
    simpa using congrArg List.length (Suite.attempts_id c dir ids w)
  obtain ⟨hfast, a, hlast, hfailed⟩ := Suite.failFast_of_short policy failure
    (attempts c dir ids w) (by rwa [htaken]) (by rw [htaken]; omega)
  obtain ⟨-, v, m, hv, hm⟩ := Suite.failed_elim hfailed
  refine ⟨hfast, v, ?_, by simp [Verdict.passed, hm]⟩
  -- The last verdict is the verdict on the last attempt, as there is one verdict for each.
  have hends := congrArg List.getLast? hmap
  rw [htaken] at hlast
  rw [List.getLast?_map, List.getLast?_map, hlast, Option.map_some, hv] at hends
  obtain ⟨u, hu, huv⟩ := Option.map_eq_some_iff.mp hends.symm
  rw [hu, Option.some.inj huv]

/-- What the console shows follows from the tests found and the verdicts. If no tests can be found
it shows nothing. Otherwise the verdicts are on the first of the tests found, and each is shown, as
a mark or as a line. A problem shows in the verbose form as the unfinished line of the next test. A
summary counts the verdicts and the tests left out, of which there are some just if the run failed
fast before the last test. -/
theorem transcript_follows_verdicts (c : Collaborators ω) (settings : Settings)
    (names : List String) (policy : ExitPolicy) (start : Nat) (w : ω) :
    let ending (verbose : Bool) := run c settings names (reporter verbose policy start none) w
    match c.discover settings.testDir names w with
    | (.error _, _) => ∀ verbose, (ending verbose).state.written = []
    | (.ok ids, w₁) =>
      let verdicts := (reached (Suite.Attempt.stops policy settings.failurePolicy)
        (attempts c settings.testDir ids w₁)).filterMap (Suite.Attempt.verdict? policy)
      let passed := verdicts.countP Verdict.passed
      let failed := verdicts.countP fun v => !v.passed
      let notRun := ids.length - passed - failed
      verdicts.map Verdict.testId <+: ids ∧
      (ending false).state.written = Bytes.ofString (heading ids ++ marks verdicts ++ "\n") ∧
      match (ending true).result with
      | .error _ =>
        ∃ id, verdicts.map Verdict.testId ++ [id] <+: ids ∧
          (ending true).state.written =
            Bytes.ofString (heading ids ++ lines verdicts ++ id ++ " ... \n")
      | .ok summary =>
        (ending true).state.written = Bytes.ofString
          (heading ids ++ lines verdicts ++ closing passed failed notRun summary.duration) ∧
        passed + failed + notRun = ids.length ∧
        (0 < notRun ↔ settings.failurePolicy = .failFast ∧ verdicts.length < ids.length ∧
          ∃ v, verdicts.getLast? = some v ∧ v.passed = false) := by
  intro ending
  have hwritten (verbose : Bool) : (ending verbose).state.written = _ :=
    run_written c settings names verbose policy start w
  split
  · next p w₁ h =>
    intro verbose
    rw [hwritten, Suite.events_of_lost _ _ _ _ _ _ _ h]
    rfl
  · next ids w₁ h =>
    intro verdicts passed failed notRun
    have htests : verdicts.map Verdict.testId <+: ids :=
      Suite.judged_first c settings names (reporter true policy start none) w w₁ ids h
    refine ⟨htests, quiet_written c settings names policy start w w₁ ids h, ?_⟩
    have hevents := Suite.events_by_verdicts c settings names (reporter true policy start none) w
      w₁ ids h
    rw [hwritten]
    rcases hresult : (ending true).result with p | summary
    · simp only [show (run c settings names _ w).result = _ from hresult] at hevents
      obtain ⟨id, hids, hheard⟩ := hevents
      refine ⟨id, hids, ?_⟩
      rw [hheard]
      exact printed_problem ids verdicts id
    · simp only [show (run c settings names _ w).result = _ from hresult] at hevents
      obtain ⟨hnone, hline⟩ := finishedLine_of_run c settings names policy start w w₁ ids h
        summary hresult
      have hcount : passed + failed = verdicts.length := passed_add_failed verdicts
      have hlength : verdicts.length ≤ ids.length := by simpa using htests.length_le
      refine ⟨?_, by omega, ?_, ?_⟩
      · rw [hevents.2, printed_summary, hline]
        rfl
      · intro hpos
        have hshort : verdicts.length < ids.length := by omega
        obtain ⟨hfast, hlast⟩ := failed_last_of_short c settings.testDir ids w₁ policy
          settings.failurePolicy _ rfl hnone hshort
        exact ⟨hfast, hshort, hlast⟩
      · rintro ⟨-, hshort, -⟩
        omega

end Proctor.Console
