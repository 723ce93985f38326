import Mathlib.Logic.Function.Iterate
import Proctor.Proofs.Expected.Bytes
import Proctor.Proofs.Report.History
import Proctor.Proofs.Report.Readable
import Proctor.Proofs.Suite.Specification

/-!
# A run moment by moment

A run as a machine that goes from moment to moment: the tests are looked for, the next one is
started, it is judged, and so on to the end. The machine comes to the ending of the run, so its
moments are all there are inside the run. At each of them the tests judged and the tests still to be
judged make up the tests announced, which is why no more tests are ever counted than were announced.
-/

set_option autoImplicit false

namespace Proctor.Suite

variable {ω ρ : Type}

inductive Moment (ω ρ : Type) where
  | searching (r : Reporter ρ) (w : ω)
  /-- Between two tests, with those to come. -/
  | between (ids : List String) (r : Reporter ρ) (w : ω)
  | testing (id : String) (ids : List String) (r : Reporter ρ) (w : ω)
  | judged (verdict : Verdict) (ids : List String) (r : Reporter ρ) (w : ω)
  | ended (ending : Ending ω ρ)

namespace Moment

def reporter? : Moment ω ρ → Option (Reporter ρ)
  | .searching r _ => some r
  | .between _ r _ => some r
  | .testing _ _ r _ => some r
  | .judged _ _ r _ => some r
  | .ended _ => none

/-- The tests judged and those still to be judged are the tests announced. -/
def Balanced : Moment ω ρ → Prop
  | .searching r _ => r.tally.judged = 0
  | .between ids r _ => r.tally.judged + ids.length = r.tally.collected
  | .testing _ ids r _ => r.tally.judged + (ids.length + 1) = r.tally.collected
  | .judged _ ids r _ => r.tally.judged + ids.length = r.tally.collected
  | .ended ending =>
    ∀ summary, ending.result = .ok summary →
      summary.passed + summary.failures.length ≤ summary.collected

theorem judged_le_of_balanced {m : Moment ω ρ} (h : m.Balanced) {r : Reporter ρ}
    (hr : m.reporter? = some r) : r.tally.judged ≤ r.tally.collected := by
  cases m with
  | searching r' w =>
    obtain rfl := Option.some.inj hr
    exact Nat.le_trans (Nat.le_of_eq h) (Nat.zero_le _)
  | between ids r' w =>
    obtain rfl := Option.some.inj hr
    exact Nat.le.intro h
  | testing id ids r' w =>
    obtain rfl := Option.some.inj hr
    exact Nat.le.intro h
  | judged v ids r' w =>
    obtain rfl := Option.some.inj hr
    exact Nat.le.intro h
  | ended ending => cases hr

end Moment

section Course

variable (c : Collaborators ω) (settings : Settings) (names : List String)

def advance : Moment ω ρ → Moment ω ρ
  | .searching r w =>
    match c.discover settings.testDir names w with
    | (.error p, w) => .ended ⟨.error p, r.state, w⟩
    | (.ok ids, w) => .between ids (r.begin ids) w
  | .between [] r w => .ended (finish c r w)
  | .between (id :: ids) r w => .testing id ids (r.startTest id) w
  | .testing id ids r w =>
    match perform c settings.testDir id w with
    | (.error p, w) => .ended ⟨.error p, r.abort, w⟩
    | (.ok (case, execution), w) =>
      let (verdict, r) := r.record id case.expected execution
      .judged verdict ids r w
  | .judged verdict ids r w =>
    if !verdict.passed && settings.failurePolicy = .failFast then .ended (finish c r w)
    else .between ids r w
  | .ended ending => .ended ending

section Moves

variable {c settings} {id : String} (ids : List String) (r : Reporter ρ) {w w₁ : ω}

theorem advance_testing_error {p : Problem}
    (h : perform c settings.testDir id w = (.error p, w₁)) :
    advance c settings names (.testing id ids r w) = .ended ⟨.error p, r.abort, w₁⟩ := by
  simp only [advance, h]

theorem advance_testing_ok {case : TestCase} {execution : Execution}
    (h : perform c settings.testDir id w = (.ok (case, execution), w₁)) :
    advance c settings names (.testing id ids r w) =
      .judged (r.record id case.expected execution).1 ids
        (r.record id case.expected execution).2 w₁ := by
  simp only [advance, h]

end Moves

theorem advance_runTests (ids : List String) (r : Reporter ρ) (w : ω) :
    ∃ n, (advance c settings names)^[n] (.between ids r w) =
      .ended (runTests c settings ids r w) := by
  induction ids generalizing r w with
  | nil => exact ⟨1, rfl⟩
  | cons id ids ih =>
    have hstart : advance c settings names (.between (id :: ids) r w) =
      .testing id ids (r.startTest id) w := rfl
    rcases hperform : perform c settings.testDir id w with ⟨p | ⟨case, execution⟩, w₁⟩
    · refine ⟨2, ?_⟩
      rw [Function.iterate_succ_apply, hstart, Function.iterate_one,
        advance_testing_error names ids _ hperform, runTests, hperform]
    · have hjudged := advance_testing_ok names ids (r.startTest id) hperform
      obtain ⟨next, hnext⟩ : ∃ next, (r.startTest id).record id case.expected execution = next :=
        ⟨_, rfl⟩
      rw [hnext] at hjudged
      by_cases hstop : (!next.1.passed && settings.failurePolicy = .failFast) = true
      · refine ⟨3, ?_⟩
        rw [Function.iterate_succ_apply, hstart, Function.iterate_succ_apply, hjudged,
          Function.iterate_one, advance, if_pos hstop]
        simp only [runTests, hperform, hnext]
        rw [if_pos hstop]
      · obtain ⟨n, hn⟩ := ih next.2 w₁
        have hgoes : advance c settings names (.judged next.1 ids next.2 w₁) =
            .between ids next.2 w₁ := by
          rw [advance, if_neg hstop]
        refine ⟨n + 3, ?_⟩
        rw [Function.iterate_succ_apply, hstart, Function.iterate_succ_apply, hjudged,
          Function.iterate_succ_apply, hgoes, hn]
        simp only [runTests, hperform, hnext]
        rw [if_neg hstop]

theorem advance_run (r : Reporter ρ) (w : ω) :
    ∃ n, (advance c settings names)^[n] (.searching r w) =
      .ended (run c settings names r w) := by
  rcases hfound : c.discover settings.testDir names w with ⟨p | ids, w₁⟩
  · refine ⟨1, ?_⟩
    rw [run_of_lost _ _ _ _ _ _ _ hfound, Function.iterate_one, advance, hfound]
  · obtain ⟨n, hn⟩ := advance_runTests c settings names ids (r.begin ids) w₁
    refine ⟨n + 1, ?_⟩
    rw [run_of_found _ _ _ _ _ _ _ hfound, ← hn, Function.iterate_succ_apply, advance, hfound]

theorem balanced_finish {r : Reporter ρ} (h : r.tally.judged ≤ r.tally.collected) (w : ω) :
    (Moment.ended (finish c r w)).Balanced := by
  rintro summary hresult
  obtain rfl := Except.ok.inj hresult
  exact h

/-- A move keeps the balance. A test judged is no longer to come. -/
theorem balanced_advance (m : Moment ω ρ) (h : m.Balanced) :
    (advance c settings names m).Balanced := by
  cases m with
  | searching r w =>
    rcases hfound : c.discover settings.testDir names w with ⟨p | ids, w₁⟩
    · rw [advance, hfound]
      rintro summary hresult
      cases hresult
    · rw [advance, hfound]
      exact (congrArg (· + ids.length) h).trans (Nat.zero_add _)
  | between ids r w =>
    cases ids with
    | nil => exact balanced_finish c (Nat.le_of_eq h) w
    | cons id ids => exact h
  | testing id ids r w =>
    rcases hperform : perform c settings.testDir id w with ⟨p | ⟨case, execution⟩, w₁⟩
    · rw [advance_testing_error names ids r hperform]
      rintro summary hresult
      cases hresult
    · rw [advance_testing_ok names ids r hperform]
      have hjudged := r.judged_record id case.expected execution
      have hcollected := r.collected_record id case.expected execution
      simp only [Moment.Balanced] at h ⊢
      omega
  | judged verdict ids r w =>
    rw [advance]
    split
    · exact balanced_finish c (Nat.le.intro h) w
    · exact h
  | ended ending => exact h

theorem balanced_iterate {m : Moment ω ρ} (h : m.Balanced) (n : Nat) :
    ((advance c settings names)^[n] m).Balanced := by
  induction n with
  | zero => exact h
  | succ n ih =>
    rw [Function.iterate_succ_apply']
    exact balanced_advance c settings names _ ih

end Course

/-- Whatever a new reporter has been called upon to do, its summary counts the verdicts it handed
out, lists the mismatches of those that failed in order, and knows the number announced last. It is
a success just when it has no report, which is when every verdict has passed. A verdict passes if
the output is as expected, the program was not killed and, where that is required, it succeeded. At
every moment inside a run at most as many tests are counted as were announced, and the moments lead
to the ending of the run. -/
theorem tally_exact_over_history (listener : Listener ρ) (policy : ExitPolicy) (start : Nat)
    (state : ρ) :
    let fresh : Reporter ρ := { listener, policy, start, state }
    (∀ (calls : List Reporter.Call) (now : Nat),
      let verdicts := fresh.handed calls
      let summary := ((fresh.upon calls).finalize now).1
      summary.passed = verdicts.countP Verdict.passed ∧
      summary.failures = verdicts.filterMap Verdict.mismatch ∧
      summary.failed = summary.failures.length ∧
      summary.collected =
        ((calls.filterMap Reporter.Call.announced?).getLast?.map List.length).getD 0 ∧
      summary.total = calls.countP Reporter.Call.isRecord ∧
      (summary.isSuccess = true ↔ summary.failureReport = none) ∧
      (summary.isSuccess = true ↔ ∀ v ∈ verdicts, v.passed = true) ∧
      ∀ id expected e, ((fresh.upon calls).record id expected e).1.passed = true ↔
        e.stdout = expected ∧ e.timedOut = false ∧
          (policy = .requireSuccess → e.success = true)) ∧
    ∀ (c : Collaborators ω) (settings : Settings) (names : List String) (w : ω),
      let moment n := (advance c settings names)^[n] (.searching fresh w)
      (∃ n, moment n = .ended (run c settings names fresh w)) ∧
      ∀ n,
        (∀ r, (moment n).reporter? = some r →
          r.tally.passed + r.tally.failures.length ≤ r.tally.collected) ∧
        ∀ ending summary, moment n = .ended ending → ending.result = .ok summary →
          summary.passed + summary.failures.length ≤ summary.collected := by
  intro fresh
  refine ⟨fun calls now => ?history, fun c settings names w => ?moments⟩
  case history =>
    intro verdicts summary
    obtain ⟨hpassed, hfailures⟩ := fresh.counts_upon calls
    have hpassed : summary.passed = verdicts.countP Verdict.passed :=
      hpassed.trans (Nat.zero_add _)
    have hfailures : summary.failures = verdicts.filterMap Verdict.mismatch := hfailures
    have htotal : summary.total = calls.countP Reporter.Call.isRecord :=
      (fresh.judged_upon calls).trans (Nat.zero_add _)
    refine ⟨hpassed, hfailures, rfl, fresh.collected_upon calls, htotal, ?_, ?_, ?_⟩
    · rw [Summary.failureReport_eq_none_iff]
      exact List.isEmpty_iff
    · rw [← all_passed_iff, ← hfailures]
      exact List.isEmpty_iff
    · intro id expected e
      refine (Expected.judge_passed _ id expected e).trans ?_
      rw [ExitPolicy.accepts_iff, Reporter.policy_upon]
      exact and_congr_right fun _ => and_comm
  case moments =>
    intro moment
    refine ⟨advance_run c settings names fresh w, fun n => ?_⟩
    have hstart : (Moment.searching fresh w).Balanced := rfl
    have hbalanced : (moment n).Balanced := balanced_iterate c settings names hstart n
    refine ⟨fun r hr => Moment.judged_le_of_balanced hbalanced hr, ?_⟩
    intro ending summary hended hresult
    rw [hended] at hbalanced
    exact hbalanced summary hresult

end Proctor.Suite
