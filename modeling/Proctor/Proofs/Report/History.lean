import Proctor.Reporter

/-!
# The history of a reporter

Until it is closed, a reporter may be called upon in any order and any number of times. A history is
such a list of calls. Beside the tally stand the verdicts that the calls have handed out. The counter
of the tally, its list of failures and the number announced last all follow from the history.
-/

set_option autoImplicit false

namespace Proctor

def Tally.judged (t : Tally) : Nat := t.passed + t.failures.length

theorem Tally.judged_add (t : Tally) (v : Verdict) : (t.add v).judged = t.judged + 1 := by
  rcases hm : v.mismatch with _ | m
  · simp only [add, hm, judged]
    omega
  · simp only [add, hm, judged, List.length_append, List.length_singleton]
    omega

theorem ExitPolicy.accepts_iff (policy : ExitPolicy) (e : Execution) :
    policy.accepts e = true ↔ (policy = .requireSuccess → e.success = true) := by
  cases policy <;> simp [accepts]

theorem all_passed_iff (verdicts : List Verdict) :
    verdicts.filterMap Verdict.mismatch = [] ↔ ∀ v ∈ verdicts, v.passed = true := by
  rw [List.filterMap_eq_nil_iff]
  exact forall₂_congr fun v _ => Option.isNone_iff_eq_none.symm

namespace Reporter

variable {ρ : Type}

inductive Call where
  | begin (ids : List String)
  | startTest (id : String)
  | record (id expected : String) (execution : Execution)
  deriving DecidableEq, Repr

namespace Call

def announced? : Call → Option (List String)
  | .begin ids => some ids
  | _ => none

def isRecord : Call → Bool
  | .record .. => true
  | _ => false

end Call

def next (r : Reporter ρ) : Call → Reporter ρ
  | .begin ids => r.begin ids
  | .startTest id => r.startTest id
  | .record id expected e => (r.record id expected e).2

def handed? (r : Reporter ρ) : Call → Option Verdict
  | .record id expected e => some (r.record id expected e).1
  | _ => none

def upon : Reporter ρ → List Call → Reporter ρ
  | r, [] => r
  | r, call :: calls => (r.next call).upon calls

def handed : Reporter ρ → List Call → List Verdict
  | _, [] => []
  | r, call :: calls => (r.handed? call).toList ++ (r.next call).handed calls

theorem policy_upon (r : Reporter ρ) (calls : List Call) : (r.upon calls).policy = r.policy := by
  induction calls generalizing r with
  | nil => rfl
  | cons call calls ih =>
    rw [upon, ih]
    cases call <;> rfl

section Tally

variable (r : Reporter ρ)

/-- The number announced last, or `start` before any announcement. -/
def lastAnnounced (start : Nat) (calls : List Call) : Nat :=
  ((calls.filterMap Call.announced?).getLast?.map List.length).getD start

theorem lastAnnounced_cons (start : Nat) (call : Call) (calls : List Call) :
    lastAnnounced start (call :: calls) =
      lastAnnounced ((call.announced?.map List.length).getD start) calls := by
  rcases hcall : call.announced? with _ | ids
  · simp [lastAnnounced, hcall]
  · rcases hlast : (calls.filterMap Call.announced?).getLast? with _ | last <;>
      simp [lastAnnounced, hcall, List.getLast?_cons, hlast]

section Record

variable (id expected : String) (e : Execution)

theorem judged_record : (r.record id expected e).2.tally.judged = r.tally.judged + 1 :=
  Tally.judged_add _ _

theorem collected_record : (r.record id expected e).2.tally.collected = r.tally.collected := by
  simp only [record, Tally.add]
  split <;> rfl

end Record

theorem collected_next (call : Call) :
    (r.next call).tally.collected =
      (call.announced?.map List.length).getD r.tally.collected := by
  cases call with
  | begin ids => rfl
  | startTest id => rfl
  | record id expected e => exact r.collected_record id expected e

/-- One call counts what it hands out, and nothing else. -/
theorem counts_next (call : Call) :
    (r.next call).tally.passed =
      r.tally.passed + (r.handed? call).toList.countP Verdict.passed ∧
    (r.next call).tally.failures =
      r.tally.failures ++ (r.handed? call).toList.filterMap Verdict.mismatch := by
  cases call with
  | begin ids => simp [next, handed?, begin]
  | startTest id => simp [next, handed?, startTest]
  | record id expected e =>
    rcases hm : (judge r.policy id expected e).mismatch with _ | m <;>
      simp [next, handed?, record, Tally.add, Verdict.passed, hm]

theorem judged_next (call : Call) :
    (r.next call).tally.judged = r.tally.judged + if call.isRecord then 1 else 0 := by
  cases call with
  | begin ids => rfl
  | startTest id => rfl
  | record id expected e => exact r.judged_record id expected e

theorem collected_upon (calls : List Call) :
    (r.upon calls).tally.collected = lastAnnounced r.tally.collected calls := by
  induction calls generalizing r with
  | nil => rfl
  | cons call calls ih => rw [upon, ih, collected_next, lastAnnounced_cons]

theorem counts_upon (calls : List Call) :
    (r.upon calls).tally.passed = r.tally.passed + (r.handed calls).countP Verdict.passed ∧
    (r.upon calls).tally.failures =
      r.tally.failures ++ (r.handed calls).filterMap Verdict.mismatch := by
  induction calls generalizing r with
  | nil => simp [upon, handed]
  | cons call calls ih =>
    obtain ⟨hpassed, hfailures⟩ := counts_next r call
    obtain ⟨hpassedRest, hfailuresRest⟩ := ih (r.next call)
    rw [upon, hpassedRest, hfailuresRest, hpassed, hfailures, handed, List.countP_append,
      List.filterMap_append, List.append_assoc, Nat.add_assoc]
    exact ⟨rfl, rfl⟩

theorem judged_upon (calls : List Call) :
    (r.upon calls).tally.judged = r.tally.judged + calls.countP Call.isRecord := by
  induction calls generalizing r with
  | nil => rfl
  | cons call calls ih =>
    rw [upon, ih, judged_next, List.countP_cons]
    omega

end Tally

end Reporter

end Proctor
