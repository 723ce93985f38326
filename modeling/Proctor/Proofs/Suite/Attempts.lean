import Proctor.Suite

/-!
# What a run does, test by test

The collaborators are watched through a copy of them that notes every call; being watched changes
no answer. Beside the run stands the list of attempts, in which every test found is loaded, built
and executed whether or not the run gets that far. It knows neither the policies nor the reporter.
A run is then an initial part of the attempts: it ends with the first one that stops it.
-/

set_option autoImplicit false

namespace Proctor.Suite

variable {ω ρ : Type}

inductive Call where
  | discover (dir : Path) (names : List String)
  | load (dir : Path) (id : String)
  | build (case : TestCase)
  | execute (executable : Path)
  deriving DecidableEq, Repr

def noting {α : Type} (call : Call) (x : Action ω α) : Action (ω × List Call) α := fun w =>
  ((x w.1).1, (x w.1).2, w.2 ++ [call])

def traced (c : Collaborators ω) : Collaborators (ω × List Call) where
  discover dir names := noting (.discover dir names) (c.discover dir names)
  load dir id := noting (.load dir id) (c.load dir id)
  build case := noting (.build case) (c.build case)
  execute executable := noting (.execute executable) (c.execute executable)
  now w := c.now w.1

/-- One test by itself: the calls made for it, how it ended, and the world it left. -/
structure Attempt (ω : Type) where
  id : String
  calls : List Call
  outcome : Except Problem (TestCase × Execution)
  world : ω

/-- Every call is given what the one before it answered, and a problem is the last answer. -/
def attempt (c : Collaborators ω) (dir : Path) (id : String) (w : ω) : Attempt ω :=
  match c.load dir id w with
  | (.error p, w) => ⟨id, [.load dir id], .error p, w⟩
  | (.ok case, w) =>
    match c.build case w with
    | (.error p, w) => ⟨id, [.load dir id, .build case], .error p, w⟩
    | (.ok executable, w) =>
      match c.execute executable w with
      | (.error p, w) => ⟨id, [.load dir id, .build case, .execute executable], .error p, w⟩
      | (.ok execution, w) =>
        ⟨id, [.load dir id, .build case, .execute executable], .ok (case, execution), w⟩

def attempts (c : Collaborators ω) (dir : Path) : List String → ω → List (Attempt ω)
  | [], _ => []
  | id :: ids, w => attempt c dir id w :: attempts c dir ids (attempt c dir id w).world

namespace Attempt

def problem? (a : Attempt ω) : Option Problem :=
  match a.outcome with
  | .error p => some p
  | .ok _ => none

def verdict? (policy : ExitPolicy) (a : Attempt ω) : Option Verdict :=
  match a.outcome with
  | .error _ => none
  | .ok (case, execution) => some (judge policy a.id case.expected execution)

def failed (policy : ExitPolicy) (a : Attempt ω) : Bool :=
  (a.verdict? policy).any fun v => !v.passed

/-- A problem stops every run, a failure only one that is to fail fast. -/
def stops (policy : ExitPolicy) (failure : FailurePolicy) (a : Attempt ω) : Bool :=
  a.problem?.isSome || (decide (failure = .failFast) && a.failed policy)

end Attempt

def reached (stop : Attempt ω → Bool) (as : List (Attempt ω)) : List (Attempt ω) :=
  as.take (as.findIdx stop + 1)

theorem reached_cons (stop : Attempt ω → Bool) (a : Attempt ω) (as : List (Attempt ω)) :
    reached stop (a :: as) = if stop a then [a] else a :: reached stop as := by
  by_cases h : stop a <;> simp [reached, List.findIdx_cons, h]

theorem perform_eq (c : Collaborators ω) (dir : Path) (id : String) (w : ω) :
    perform c dir id w = ((attempt c dir id w).outcome, (attempt c dir id w).world) := by
  simp only [perform, attempt, Action.andThen, Action.pure]
  rcases c.load dir id w with ⟨p | case, w₁⟩
  · rfl
  · dsimp only
    rcases c.build case w₁ with ⟨p | executable, w₂⟩
    · rfl
    · dsimp only
      rcases c.execute executable w₂ with ⟨p | execution, w₃⟩ <;> rfl

theorem attempt_traced (c : Collaborators ω) (dir : Path) (id : String) (w : ω) (log : List Call) :
    attempt (traced c) dir id (w, log) =
      { id := id
        calls := (attempt c dir id w).calls
        outcome := (attempt c dir id w).outcome
        world := ((attempt c dir id w).world, log ++ (attempt c dir id w).calls) } := by
  simp only [attempt, traced, noting]
  rcases c.load dir id w with ⟨p | case, w₁⟩
  · rfl
  · dsimp only
    rcases c.build case w₁ with ⟨p | executable, w₂⟩
    · simp
    · dsimp only
      rcases c.execute executable w₂ with ⟨p | execution, w₃⟩ <;> simp

theorem attempt_id (c : Collaborators ω) (dir : Path) (id : String) (w : ω) :
    (attempt c dir id w).id = id := by
  simp only [attempt]
  split
  · rfl
  · split
    · rfl
    · split <;> rfl

def conclude (c : Collaborators ω) : List (Attempt ω) → Reporter ρ → ω → Ending ω ρ
  | [], r, w => finish c r w
  | a :: as, r, _ =>
    match a.outcome with
    | .error p => ⟨.error p, (r.startTest a.id).abort, a.world⟩
    | .ok (case, execution) =>
      conclude c as ((r.startTest a.id).record a.id case.expected execution).2 a.world

theorem runTests_cons (c : Collaborators ω) (settings : Settings) (id : String)
    (ids : List String) (r : Reporter ρ) (w : ω) :
    runTests c settings (id :: ids) r w =
      match (attempt c settings.testDir id w).outcome with
      | .error p => ⟨.error p, (r.startTest id).abort, (attempt c settings.testDir id w).world⟩
      | .ok (case, execution) =>
        let next := (r.startTest id).record id case.expected execution
        if !next.1.passed && decide (settings.failurePolicy = .failFast) then
          finish c next.2 (attempt c settings.testDir id w).world
        else runTests c settings ids next.2 (attempt c settings.testDir id w).world := by
  rw [runTests, perform_eq]
  rcases (attempt c settings.testDir id w).outcome with p | ⟨case, execution⟩
  · rfl
  · simp

theorem stops_of_ok (r : Reporter ρ) (settings : Settings) (a : Attempt ω) (case : TestCase)
    (execution : Execution) (ho : a.outcome = .ok (case, execution)) :
    a.stops r.policy settings.failurePolicy =
      (!((r.startTest a.id).record a.id case.expected execution).1.passed &&
        decide (settings.failurePolicy = .failFast)) := by
  simp [Attempt.stops, Attempt.problem?, Attempt.failed, Attempt.verdict?, ho,
    Reporter.record, Reporter.startTest, Bool.and_comm]

/-- The policies decide how many attempts a run reaches and nothing else. -/
theorem runTests_eq_conclude (c : Collaborators ω) (settings : Settings) (ids : List String)
    (r : Reporter ρ) (w : ω) :
    runTests c settings ids r w =
      conclude c (reached (Attempt.stops r.policy settings.failurePolicy)
        (attempts c settings.testDir ids w)) r w := by
  induction ids generalizing r w with
  | nil => rfl
  | cons id ids ih =>
    rw [runTests_cons, attempts, reached_cons]
    have hid := attempt_id c settings.testDir id w
    generalize attempt c settings.testDir id w = a at hid ⊢
    subst hid
    rcases ho : a.outcome with p | ⟨case, execution⟩
    · simp [Attempt.stops, Attempt.problem?, conclude, ho]
    · have hs := stops_of_ok r settings a case execution ho
      dsimp only
      rw [← hs]
      by_cases h : a.stops r.policy settings.failurePolicy
      · simp [h, conclude, ho]
      · simp only [h, Bool.false_eq_true, if_false, conclude, ho]
        exact ih _ _

theorem runTests_traced (c : Collaborators ω) (settings : Settings) (ids : List String)
    (r : Reporter ρ) (w : ω) (log : List Call) :
    runTests (traced c) settings ids r (w, log) =
      { result := (runTests c settings ids r w).result
        state := (runTests c settings ids r w).state
        world := ((runTests c settings ids r w).world,
          log ++ (reached (Attempt.stops r.policy settings.failurePolicy)
            (attempts c settings.testDir ids w)).flatMap Attempt.calls) } := by
  induction ids generalizing r w log with
  | nil => simp [runTests, finish, traced, attempts, reached]
  | cons id ids ih =>
    rw [runTests_cons, runTests_cons, attempts, reached_cons, attempt_traced]
    have hid := attempt_id c settings.testDir id w
    generalize attempt c settings.testDir id w = a at hid ⊢
    subst hid
    rcases ho : a.outcome with p | ⟨case, execution⟩
    · simp [Attempt.stops, Attempt.problem?, ho]
    · have hs := stops_of_ok r settings a case execution ho
      dsimp only
      rw [← hs]
      by_cases h : a.stops r.policy settings.failurePolicy
      · simp [h, finish, traced]
      · simp only [h, Bool.false_eq_true, if_false, ih, List.flatMap_cons, List.append_assoc]
        rfl

end Proctor.Suite
