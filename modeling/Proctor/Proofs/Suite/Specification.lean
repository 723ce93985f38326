import Proctor.Proofs.Suite.Attempts

/-!
# The whole run

A run makes one call to find the tests and then the calls of the attempts it reaches. Its result is
the problem of the attempt it stopped at, or else the summary of the verdicts on all it reached.
-/

set_option autoImplicit false

namespace Proctor.Suite

variable {ω ρ : Type}

theorem foldl_add (verdicts : List Verdict) (t : Tally) :
    verdicts.foldl Tally.add t =
      { collected := t.collected
        passed := t.passed + verdicts.countP Verdict.passed
        failures := t.failures ++ verdicts.filterMap Verdict.mismatch } := by
  induction verdicts generalizing t with
  | nil => simp
  | cons v vs ih =>
    rw [List.foldl_cons, ih]
    rcases hm : v.mismatch with _ | m
    · simp [Tally.add, Verdict.passed, hm]
      omega
    · simp [Tally.add, Verdict.passed, hm]

/-- Along attempts the first problem is the result; without one, every verdict is counted. -/
theorem conclude_result (c : Collaborators ω) (as : List (Attempt ω)) (r : Reporter ρ) (w : ω) :
    (conclude c as r w).result =
      match as.findSome? Attempt.problem? with
      | some p => .error p
      | none => .ok (((as.filterMap (Attempt.verdict? r.policy)).foldl Tally.add r.tally).close
          (.ofNanoseconds (c.now (conclude c as r w).world - r.start))) := by
  induction as generalizing r w with
  | nil => rfl
  | cons a as ih =>
    rcases ho : a.outcome with p | ⟨case, execution⟩
    · simp [conclude, Attempt.problem?, ho]
    · have hv : a.verdict? r.policy = some (judge r.policy a.id case.expected execution) := by
        simp [Attempt.verdict?, ho]
      have hp : a.problem? = none := by simp [Attempt.problem?, ho]
      simp only [conclude, ho, ih, List.findSome?_cons, hp, List.filterMap_cons, hv,
        List.foldl_cons]
      rfl

theorem findSome_reached (stop : Attempt ω → Bool)
    (hstop : ∀ a : Attempt ω, a.problem?.isSome → stop a) (as : List (Attempt ω)) :
    (reached stop as).findSome? Attempt.problem? =
      as[as.findIdx stop]?.bind Attempt.problem? := by
  induction as with
  | nil => rfl
  | cons a as ih =>
    rw [reached_cons]
    by_cases h : stop a
    · simp [h, List.findIdx_cons]
    · have hp : a.problem? = none := by
        rw [← Option.not_isSome_iff_eq_none]
        exact fun hs => h (hstop a hs)
      simp [h, List.findIdx_cons, hp, ih]

theorem problem_stops (policy : ExitPolicy) (failure : FailurePolicy) (a : Attempt ω)
    (h : a.problem?.isSome) : a.stops policy failure := by
  simp [Attempt.stops, h]

theorem problem_eq_some {a : Attempt ω} {p : Problem} :
    a.problem? = some p ↔ a.outcome = .error p := by
  rcases ho : a.outcome with q | done <;> simp [Attempt.problem?, ho]

theorem map_verdict (policy : ExitPolicy) (as : List (Attempt ω))
    (h : as.findSome? Attempt.problem? = none) :
    as.map (Attempt.verdict? policy) = (as.filterMap (Attempt.verdict? policy)).map some := by
  induction as with
  | nil => rfl
  | cons a as ih =>
    rw [List.findSome?_eq_none_iff] at h ih
    have ha := h a (by simp)
    rcases ho : a.outcome with p | ⟨case, execution⟩
    · simp [Attempt.problem?, ho] at ha
    · have hv : a.verdict? policy = some (judge policy a.id case.expected execution) := by
        simp [Attempt.verdict?, ho]
      simp [hv, ih fun b hb => h b (by simp [hb])]

theorem attempts_id (c : Collaborators ω) (dir : Path) (ids : List String) (w : ω) :
    (attempts c dir ids w).map Attempt.id = ids := by
  induction ids generalizing w with
  | nil => rfl
  | cons id ids ih => rw [attempts, List.map_cons, ih, attempt_id]

theorem runTests_result (c : Collaborators ω) (settings : Settings) (ids : List String)
    (r : Reporter ρ) (w : ω) (taken : List (Attempt ω))
    (htaken : reached (Attempt.stops r.policy settings.failurePolicy)
      (attempts c settings.testDir ids w) = taken) :
    (runTests c settings ids r w).result =
      match taken.findSome? Attempt.problem? with
      | some p => .error p
      | none => .ok (((taken.filterMap (Attempt.verdict? r.policy)).foldl Tally.add r.tally).close
          (.ofNanoseconds (c.now (runTests c settings ids r w).world - r.start))) := by
  rw [runTests_eq_conclude, htaken, conclude_result]

theorem run_of_lost (c : Collaborators ω) (settings : Settings) (names : List String)
    (r : Reporter ρ) (w w₁ : ω) (p : Problem)
    (h : c.discover settings.testDir names w = (.error p, w₁)) :
    run c settings names r w = ⟨.error p, r.state, w₁⟩ := by
  simp [run, h]

theorem run_of_found (c : Collaborators ω) (settings : Settings) (names : List String)
    (r : Reporter ρ) (w w₁ : ω) (ids : List String)
    (h : c.discover settings.testDir names w = (.ok ids, w₁)) :
    run c settings names r w = runTests c settings ids (r.begin ids) w₁ := by
  simp [run, h]

theorem run_traced (c : Collaborators ω) (settings : Settings) (names : List String)
    (r : Reporter ρ) (w : ω) :
    (run (traced c) settings names r (w, [])).result = (run c settings names r w).result ∧
    (run (traced c) settings names r (w, [])).state = (run c settings names r w).state ∧
    (run (traced c) settings names r (w, [])).world.1 = (run c settings names r w).world := by
  rcases h : c.discover settings.testDir names w with ⟨p | ids, w₁⟩
  · have ht : (traced c).discover settings.testDir names (w, []) =
        (.error p, w₁, [.discover settings.testDir names]) := by
      simp [traced, noting, h]
    rw [run_of_lost _ _ _ _ _ _ _ h, run_of_lost _ _ _ _ _ _ _ ht]
    exact ⟨rfl, rfl, rfl⟩
  · have ht : (traced c).discover settings.testDir names (w, []) =
        (.ok ids, w₁, [.discover settings.testDir names]) := by
      simp [traced, noting, h]
    rw [run_of_found _ _ _ _ _ _ _ h, run_of_found _ _ _ _ _ _ _ ht, runTests_traced]
    exact ⟨rfl, rfl, rfl⟩

def calls (c : Collaborators ω) (settings : Settings) (names : List String) (r : Reporter ρ)
    (w : ω) : List Call :=
  (run (traced c) settings names r (w, [])).world.2

theorem calls_of_lost (c : Collaborators ω) (settings : Settings) (names : List String)
    (r : Reporter ρ) (w w₁ : ω) (p : Problem)
    (h : c.discover settings.testDir names w = (.error p, w₁)) :
    calls c settings names r w = [.discover settings.testDir names] := by
  simp [calls, run, traced, noting, h]

theorem calls_of_found (c : Collaborators ω) (settings : Settings) (names : List String)
    (r : Reporter ρ) (w w₁ : ω) (ids : List String)
    (h : c.discover settings.testDir names w = (.ok ids, w₁)) :
    calls c settings names r w = .discover settings.testDir names ::
      (reached (Attempt.stops r.policy settings.failurePolicy)
        (attempts c settings.testDir ids w₁)).flatMap Attempt.calls := by
  have ht : (traced c).discover settings.testDir names (w, []) =
      (.ok ids, w₁, [.discover settings.testDir names]) := by
    simp [traced, noting, h]
  rw [calls, run_of_found _ _ _ _ _ _ _ ht, runTests_traced]
  rfl

/-- A run calls for the tests once. It then takes the tests found in their order, each with its
calls up to the first problem, and the last test it takes is the first to stop it. The result is
the problem met there, or the summary of one verdict for each test taken. -/
theorem run_follows_attempts (c : Collaborators ω) (settings : Settings) (names : List String)
    (r : Reporter ρ) (w : ω) :
    let ending := run c settings names r w
    let watched := run (traced c) settings names r (w, [])
    (watched.result = ending.result ∧ watched.state = ending.state ∧
      watched.world.1 = ending.world) ∧
    match c.discover settings.testDir names w with
    | (.error p, _) =>
      watched.world.2 = [.discover settings.testDir names] ∧ ending.result = .error p
    | (.ok ids, w) =>
      let all := attempts c settings.testDir ids w
      let k := all.findIdx (Attempt.stops r.policy settings.failurePolicy)
      all.map Attempt.id = ids ∧
      watched.world.2 =
        .discover settings.testDir names :: (all.take (k + 1)).flatMap Attempt.calls ∧
      (∀ p, ending.result = .error p ↔ ∃ a, all[k]? = some a ∧ a.outcome = .error p) ∧
      ((∀ p, ending.result ≠ .error p) → ∃ verdicts : List Verdict,
        (all.take (k + 1)).map (Attempt.verdict? r.policy) = verdicts.map some ∧
        ending.result = .ok
          { collected := ids.length
            passed := r.tally.passed + verdicts.countP Verdict.passed
            failed := (r.tally.failures ++ verdicts.filterMap Verdict.mismatch).length
            duration := .ofNanoseconds (c.now ending.world - r.start)
            failures := r.tally.failures ++ verdicts.filterMap Verdict.mismatch }) := by
  intro ending watched
  refine ⟨run_traced c settings names r w, ?_⟩
  split
  · next p w₁ h =>
    refine ⟨calls_of_lost c settings names r w w₁ p h, ?_⟩
    rw [show ending = _ from run_of_lost c settings names r w w₁ p h]
  · next ids w₁ h =>
    intro all k
    have hrun : ending = runTests c settings ids (r.begin ids) w₁ :=
      run_of_found c settings names r w w₁ ids h
    have hresult := runTests_result c settings ids (r.begin ids) w₁ _ rfl
    rw [← hrun, findSome_reached _ (problem_stops _ _)] at hresult
    change ending.result = match all[k]?.bind Attempt.problem? with
      | some p => .error p
      | none => _ at hresult
    refine ⟨attempts_id _ _ _ _, calls_of_found c settings names r w w₁ ids h, ?_, ?_⟩
    · intro p
      have hp : (∃ a, all[k]? = some a ∧ a.outcome = .error p) ↔
          all[k]?.bind Attempt.problem? = some p := by
        simp [Option.bind_eq_some_iff, problem_eq_some]
      rw [hp, hresult]
      rcases all[k]?.bind Attempt.problem? with _ | q <;> simp
    · intro hok
      rcases hp : all[k]?.bind Attempt.problem? with _ | q
      · refine ⟨_, map_verdict r.policy _ ?_, ?_⟩
        · exact (findSome_reached _ (problem_stops _ _) all).trans hp
        · rw [hresult, hp, foldl_add]
          rfl
      · exact absurd (by rw [hresult, hp]) (hok q)

end Proctor.Suite
