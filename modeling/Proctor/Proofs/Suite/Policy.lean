import Mathlib.Data.List.Infix
import Proctor.Program
import Proctor.Proofs.Suite.Specification

/-!
# What failing fast changes

Two runs from the same world differ in their failure policy alone. They make the same attempts, so
they differ only in how many of them they reach: a failed test before the first problem cuts one
run short, and then neither run goes well. The exit code is therefore the same.
-/

set_option autoImplicit false

namespace Proctor.Suite

variable {ω ρ : Type}

theorem stops_runToCompletion (policy : ExitPolicy) (a : Attempt ω) :
    a.stops policy .runToCompletion = a.problem?.isSome := by
  simp [Attempt.stops]

theorem stops_failFast (policy : ExitPolicy) (a : Attempt ω) :
    a.stops policy .failFast = (a.problem?.isSome || a.failed policy) := by
  simp [Attempt.stops]

theorem failed_elim {policy : ExitPolicy} {a : Attempt ω} (h : a.failed policy) :
    a.problem? = none ∧
      ∃ v m, a.verdict? policy = some v ∧ v.mismatch = some m := by
  rcases ho : a.outcome with p | ⟨case, execution⟩
  · simp [Attempt.failed, Attempt.verdict?, ho] at h
  · refine ⟨by simp [Attempt.problem?, ho], judge policy a.id case.expected execution, ?_⟩
    have hv : a.verdict? policy = some (judge policy a.id case.expected execution) := by
      simp [Attempt.verdict?, ho]
    simp only [Attempt.failed, hv, Option.any_some, Verdict.passed] at h
    rcases hm : (judge policy a.id case.expected execution).mismatch with _ | m
    · simp [hm] at h
    · exact ⟨m, hv, rfl⟩

def Sound (policy : ExitPolicy) (as : List (Attempt ω)) : Prop :=
  ∀ a ∈ as, a.problem? = none ∧ a.failed policy = false

theorem sound_verdicts (policy : ExitPolicy) (as : List (Attempt ω)) (h : Sound policy as) :
    (as.filterMap (Attempt.verdict? policy)).countP Verdict.passed = as.length ∧
      (as.filterMap (Attempt.verdict? policy)).filterMap Verdict.mismatch = [] := by
  induction as with
  | nil => exact ⟨rfl, rfl⟩
  | cons a as ih =>
    obtain ⟨hp, hf⟩ := h a (by simp)
    obtain ⟨hcount, hnone⟩ := ih fun b hb => h b (by simp [hb])
    rcases ho : a.outcome with p | ⟨case, execution⟩
    · simp [Attempt.problem?, ho] at hp
    · have hv : a.verdict? policy = some (judge policy a.id case.expected execution) := by
        simp [Attempt.verdict?, ho]
      have hm : (judge policy a.id case.expected execution).mismatch = none := by
        simpa [Attempt.failed, hv, Verdict.passed] using hf
      simp [hv, hm, hcount, hnone, Verdict.passed]

/-- Either no attempt before the first problem fails and both policies reach the same attempts, or
the first that fails is where failing fast ends and where the other run goes on. -/
theorem reached_policies (policy : ExitPolicy) (as : List (Attempt ω)) :
    ((∀ a ∈ as.take (as.findIdx fun a => a.problem?.isSome), a.failed policy = false) ∧
      reached (Attempt.stops policy .failFast) as =
        reached (Attempt.stops policy .runToCompletion) as) ∨
    ∃ good a rest, as = good ++ a :: rest ∧ Sound policy good ∧ a.failed policy = true ∧
      reached (Attempt.stops policy .failFast) as = good ++ [a] ∧
      reached (Attempt.stops policy .runToCompletion) as =
        good ++ a :: reached (Attempt.stops policy .runToCompletion) rest := by
  induction as with
  | nil => exact .inl ⟨by simp, rfl⟩
  | cons a as ih =>
    rw [reached_cons, reached_cons, stops_failFast, stops_runToCompletion]
    by_cases hp : a.problem?.isSome
    · exact .inl ⟨by simp [List.findIdx_cons, hp], by simp [hp]⟩
    · by_cases hf : a.failed policy
      · refine .inr ⟨[], a, as, rfl, by simp [Sound], hf, ?_, ?_⟩ <;> simp [hp, hf]
      · rcases ih with ⟨hnone, heq⟩ | ⟨good, b, rest, rfl, hgood, hb, hfast, hfull⟩
        · refine .inl ⟨?_, by simp [hp, hf, heq]⟩
          simp only [List.findIdx_cons, hp, cond_false, List.take_succ_cons, List.mem_cons,
            forall_eq_or_imp]
          exact ⟨by simpa using hf, hnone⟩
        · refine .inr ⟨a :: good, b, rest, rfl, ?_, hb, ?_, ?_⟩
          · intro x hx
            rcases List.mem_cons.mp hx with rfl | hx
            · exact ⟨by simpa using hp, by simpa using hf⟩
            · exact hgood x hx
          · simp [hp, hf, hfast]
          · simp [hp, hfull]

theorem findSome_sound (policy : ExitPolicy) (good as : List (Attempt ω))
    (h : Sound policy good) :
    (good ++ as).findSome? Attempt.problem? = as.findSome? Attempt.problem? := by
  have hnone : good.findSome? Attempt.problem? = none :=
    List.findSome?_eq_none_iff.mpr fun a ha => (h a ha).1
  rw [List.findSome?_append, hnone, Option.none_or]

theorem mismatches_of_first (policy : ExitPolicy) (good rest : List (Attempt ω)) (a : Attempt ω)
    (v : Verdict) (m : Mismatch) (hgood : Sound policy good) (hv : a.verdict? policy = some v)
    (hm : v.mismatch = some m) :
    ((good ++ a :: rest).filterMap (Attempt.verdict? policy)).filterMap Verdict.mismatch =
      m :: (rest.filterMap (Attempt.verdict? policy)).filterMap Verdict.mismatch := by
  rw [List.filterMap_append, List.filterMap_append, (sound_verdicts policy good hgood).2]
  simp [hv, hm]

theorem failFast_result (c : Collaborators ω) (settings : Settings) (ids : List String)
    (r : Reporter ρ) (w : ω) (good : List (Attempt ω)) (a : Attempt ω) (v : Verdict) (m : Mismatch)
    (hgood : Sound r.policy good) (hp : a.problem? = none) (hv : a.verdict? r.policy = some v)
    (hm : v.mismatch = some m)
    (htaken : reached (Attempt.stops r.policy settings.failurePolicy)
      (attempts c settings.testDir ids w) = good ++ [a]) :
    ∃ s, (runTests c settings ids r w).result = .ok s ∧ s.collected = r.tally.collected ∧
      s.passed = r.tally.passed + good.length ∧ s.failures = r.tally.failures ++ [m] := by
  have hresult := runTests_result c settings ids r w _ htaken
  simp only [findSome_sound r.policy good _ hgood, List.findSome?_cons, hp,
    List.findSome?_nil] at hresult
  refine ⟨_, hresult, ?_, ?_, ?_⟩ <;> rw [foldl_add]
  · rfl
  · rw [List.filterMap_append, List.countP_append]
    simp [Tally.close, (sound_verdicts r.policy good hgood).1, hv, Verdict.passed, hm]
  · rw [mismatches_of_first r.policy good [] a v m hgood hv hm]
    simp [Tally.close]

theorem runToCompletion_result (c : Collaborators ω) (settings : Settings) (ids : List String)
    (r : Reporter ρ) (w : ω) (good rest : List (Attempt ω)) (a : Attempt ω) (v : Verdict)
    (m : Mismatch) (hgood : Sound r.policy good) (hv : a.verdict? r.policy = some v)
    (hm : v.mismatch = some m)
    (htaken : reached (Attempt.stops r.policy settings.failurePolicy)
      (attempts c settings.testDir ids w) = good ++ a :: rest)
    (s : Summary) (hs : (runTests c settings ids r w).result = .ok s) :
    ∃ more, s.failures = r.tally.failures ++ m :: more := by
  have hresult := runTests_result c settings ids r w _ htaken
  rw [hs] at hresult
  rcases hf : (good ++ a :: rest).findSome? Attempt.problem? with _ | p
  · simp only [hf, Except.ok.injEq] at hresult
    rw [hresult, foldl_add, mismatches_of_first r.policy good rest a v m hgood hv hm]
    exact ⟨_, rfl⟩
  · simp [hf] at hresult

def exitCode : Except Problem Summary → Nat
  | .error _ => 1
  | .ok summary => if summary.failureReport = none then 0 else 1

theorem exitCode_of_failures (s : Summary) (h : s.failures ≠ []) : exitCode (.ok s) = 1 := by
  simp [exitCode, Summary.failureReport, h]

theorem findIdx_after (p : Attempt ω → Bool) (good as : List (Attempt ω))
    (h : ∀ b ∈ good, p b = false) :
    (good ++ as).findIdx p = good.length + as.findIdx p := by
  rw [List.findIdx_append, List.findIdx_eq_length_of_false h, if_neg (Nat.lt_irrefl _),
    Nat.add_comm]

theorem first_failed (policy : ExitPolicy) (good rest : List (Attempt ω)) (a : Attempt ω)
    (hgood : Sound policy good) (ha : a.failed policy = true) (hp : a.problem? = none) :
    (good ++ a :: rest).findIdx (Attempt.failed policy) = good.length ∧
      a ∈ (good ++ a :: rest).take
        ((good ++ a :: rest).findIdx fun b => b.problem?.isSome) := by
  constructor
  · rw [findIdx_after _ good _ fun b hb => (hgood b hb).2]
    simp [List.findIdx_cons, ha]
  · rw [findIdx_after _ good _ fun b hb => by simp [(hgood b hb).1]]
    simp [List.findIdx_cons, hp, List.take_length_add_append]

theorem reached_sooner (policy : ExitPolicy) (as : List (Attempt ω)) :
    reached (Attempt.stops policy .failFast) as <+:
      reached (Attempt.stops policy .runToCompletion) as := by
  rcases reached_policies policy as with ⟨_, heq⟩ | ⟨good, a, rest, rfl, _, _, hfast, hfull⟩
  · rw [heq]
  · rw [hfast, hfull]
    exact (List.prefix_append_right_inj good).mpr (List.prefix_append [a] _)

theorem exitCode_policies (c : Collaborators ω) (settings : Settings) (names : List String)
    (r : Reporter ρ) (w : ω) :
    exitCode (run c { settings with failurePolicy := .failFast } names r w).result =
      exitCode (run c { settings with failurePolicy := .runToCompletion } names r w).result := by
  rcases h : c.discover settings.testDir names w with ⟨p | ids, w₁⟩
  · simp only [run, h]
  · simp only [run, h]
    rcases reached_policies r.policy (attempts c settings.testDir ids w₁) with
      ⟨_, heq⟩ | ⟨good, a, rest, _, hgood, ha, hfast, hfull⟩
    · rw [runTests_eq_conclude, runTests_eq_conclude]
      exact congrArg (fun taken => exitCode (conclude c taken (r.begin ids) w₁).result) heq
    · obtain ⟨hp, v, m, hv, hm⟩ := failed_elim ha
      obtain ⟨s, hs, _, _, hfailures⟩ := failFast_result c
        { settings with failurePolicy := .failFast } ids (r.begin ids) w₁ good a v m
        hgood hp hv hm hfast
      rw [hs, exitCode_of_failures s (by simp [hfailures])]
      rcases ht : (runTests c { settings with failurePolicy := .runToCompletion } ids
        (r.begin ids) w₁).result with p | t
      · rfl
      · obtain ⟨more, hmore⟩ := runToCompletion_result c
          { settings with failurePolicy := .runToCompletion } ids (r.begin ids) w₁ good _ a v m
          hgood hv hm hfull t ht
        rw [exitCode_of_failures t (by simp [hmore])]

theorem program_exitCode (host : Host ω) (settings : Settings) (names : List String)
    (verbose : Bool) (w : ω) :
    (Program.run host settings names verbose w).exitCode =
      match Workspace.prepare host ⟨settings.toolchain, settings.toolLimit⟩ settings w with
      | (.error _, _) => 1
      | (.ok runtime, w) =>
        exitCode (run (Program.collaborators host ⟨settings.toolchain, settings.toolLimit⟩ settings
          runtime) settings names
          { listener := Console.listener verbose
            policy := settings.exitPolicy
            start := host.now w
            state := {} } w).result := by
  simp only [Program.run]
  rcases Workspace.prepare host ⟨settings.toolchain, settings.toolLimit⟩ settings w with
    ⟨p | runtime, w₁⟩
  · rfl
  · dsimp only
    generalize run (Program.collaborators host _ settings runtime) settings names _ w₁ = ending
    rcases ending.result with p | summary
    · rfl
    · rcases hreport : summary.failureReport with _ | report <;>
        simp [Program.Finish.exitCode, exitCode, hreport]

theorem program_exitCode_policies (host : Host ω) (settings : Settings) (names : List String)
    (verbose : Bool) (w : ω) :
    (Program.run host { settings with failurePolicy := .failFast } names verbose w).exitCode =
      (Program.run host { settings with failurePolicy := .runToCompletion } names verbose
        w).exitCode := by
  rw [program_exitCode, program_exitCode]
  have hready (failure : FailurePolicy) :
      Workspace.prepare host ⟨settings.toolchain, settings.toolLimit⟩
        { settings with failurePolicy := failure } w =
      Workspace.prepare host ⟨settings.toolchain, settings.toolLimit⟩ settings w := rfl
  simp only [hready]
  rcases Workspace.prepare host ⟨settings.toolchain, settings.toolLimit⟩ settings w with
    ⟨p | runtime, w₁⟩
  · rfl
  · exact exitCode_policies (Program.collaborators host _ settings runtime) settings names _ w₁

theorem calls_policies (c : Collaborators ω) (settings : Settings) (names : List String)
    (r : Reporter ρ) (w : ω) :
    calls c { settings with failurePolicy := .failFast } names r w <+:
      calls c { settings with failurePolicy := .runToCompletion } names r w := by
  rcases h : c.discover settings.testDir names w with ⟨p | ids, w₁⟩
  · rw [calls_of_lost c { settings with failurePolicy := .failFast } names r w w₁ p h,
      calls_of_lost c { settings with failurePolicy := .runToCompletion } names r w w₁ p h]
  · rw [calls_of_found c { settings with failurePolicy := .failFast } names r w w₁ ids h,
      calls_of_found c { settings with failurePolicy := .runToCompletion } names r w w₁ ids h]
    exact List.cons_prefix_cons.mpr
      ⟨rfl, (reached_sooner r.policy _).flatMap Attempt.calls⟩

/-- Failing fast makes an initial part of the calls. Unless a test fails before the first problem
it ends as the other run does. If the first such test is number `i`, it ends with the mismatch of
that test alone, which is also the first the other run reports if it ends with a summary. Either
way the program ends with the same exit code, which is zero only for a run with a summary that
reports no failure. -/
theorem failFast_keeps_exit_code (c : Collaborators ω) (settings : Settings) (names : List String)
    (listener : Listener ρ) (policy : ExitPolicy) (start : Nat) (state : ρ) (w : ω) :
    let r : Reporter ρ := { listener := listener, policy := policy, start := start, state := state }
    let hasty : Settings := { settings with failurePolicy := .failFast }
    let patient : Settings := { settings with failurePolicy := .runToCompletion }
    let fast := run c hasty names r w
    let full := run c patient names r w
    calls c hasty names r w <+: calls c patient names r w ∧
    (match c.discover settings.testDir names w with
      | (.error p, _) => fast.result = .error p ∧ full.result = .error p
      | (.ok ids, w) =>
        let all := attempts c settings.testDir ids w
        let e := all.findIdx fun a => a.problem?.isSome
        let i := all.findIdx (Attempt.failed policy)
        ((∀ a ∈ all.take e, a.failed policy = false) → fast.result = full.result) ∧
        ((∃ a ∈ all.take e, a.failed policy = true) → ∃ a v m s,
          all[i]? = some a ∧ a.verdict? policy = some v ∧ v.mismatch = some m ∧
          fast.result = .ok s ∧ s.failures = [m] ∧ s.passed = i ∧ s.collected = ids.length ∧
          ∀ t, full.result = .ok t → t.failures.head? = some m)) ∧
    exitCode fast.result = exitCode full.result ∧
    ∀ (host : Host ω) (verbose : Bool),
      (Program.run host hasty names verbose w).exitCode =
        (Program.run host patient names verbose w).exitCode ∧
      (Program.run host settings names verbose w).exitCode =
        match Workspace.prepare host ⟨settings.toolchain, settings.toolLimit⟩ settings w with
        | (.error _, _) => 1
        | (.ok runtime, w) =>
          match (run (Program.collaborators host ⟨settings.toolchain, settings.toolLimit⟩ settings
            runtime) settings names
            { listener := Console.listener verbose
              policy := settings.exitPolicy
              start := host.now w
              state := {} } w).result with
          | .error _ => 1
          | .ok summary => if summary.failureReport = none then 0 else 1 := by
  intro r hasty patient fast full
  refine ⟨calls_policies c settings names r w, ?_, exitCode_policies c settings names r w,
    fun host verbose => ⟨program_exitCode_policies host settings names verbose w,
      program_exitCode host settings names verbose w⟩⟩
  split
  · next p w₁ h =>
    rw [show fast = _ from run_of_lost c hasty names r w w₁ p h,
      show full = _ from run_of_lost c patient names r w w₁ p h]
    exact ⟨rfl, rfl⟩
  · next ids w₁ h =>
    intro all e i
    rw [show fast = _ from run_of_found c hasty names r w w₁ ids h,
      show full = _ from run_of_found c patient names r w w₁ ids h]
    rcases reached_policies policy all with
      ⟨hnone, heq⟩ | ⟨good, a, rest, hall, hgood, ha, hfast, hfull⟩
    · constructor
      · intro _
        rw [runTests_eq_conclude, runTests_eq_conclude]
        exact congrArg (fun taken => (conclude c taken (r.begin ids) w₁).result) heq
      · rintro ⟨a, ha, hfailed⟩
        simp [hnone a ha] at hfailed
    · obtain ⟨hp, v, m, hv, hm⟩ := failed_elim ha
      obtain ⟨hi, hbefore⟩ := first_failed policy good rest a hgood ha hp
      rw [← hall] at hi hbefore
      constructor
      · intro hnone
        simp [hnone a hbefore] at ha
      · intro _
        obtain ⟨s, hs, hcollected, hpassed, hfailures⟩ := failFast_result c hasty ids
          (r.begin ids) w₁ good a v m hgood hp hv hm hfast
        have hat : all[i]? = some a := by simp only [i]; rw [hi, hall]; simp
        have hcount : s.passed = i := by rw [hpassed, ← hi]; exact Nat.zero_add _
        refine ⟨a, v, m, s, hat, hv, hm, hs, hfailures, hcount, hcollected, ?_⟩
        intro t ht
        obtain ⟨more, hmore⟩ := runToCompletion_result c patient ids (r.begin ids) w₁ good _ a
          v m hgood hv hm hfull t ht
        rw [hmore]
        rfl

end Proctor.Suite
