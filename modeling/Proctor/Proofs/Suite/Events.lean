import Proctor.Proofs.Suite.Specification

/-!
# What a listener is told

A reporter is overheard through a copy of its listener that notes every event. Being overheard
changes neither the run nor what the listener makes of it. The events of a run follow from the
attempts it reaches: the tests found are announced, each attempt is told of when it starts and again
when there is a verdict on it, and the last word says how the run ended. A listener ends in the
state that these events bring it to, one after another.
-/

set_option autoImplicit false

namespace Proctor.Suite

variable {ω ρ σ : Type}

inductive Event where
  | collected (ids : List String)
  | started (id : String)
  | completed (verdict : Verdict)
  | finished (summary : Summary)
  | aborted
  deriving DecidableEq, Repr

def hear (l : Listener ρ) (s : ρ) : Event → ρ
  | .collected ids => l.collected ids s
  | .started id => l.started id s
  | .completed verdict => l.completed verdict s
  | .finished summary => l.finished summary s
  | .aborted => l.aborted s

def noted (l : Listener ρ) : Listener (ρ × List Event) where
  collected ids s := (l.collected ids s.1, s.2 ++ [.collected ids])
  started id s := (l.started id s.1, s.2 ++ [.started id])
  completed verdict s := (l.completed verdict s.1, s.2 ++ [.completed verdict])
  finished summary s := (l.finished summary s.1, s.2 ++ [.finished summary])
  aborted s := (l.aborted s.1, s.2 ++ [.aborted])

def overheard (r : Reporter ρ) : Reporter (ρ × List Event) where
  listener := noted r.listener
  policy := r.policy
  start := r.start
  tally := r.tally
  state := (r.state, [])

def events (c : Collaborators ω) (settings : Settings) (names : List String) (r : Reporter ρ)
    (w : ω) : List Event :=
  (run c settings names (overheard r) w).state.2

def Event.verdict? : Event → Option Verdict
  | .completed verdict => some verdict
  | _ => none

def verdicts (c : Collaborators ω) (settings : Settings) (names : List String) (r : Reporter ρ)
    (w : ω) : List Verdict :=
  (events c settings names r w).filterMap Event.verdict?

def Attempt.told (policy : ExitPolicy) (a : Attempt ω) : List Event :=
  .started a.id :: ((a.verdict? policy).map .completed).toList

def lastWord : Except Problem Summary → Event
  | .ok summary => .finished summary
  | .error _ => .aborted

def after (as : List (Attempt ω)) (w : ω) : ω :=
  (as.getLast?.map Attempt.world).getD w

theorem after_cons (a : Attempt ω) (as : List (Attempt ω)) (w : ω) :
    after (a :: as) w = after as a.world := by
  rcases as.eq_nil_or_concat with rfl | ⟨as, b, rfl⟩
  · rfl
  · simp [after, List.getLast?_cons]

theorem foldl_noted (l : Listener ρ) (es : List Event) (s : ρ) (log : List Event) :
    es.foldl (hear (noted l)) (s, log) = (es.foldl (hear l) s, log ++ es) := by
  induction es generalizing s log with
  | nil => simp
  | cons e es ih =>
    have hstep : hear (noted l) (s, log) e = (hear l s e, log ++ [e]) := by cases e <;> rfl
    rw [List.foldl_cons, hstep, ih]
    simp

theorem runTests_told (c : Collaborators ω) (settings : Settings) (ids : List String)
    (r : Reporter ρ) (w : ω) :
    let ending := runTests c settings ids r w
    let taken := reached (Attempt.stops r.policy settings.failurePolicy)
      (attempts c settings.testDir ids w)
    ending.world = after taken w ∧
    ending.state =
      (taken.flatMap (Attempt.told r.policy) ++ [lastWord ending.result]).foldl
        (hear r.listener) r.state := by
  induction ids generalizing r w with
  | nil => exact ⟨rfl, rfl⟩
  | cons id ids ih =>
    rw [runTests_cons, attempts, reached_cons]
    have hid := attempt_id c settings.testDir id w
    generalize attempt c settings.testDir id w = a at hid ⊢
    subst hid
    rcases ho : a.outcome with p | ⟨case, execution⟩
    · have hs : a.stops r.policy settings.failurePolicy := by
        simp [Attempt.stops, Attempt.problem?, ho]
      simp only [hs, if_true]
      refine ⟨rfl, ?_⟩
      simp [Attempt.told, Attempt.verdict?, ho, lastWord, hear, Reporter.abort, Reporter.startTest]
    · have hs := stops_of_ok r settings a case execution ho
      have ht : a.told r.policy =
          [.started a.id, .completed (judge r.policy a.id case.expected execution)] := by
        simp [Attempt.told, Attempt.verdict?, ho]
      dsimp only
      rw [← hs]
      by_cases h : a.stops r.policy settings.failurePolicy
      · simp only [h, if_true, List.flatMap_cons, List.flatMap_nil, List.append_nil, ht]
        exact ⟨rfl, rfl⟩
      · simp only [h, Bool.false_eq_true, if_false, List.flatMap_cons, after_cons, ht,
          List.cons_append, List.nil_append, List.foldl_cons]
        exact ih _ _

/-- What attempts come to when `t` is counted already: the first problem among them, or the summary
of the verdicts on them. -/
def settle (policy : ExitPolicy) (t : Tally) (duration : Duration) (as : List (Attempt ω)) :
    Except Problem Summary :=
  match as.findSome? Attempt.problem? with
  | some p => .error p
  | none => .ok (((as.filterMap (Attempt.verdict? policy)).foldl Tally.add t).close duration)

def untimed : Except Problem Summary → Except Problem Summary :=
  Except.map fun summary => { summary with duration := ⟨0, 0⟩ }

theorem untimed_settle (policy : ExitPolicy) (t : Tally) (duration : Duration)
    (as : List (Attempt ω)) :
    untimed (settle policy t duration as) = settle policy t ⟨0, 0⟩ as := by
  rw [settle, settle]
  rcases as.findSome? Attempt.problem? with _ | p <;> rfl

theorem eq_of_untimed {x y : Except Problem Summary} (h : untimed x = untimed y)
    (hduration : x.map Summary.duration = y.map Summary.duration) : x = y := by
  rcases x with p | s <;> rcases y with q | t
  · simpa [untimed, Except.map] using h
  · cases h
  · cases h
  · cases s
    cases t
    cases hduration
    cases h
    rfl

theorem runTests_settles (c : Collaborators ω) (settings : Settings) (ids : List String)
    (r : Reporter ρ) (w : ω) (taken : List (Attempt ω))
    (htaken : reached (Attempt.stops r.policy settings.failurePolicy)
      (attempts c settings.testDir ids w) = taken) :
    (runTests c settings ids r w).result =
      settle r.policy r.tally (.ofNanoseconds (c.now (after taken w) - r.start)) taken := by
  rw [runTests_result c settings ids r w taken htaken, (runTests_told c settings ids r w).1, htaken]
  rfl

theorem run_settles (c : Collaborators ω) (settings : Settings) (names : List String)
    (r : Reporter ρ) (w w₁ : ω) (ids : List String)
    (h : c.discover settings.testDir names w = (.ok ids, w₁)) (taken : List (Attempt ω))
    (htaken : reached (Attempt.stops r.policy settings.failurePolicy)
      (attempts c settings.testDir ids w₁) = taken) :
    (run c settings names r w).result =
      settle r.policy { r.tally with collected := ids.length }
        (.ofNanoseconds (c.now (after taken w₁) - r.start)) taken := by
  rw [run_of_found c settings names r w w₁ ids h]
  exact runTests_settles c settings ids (r.begin ids) w₁ taken htaken

theorem events_of_lost (c : Collaborators ω) (settings : Settings) (names : List String)
    (r : Reporter ρ) (w w₁ : ω) (p : Problem)
    (h : c.discover settings.testDir names w = (.error p, w₁)) :
    events c settings names r w = [] := by
  rw [events, run_of_lost _ _ _ _ _ _ _ h]
  rfl

theorem events_of_found (c : Collaborators ω) (settings : Settings) (names : List String)
    (r : Reporter ρ) (w w₁ : ω) (ids : List String)
    (h : c.discover settings.testDir names w = (.ok ids, w₁)) :
    events c settings names r w = .collected ids ::
      (reached (Attempt.stops r.policy settings.failurePolicy)
        (attempts c settings.testDir ids w₁)).flatMap (Attempt.told r.policy) ++
      [lastWord (run c settings names r w).result] := by
  have htold := (runTests_told c settings ids ((overheard r).begin ids) w₁).2
  rw [runTests_settles _ _ _ _ _ _ rfl] at htold
  rw [run_settles c settings names r w w₁ ids h _ rfl, events, run_of_found _ _ _ _ _ _ _ h, htold]
  exact congrArg Prod.snd (foldl_noted r.listener _ _ [.collected ids])

theorem told_verdicts (policy : ExitPolicy) (as : List (Attempt ω)) :
    (as.flatMap (Attempt.told policy)).filterMap Event.verdict? =
      as.filterMap (Attempt.verdict? policy) := by
  induction as with
  | nil => rfl
  | cons a as ih =>
    rw [List.flatMap_cons, List.filterMap_append, ih, Attempt.told]
    rcases hv : a.verdict? policy with _ | v
    · rw [List.filterMap_cons_none hv]
      rfl
    · rw [List.filterMap_cons_some hv]
      rfl

theorem verdicts_of_found (c : Collaborators ω) (settings : Settings) (names : List String)
    (r : Reporter ρ) (w w₁ : ω) (ids : List String)
    (h : c.discover settings.testDir names w = (.ok ids, w₁)) :
    verdicts c settings names r w =
      (reached (Attempt.stops r.policy settings.failurePolicy)
        (attempts c settings.testDir ids w₁)).filterMap (Attempt.verdict? r.policy) := by
  have hlast : Event.verdict? (lastWord (run c settings names r w).result) = none := by
    rcases (run c settings names r w).result with p | summary <;> rfl
  rw [verdicts, events_of_found c settings names r w w₁ ids h, List.filterMap_append,
    List.filterMap_cons_none rfl, told_verdicts]
  simp [hlast]

theorem run_state (c : Collaborators ω) (settings : Settings) (names : List String)
    (r : Reporter ρ) (w : ω) :
    (run c settings names r w).state =
      (events c settings names r w).foldl (hear r.listener) r.state := by
  rcases h : c.discover settings.testDir names w with ⟨p | ids, w₁⟩
  · rw [events_of_lost _ _ _ _ _ _ _ h, run_of_lost _ _ _ _ _ _ _ h]
    rfl
  · rw [events_of_found _ _ _ _ _ _ _ h, run_of_found _ _ _ _ _ _ _ h]
    exact (runTests_told c settings ids (r.begin ids) w₁).2

theorem run_overheard (c : Collaborators ω) (settings : Settings) (names : List String)
    (r : Reporter ρ) (w : ω) :
    (run c settings names (overheard r) w).result = (run c settings names r w).result ∧
    (run c settings names (overheard r) w).state.1 = (run c settings names r w).state ∧
    (run c settings names (overheard r) w).world = (run c settings names r w).world := by
  rcases h : c.discover settings.testDir names w with ⟨p | ids, w₁⟩
  · rw [run_of_lost _ _ _ _ _ _ _ h, run_of_lost _ _ _ _ _ _ _ h]
    exact ⟨rfl, rfl, rfl⟩
  · have hresult : (run c settings names (overheard r) w).result =
        (run c settings names r w).result := by
      rw [run_settles _ _ _ _ _ _ _ h _ rfl, run_settles _ _ _ _ _ _ _ h _ rfl]
      rfl
    refine ⟨hresult, ?_, ?_⟩
    · rw [run_state, run_state, events_of_found _ _ _ _ _ _ _ h, events_of_found _ _ _ _ _ _ _ h,
        hresult]
      exact congrArg Prod.fst (foldl_noted r.listener _ _ [])
    · rw [run_of_found _ _ _ _ _ _ _ h, run_of_found _ _ _ _ _ _ _ h,
        (runTests_told c settings ids ((overheard r).begin ids) w₁).1,
        (runTests_told c settings ids (r.begin ids) w₁).1]
      rfl

def course (verdicts : List Verdict) : List Event :=
  verdicts.flatMap fun v => [.started v.testId, .completed v]

theorem course_cons (v : Verdict) (vs : List Verdict) :
    course (v :: vs) = .started v.testId :: .completed v :: course vs := rfl

theorem verdict_of_judged {a : Attempt ω} (policy : ExitPolicy) (h : a.problem? = none) :
    ∃ v, a.verdict? policy = some v ∧ v.testId = a.id := by
  rcases ho : a.outcome with p | ⟨case, execution⟩
  · simp [Attempt.problem?, ho] at h
  · exact ⟨judge policy a.id case.expected execution, by simp [Attempt.verdict?, ho], rfl⟩

theorem verdict_of_problem {a : Attempt ω} (policy : ExitPolicy) {p : Problem}
    (h : a.problem? = some p) : a.verdict? policy = none := by
  simp [Attempt.verdict?, problem_eq_some.mp h]

theorem told_of_judged (policy : ExitPolicy) (as : List (Attempt ω))
    (h : as.findSome? Attempt.problem? = none) :
    as.flatMap (Attempt.told policy) = course (as.filterMap (Attempt.verdict? policy)) ∧
    (as.filterMap (Attempt.verdict? policy)).map Verdict.testId = as.map Attempt.id := by
  induction as with
  | nil => exact ⟨rfl, rfl⟩
  | cons a as ih =>
    rw [List.findSome?_eq_none_iff] at h ih
    obtain ⟨v, hv, hid⟩ := verdict_of_judged policy (h a (by simp))
    obtain ⟨htold, hids⟩ := ih fun b hb => h b (by simp [hb])
    constructor
    · simp [htold, Attempt.told, hv, hid, course]
    · simp [hids, hv, hid]

theorem reached_ends (policy : ExitPolicy) (failure : FailurePolicy) (as : List (Attempt ω)) :
    let taken := reached (Attempt.stops policy failure) as
    taken.findSome? Attempt.problem? = none ∨
    ∃ judged a p, taken = judged ++ [a] ∧ judged.findSome? Attempt.problem? = none ∧
      a.problem? = some p := by
  induction as with
  | nil => exact .inl rfl
  | cons a as ih =>
    rw [reached_cons]
    rcases hp : a.problem? with _ | p
    · by_cases hs : a.stops policy failure
      · exact .inl (by simp [hs, hp])
      · simp only [hs, Bool.false_eq_true, if_false]
        rcases ih with hnone | ⟨judged, b, q, htaken, hjudged, hq⟩
        · exact .inl (by simp [hp, hnone])
        · exact .inr ⟨a :: judged, b, q, by simp [htaken], by simp [hp, hjudged], hq⟩
    · exact .inr ⟨[], a, p, by simp [problem_stops policy failure a (by simp [hp])], rfl, hp⟩

/-- A run that reached too few tests without a problem has stopped at a failed one. -/
theorem failFast_of_short (policy : ExitPolicy) (failure : FailurePolicy) (as : List (Attempt ω))
    (hnone : (reached (Attempt.stops policy failure) as).findSome? Attempt.problem? = none)
    (hshort : (reached (Attempt.stops policy failure) as).length < as.length) :
    failure = .failFast ∧
      ∃ a, (reached (Attempt.stops policy failure) as).getLast? = some a ∧ a.failed policy := by
  induction as with
  | nil => simp at hshort
  | cons a as ih =>
    rw [reached_cons] at hnone hshort ⊢
    by_cases hs : a.stops policy failure
    · simp only [hs, if_true, List.findSome?_singleton] at hnone
      have hfailed : failure = .failFast ∧ a.failed policy := by
        simpa [Attempt.stops, hnone] using hs
      exact ⟨hfailed.1, a, by simp [hs], hfailed.2⟩
    · simp only [hs, Bool.false_eq_true, if_false, List.findSome?_cons] at hnone
      have hp : a.problem? = none := by
        rcases h : a.problem? with _ | p
        · rfl
        · simp [h] at hnone
      rw [hp] at hnone
      simp only [hs, Bool.false_eq_true, if_false, List.length_cons, Nat.add_lt_add_iff_right]
        at hshort
      obtain ⟨hfast, b, hlast, hfailed⟩ := ih hnone hshort
      refine ⟨hfast, b, ?_, hfailed⟩
      simp [hs, List.getLast?_cons, hlast]

theorem reached_ids (c : Collaborators ω) (dir : Path) (ids : List String) (w : ω)
    (stop : Attempt ω → Bool) :
    (reached stop (attempts c dir ids w)).map Attempt.id <+: ids := by
  have h := (List.take_prefix ((attempts c dir ids w).findIdx stop + 1)
    (attempts c dir ids w)).map Attempt.id
  rwa [attempts_id] at h

/-- Once tests are found, the listener hears of them, then of every test judged, and at the end
either the summary or the start of the test that met a problem. -/
theorem events_by_verdicts (c : Collaborators ω) (settings : Settings) (names : List String)
    (r : Reporter ρ) (w w₁ : ω) (ids : List String)
    (h : c.discover settings.testDir names w = (.ok ids, w₁)) :
    let verdicts := (reached (Attempt.stops r.policy settings.failurePolicy)
      (attempts c settings.testDir ids w₁)).filterMap (Attempt.verdict? r.policy)
    match (run c settings names r w).result with
    | .ok summary =>
      verdicts.map Verdict.testId <+: ids ∧
      events c settings names r w = .collected ids :: course verdicts ++ [.finished summary]
    | .error _ =>
      ∃ id, verdicts.map Verdict.testId ++ [id] <+: ids ∧
        events c settings names r w =
          .collected ids :: course verdicts ++ [.started id, .aborted] := by
  intro verdicts
  have hevents := events_of_found c settings names r w w₁ ids h
  have hresult := run_settles c settings names r w w₁ ids h _ rfl
  have hids := reached_ids c settings.testDir ids w₁
    (Attempt.stops r.policy settings.failurePolicy)
  rcases reached_ends r.policy settings.failurePolicy (attempts c settings.testDir ids w₁) with
    hnone | ⟨judged, a, p, htaken, hjudged, hp⟩
  · obtain ⟨htold, htests⟩ := told_of_judged r.policy _ hnone
    rw [settle, hnone] at hresult
    rw [hresult, htold] at hevents
    rw [hresult]
    exact ⟨by rwa [htests], hevents⟩
  · obtain ⟨htold, htests⟩ := told_of_judged r.policy judged hjudged
    have hv := verdict_of_problem r.policy hp
    have hverdicts : verdicts = judged.filterMap (Attempt.verdict? r.policy) := by
      simp [verdicts, htaken, hv]
    have hfirst : (judged ++ [a]).findSome? Attempt.problem? = some p := by
      simp [List.findSome?_append, hjudged, hp]
    rw [htaken, settle, hfirst] at hresult
    rw [htaken] at hids
    rw [hresult, htaken] at hevents
    rw [hresult]
    refine ⟨a.id, ?_, ?_⟩
    · rwa [hverdicts, htests, ← List.map_singleton, ← List.map_append]
    · rw [hevents, hverdicts, List.flatMap_append, htold]
      simp [Attempt.told, hv, lastWord]

theorem judged_first (c : Collaborators ω) (settings : Settings) (names : List String)
    (r : Reporter ρ) (w w₁ : ω) (ids : List String)
    (h : c.discover settings.testDir names w = (.ok ids, w₁)) :
    ((reached (Attempt.stops r.policy settings.failurePolicy)
      (attempts c settings.testDir ids w₁)).filterMap (Attempt.verdict? r.policy)).map
        Verdict.testId <+: ids := by
  have hevents := events_by_verdicts c settings names r w w₁ ids h
  split at hevents
  · exact hevents.1
  · obtain ⟨id, hids, -⟩ := hevents
    exact (List.prefix_append _ _).trans hids

theorem attempts_clock (c : Collaborators ω) (clock : ω → Nat) (dir : Path) (ids : List String)
    (w : ω) : attempts { c with now := clock } dir ids w = attempts c dir ids w := by
  induction ids generalizing w with
  | nil => rfl
  | cons id ids ih =>
    rw [attempts, attempts, ih]
    rfl

/-- The clock and the listener have no part in what is called for, judged and counted. -/
theorem run_presentation (c : Collaborators ω) (clock : ω → Nat) (settings : Settings)
    (names : List String) (r : Reporter ρ) (r' : Reporter σ) (w : ω)
    (hpolicy : r.policy = r'.policy) (htally : r.tally = r'.tally) :
    calls c settings names r w = calls { c with now := clock } settings names r' w ∧
    verdicts c settings names r w = verdicts { c with now := clock } settings names r' w ∧
    untimed (run c settings names r w).result =
      untimed (run { c with now := clock } settings names r' w).result := by
  rcases h : c.discover settings.testDir names w with ⟨p | ids, w₁⟩
  · have h' : ({ c with now := clock } : Collaborators ω).discover settings.testDir names w =
        (.error p, w₁) := h
    rw [calls_of_lost _ _ _ _ _ _ _ h, calls_of_lost _ _ _ _ _ _ _ h', verdicts, verdicts,
      events_of_lost _ _ _ _ _ _ _ h, events_of_lost _ _ _ _ _ _ _ h',
      run_of_lost _ _ _ _ _ _ _ h, run_of_lost _ _ _ _ _ _ _ h']
    exact ⟨rfl, rfl, rfl⟩
  · have h' : ({ c with now := clock } : Collaborators ω).discover settings.testDir names w =
        (.ok ids, w₁) := h
    refine ⟨?_, ?_, ?_⟩
    · rw [calls_of_found _ _ _ _ _ _ _ h, calls_of_found _ _ _ _ _ _ _ h', hpolicy,
        attempts_clock c clock]
    · rw [verdicts_of_found _ _ _ _ _ _ _ h, verdicts_of_found _ _ _ _ _ _ _ h', hpolicy,
        attempts_clock c clock]
    · rw [run_settles _ _ _ _ _ _ _ h _ rfl, run_settles _ _ _ _ _ _ _ h' _ rfl,
        untimed_settle, untimed_settle, hpolicy, htally, attempts_clock c clock]

theorem events_presentation (c : Collaborators ω) (clock : ω → Nat) (settings : Settings)
    (names : List String) (r : Reporter ρ) (r' : Reporter σ) (w : ω)
    (hpolicy : r.policy = r'.policy)
    (hresult : (run c settings names r w).result =
      (run { c with now := clock } settings names r' w).result) :
    events c settings names r w = events { c with now := clock } settings names r' w := by
  rcases h : c.discover settings.testDir names w with ⟨p | ids, w₁⟩
  · have h' : ({ c with now := clock } : Collaborators ω).discover settings.testDir names w =
        (.error p, w₁) := h
    rw [events_of_lost _ _ _ _ _ _ _ h, events_of_lost _ _ _ _ _ _ _ h']
  · have h' : ({ c with now := clock } : Collaborators ω).discover settings.testDir names w =
        (.ok ids, w₁) := h
    rw [events_of_found _ _ _ _ _ _ _ h, events_of_found _ _ _ _ _ _ _ h', hresult, hpolicy,
      attempts_clock c clock]

end Proctor.Suite
