import Proctor.Proofs.Suite.Events
import Proctor.Proofs.Suite.Policy
import Proctor.Selection

/-!
# Runs of selected tests

The collaborators here answer about a test in the same way whatever was done before, though each
answer may still change the world and take time. Then what a run makes of a test depends on that
test alone, and a run of selected tests depends on the selected tests alone: it is the run of all
tests with the others left out.
-/

set_option autoImplicit false

namespace Proctor.Suite

variable {ω ω' ρ : Type}

structure Answers where
  load : String → Except Problem TestCase
  build : TestCase → Except Problem Path
  execute : Path → Except Problem Execution

namespace Answers

/-- Collaborators that find the tests `ids`, keep those named, and give these answers in every
world. -/
structure GivenBy (t : Answers) (c : Collaborators ω) (dir : Path) (ids : List String) : Prop where
  discover : ∀ names w, (c.discover dir names w).1 = .ok (selectTests ids names)
  load : ∀ id w, (c.load dir id w).1 = t.load id
  build : ∀ case w, (c.build case w).1 = t.build case
  execute : ∀ executable w, (c.execute executable w).1 = t.execute executable

/-- The same answers about one test, as far as a run asks for them. -/
def AgreeOn (t u : Answers) (id : String) : Prop :=
  t.load id = u.load id ∧ ∀ case, t.load id = .ok case →
    t.build case = u.build case ∧ ∀ executable, t.build case = .ok executable →
      t.execute executable = u.execute executable

def Concerns (t : Answers) (dir : Path) (id : String) : Call → Prop
  | .discover _ _ => False
  | .load d i => d = dir ∧ i = id
  | .build case => t.load id = .ok case
  | .execute executable => ∃ case, t.load id = .ok case ∧ t.build case = .ok executable

def counted (t : Answers) (ids : List String) : Collaborators Nat where
  discover _ names w := (.ok (selectTests ids names), w + 1)
  load _ id w := (t.load id, w + 1)
  build case w := (t.build case, w + 1)
  execute executable w := (t.execute executable, w + 1)
  now w := w

theorem givenBy_counted (t : Answers) (dir : Path) (ids : List String) :
    t.GivenBy (t.counted ids) dir ids :=
  ⟨fun _ _ => rfl, fun _ _ => rfl, fun _ _ => rfl, fun _ _ => rfl⟩

end Answers

def Attempt.bare (a : Attempt ω) : Attempt Unit :=
  ⟨a.id, a.calls, a.outcome, ()⟩

theorem reached_bare (policy : ExitPolicy) (failure : FailurePolicy) (as : List (Attempt ω)) :
    (reached (Attempt.stops policy failure) as).map Attempt.bare =
      reached (Attempt.stops policy failure) (as.map Attempt.bare) := by
  rw [reached, reached, List.map_take, List.findIdx_map]
  rfl

theorem settle_bare (policy : ExitPolicy) (t : Tally) (duration : Duration)
    (as : List (Attempt ω)) :
    settle policy t duration (as.map Attempt.bare) = settle policy t duration as := by
  rw [settle, settle, List.findSome?_map, List.filterMap_map]
  rfl

/-- Whoever gives them and in whatever world, the same answers about a test make the same attempt. -/
theorem attempt_bare_eq {c : Collaborators ω} {c' : Collaborators ω'} {t t' : Answers} {dir : Path}
    {ids ids' : List String} {id : String} (h : t.GivenBy c dir ids) (h' : t'.GivenBy c' dir ids')
    (hagree : t.AgreeOn t' id) (w : ω) (w' : ω') :
    (attempt c dir id w).bare = (attempt c' dir id w').bare := by
  -- The worlds drift apart from call to call, so each answer is compared before the next call.
  obtain ⟨hload, hrest⟩ := hagree
  rw [← h.load id w, ← h'.load id w'] at hload
  have hloaded := h.load id w
  rw [attempt, attempt]
  generalize c.load dir id w = loading, c'.load dir id w' = loading' at hload hloaded ⊢
  obtain ⟨⟨loaded, w₁⟩, _, w₁'⟩ := loading, loading'
  cases hload
  rcases loaded with p | case
  · rfl
  obtain ⟨hbuild, hrest⟩ := hrest case hloaded.symm
  rw [← h.build case w₁, ← h'.build case w₁'] at hbuild
  have hbuilt := h.build case w₁
  dsimp only
  generalize c.build case w₁ = building, c'.build case w₁' = building' at hbuild hbuilt ⊢
  obtain ⟨⟨built, w₂⟩, _, w₂'⟩ := building, building'
  cases hbuild
  rcases built with p | executable
  · rfl
  have hexecute := hrest executable hbuilt.symm
  rw [← h.execute executable w₂, ← h'.execute executable w₂'] at hexecute
  dsimp only
  generalize c.execute executable w₂ = running, c'.execute executable w₂' = running' at hexecute ⊢
  obtain ⟨⟨executed, w₃⟩, _, w₃'⟩ := running, running'
  cases hexecute
  rcases executed with p | execution <;> rfl

namespace Answers

def attempt (t : Answers) (dir : Path) (id : String) : Attempt Unit :=
  (Suite.attempt (t.counted []) dir id 0).bare

theorem attempt_agree {t u : Answers} {id : String} (dir : Path) (h : t.AgreeOn u id) :
    t.attempt dir id = u.attempt dir id :=
  attempt_bare_eq (t.givenBy_counted dir []) (u.givenBy_counted dir []) h 0 0

theorem attempt_concerns (t : Answers) (dir : Path) (id : String) :
    ∀ call ∈ (t.attempt dir id).calls, t.Concerns dir id call := by
  simp only [attempt, Attempt.bare, Suite.attempt, counted]
  rcases hl : t.load id with p | case
  · simp [Concerns]
  · dsimp only
    rcases hb : t.build case with p | executable
    · simp [Concerns, hl]
    · dsimp only
      rcases t.execute executable with p | execution <;> simp [Concerns, hl, hb]

end Answers

theorem attempt_bare {t : Answers} {c : Collaborators ω} {dir : Path} {ids : List String}
    (h : t.GivenBy c dir ids) (id : String) (w : ω) :
    (attempt c dir id w).bare = t.attempt dir id :=
  attempt_bare_eq h (t.givenBy_counted dir []) ⟨rfl, fun _ _ => ⟨rfl, fun _ _ => rfl⟩⟩ w 0

theorem attempts_bare {t : Answers} {c : Collaborators ω} {dir : Path} {ids : List String}
    (h : t.GivenBy c dir ids) (chosen : List String) (w : ω) :
    (attempts c dir chosen w).map Attempt.bare = chosen.map (t.attempt dir) := by
  induction chosen generalizing w with
  | nil => rfl
  | cons id chosen ih => rw [attempts, List.map_cons, List.map_cons, attempt_bare h, ih]

theorem run_given {t : Answers} {c : Collaborators ω} {settings : Settings} {ids : List String}
    (h : t.GivenBy c settings.testDir ids) (names : List String) (r : Reporter ρ) (w : ω)
    (taken : List (Attempt Unit))
    (htaken : reached (Attempt.stops r.policy settings.failurePolicy)
      ((selectTests ids names).map (t.attempt settings.testDir)) = taken) :
    calls c settings names r w =
      .discover settings.testDir names :: taken.flatMap Attempt.calls ∧
    verdicts c settings names r w = taken.filterMap (Attempt.verdict? r.policy) ∧
    untimed (run c settings names r w).result =
      settle r.policy { r.tally with collected := (selectTests ids names).length } ⟨0, 0⟩
        taken := by
  have hfound : c.discover settings.testDir names w =
      (.ok (selectTests ids names), (c.discover settings.testDir names w).2) :=
    Prod.ext (h.discover names w) rfl
  have hbare := reached_bare r.policy settings.failurePolicy
    (attempts c settings.testDir (selectTests ids names) (c.discover settings.testDir names w).2)
  rw [attempts_bare h, htaken] at hbare
  refine ⟨?_, ?_, ?_⟩
  · rw [calls_of_found _ _ _ _ _ _ _ hfound, ← hbare, List.flatMap_map]
    rfl
  · rw [verdicts_of_found _ _ _ _ _ _ _ hfound, ← hbare, List.filterMap_map]
    rfl
  · rw [run_settles _ _ _ _ _ _ _ hfound _ rfl, untimed_settle, ← hbare, settle_bare]

theorem filterMap_filter_of_kept {α β : Type} {f : α → Option β} {p : α → Bool} {q : β → Bool}
    (h : ∀ a b, f a = some b → q b = p a) (l : List α) :
    (l.filter p).filterMap f = (l.filterMap f).filter q := by
  rw [List.filterMap_filter, List.filter_filterMap]
  congr 1
  funext a
  rcases hf : f a with _ | b
  · simp
  · simp [Option.filter, h a b hf]

theorem verdict_testId {policy : ExitPolicy} {a : Attempt ω} {v : Verdict}
    (h : a.verdict? policy = some v) : v.testId = a.id := by
  rcases ho : a.outcome with p | ⟨case, execution⟩
  · simp [Attempt.verdict?, ho] at h
  · simp only [Attempt.verdict?, ho, Option.some.injEq] at h
    rw [← h]
    rfl

theorem mismatch_testId {policy : ExitPolicy} {a : Attempt ω} {m : Mismatch}
    (h : (a.verdict? policy).bind Verdict.mismatch = some m) : m.testId = a.id := by
  rcases ho : a.outcome with p | ⟨case, execution⟩
  · simp [Attempt.verdict?, ho] at h
  · simp only [Attempt.verdict?, ho, Option.bind_some, judge] at h
    split at h
    · cases h
    · cases h
      rfl

theorem reached_all (policy : ExitPolicy) (as : List (Attempt ω))
    (h : as.findSome? Attempt.problem? = none) :
    reached (Attempt.stops policy .runToCompletion) as = as := by
  have hgo : ∀ a ∈ as, a.stops policy .runToCompletion = false := by
    intro a ha
    rw [stops_runToCompletion, List.findSome?_eq_none_iff.mp h a ha]
    rfl
  rw [reached, List.findIdx_eq_length_of_false hgo, List.take_of_length_le (Nat.le_succ _)]

theorem no_problem_of_reached (policy : ExitPolicy) (as : List (Attempt ω))
    (h : (reached (Attempt.stops policy .runToCompletion) as).findSome? Attempt.problem? = none) :
    as.findSome? Attempt.problem? = none := by
  induction as with
  | nil => rfl
  | cons a as ih =>
    rw [reached_cons, stops_runToCompletion] at h
    rcases hp : a.problem? with _ | p
    · simp only [hp, Option.isSome_none, Bool.false_eq_true, if_false, List.findSome?_cons] at h
      simpa [hp] using ih h
    · simp [hp] at h

theorem untimed_eq_ok {result : Except Problem Summary} {t : Tally}
    (h : untimed result = .ok (t.close ⟨0, 0⟩)) :
    ∃ duration, result = .ok (t.close duration) := by
  rcases result with p | summary
  · cases h
  · refine ⟨summary.duration, ?_⟩
    cases summary
    cases h
    rfl

theorem run_completed {t : Answers} {c : Collaborators ω} {settings : Settings}
    {ids : List String} (h : t.GivenBy c settings.testDir ids) (names : List String)
    (r : Reporter ρ) (w : ω) (hcomplete : settings.failurePolicy = .runToCompletion)
    (as : List (Attempt Unit))
    (has : (selectTests ids names).map (t.attempt settings.testDir) = as)
    (hnone : as.findSome? Attempt.problem? = none) :
    verdicts c settings names r w = as.filterMap (Attempt.verdict? r.policy) ∧
    ∃ duration, (run c settings names r w).result = .ok
      { collected := (selectTests ids names).length
        passed := r.tally.passed + (verdicts c settings names r w).countP Verdict.passed
        failed := (r.tally.failures ++
          (verdicts c settings names r w).filterMap Verdict.mismatch).length
        duration := duration
        failures := r.tally.failures ++
          (verdicts c settings names r w).filterMap Verdict.mismatch } := by
  have hall : reached (Attempt.stops r.policy settings.failurePolicy)
      ((selectTests ids names).map (t.attempt settings.testDir)) = as := by
    rw [hcomplete, has, reached_all r.policy as hnone]
  obtain ⟨-, hverdicts, hresult⟩ := run_given h names r w as hall
  refine ⟨hverdicts, ?_⟩
  rw [settle, hnone] at hresult
  obtain ⟨duration, hok⟩ := untimed_eq_ok hresult
  refine ⟨duration, ?_⟩
  rw [hok, hverdicts, foldl_add]
  rfl

theorem no_problem_of_ok {t : Answers} {c : Collaborators ω} {settings : Settings}
    {ids : List String} (h : t.GivenBy c settings.testDir ids) (r : Reporter ρ) (w : ω)
    (hcomplete : settings.failurePolicy = .runToCompletion) (summary : Summary)
    (hok : (run c settings [] r w).result = .ok summary) :
    (ids.map (t.attempt settings.testDir)).findSome? Attempt.problem? = none := by
  obtain ⟨-, -, hresult⟩ := run_given h [] r w _ rfl
  rw [hok, hcomplete] at hresult
  apply no_problem_of_reached r.policy
  rw [settle] at hresult
  split at hresult
  · cases hresult
  · assumption

theorem selectTests_of_names (ids : List String) {names : List String} (h : names ≠ []) :
    selectTests ids names = ids.filter fun id => names.contains id := by
  simp [selectTests, h]

theorem attempts_selected (t : Answers) (dir : Path) (ids : List String) {names : List String}
    (h : names ≠ []) :
    (selectTests ids names).map (t.attempt dir) =
      (ids.map (t.attempt dir)).filter fun a => names.contains a.id := by
  rw [selectTests_of_names ids h, List.filter_map]
  congr 2
  funext id
  exact congrArg names.contains (attempt_id (t.counted []) dir id 0).symm

theorem no_problem_selected {as : List (Attempt ω)} (p : Attempt ω → Bool)
    (h : as.findSome? Attempt.problem? = none) :
    (as.filter p).findSome? Attempt.problem? = none := by
  rw [List.findSome?_eq_none_iff] at h ⊢
  exact fun a ha => h a (List.mem_of_mem_filter ha)

theorem verdicts_selected (policy : ExitPolicy) (as : List (Attempt ω)) (p : String → Bool) :
    (as.filter fun a => p a.id).filterMap (Attempt.verdict? policy) =
      (as.filterMap (Attempt.verdict? policy)).filter (fun v => p v.testId) ∧
    ((as.filter fun a => p a.id).filterMap (Attempt.verdict? policy)).filterMap Verdict.mismatch =
      ((as.filterMap (Attempt.verdict? policy)).filterMap Verdict.mismatch).filter
        fun m => p m.testId := by
  rw [List.filterMap_filterMap, List.filterMap_filterMap]
  constructor
  · apply filterMap_filter_of_kept
    intro a v hv
    rw [verdict_testId hv]
  · apply filterMap_filter_of_kept
    intro a m hm
    rw [mismatch_testId hm]

theorem attempts_agree {t t' : Answers} {ids names : List String} (dir : Path)
    (hnames : names ≠ []) (hagree : ∀ id ∈ ids, id ∈ names → t.AgreeOn t' id) :
    (selectTests ids names).map (t.attempt dir) = (selectTests ids names).map (t'.attempt dir) := by
  rw [selectTests_of_names ids hnames]
  apply List.map_congr_left
  intro id hid
  obtain ⟨hmem, hname⟩ := List.mem_filter.mp hid
  exact Answers.attempt_agree dir (hagree id hmem (List.contains_iff_mem.mp hname))

theorem calls_selected {t : Answers} {ids names : List String} (dir : Path) (hnames : names ≠ [])
    (stop : Attempt Unit → Bool) (call : Call)
    (h : call ∈ (reached stop ((selectTests ids names).map (t.attempt dir))).flatMap
      Attempt.calls) :
    ∃ id ∈ ids, id ∈ names ∧ t.Concerns dir id call := by
  obtain ⟨a, ha, hcall⟩ := List.mem_flatMap.mp h
  obtain ⟨id, hid, rfl⟩ := List.mem_map.mp (List.mem_of_mem_take ha)
  rw [selectTests_of_names ids hnames] at hid
  obtain ⟨hmem, hname⟩ := List.mem_filter.mp hid
  exact ⟨id, hmem, List.contains_iff_mem.mp hname, Answers.attempt_concerns t dir id call hcall⟩

/-- Suites with the same tests that answer alike about the selected ones make the same calls, all
of them on behalf of selected tests, and come to the same result, whatever the other tests do. If
the run of all tests is to be completed and ends with a summary, then so does the run of the
selected ones, and its summary is that of the full run cut down to them. -/
theorem selected_tests_decide_run (c : Collaborators ω) (c' : Collaborators ω') (t t' : Answers)
    (settings : Settings) (ids names : List String) (listener : Listener ρ) (policy : ExitPolicy)
    (start : Nat) (state : ρ) (w₀ w : ω) (w' : ω') (hnames : names ≠ [])
    (h : t.GivenBy c settings.testDir ids) (h' : t'.GivenBy c' settings.testDir ids)
    (hagree : ∀ id ∈ ids, id ∈ names → t.AgreeOn t' id) :
    let r : Reporter ρ := { listener := listener, policy := policy, start := start, state := state }
    (calls c settings names r w = calls c' settings names r w' ∧
      untimed (run c settings names r w).result = untimed (run c' settings names r w').result ∧
      ∃ made, calls c settings names r w = .discover settings.testDir names :: made ∧
        ∀ call ∈ made, ∃ id ∈ ids, id ∈ names ∧ t.Concerns settings.testDir id call) ∧
    (settings.failurePolicy = .runToCompletion →
      ∀ full, (run c settings [] r w₀).result = .ok full →
      ∃ part, (run c settings names r w).result = .ok part ∧
        part.collected = ids.countP (fun id => names.contains id) ∧
        part.passed = (verdicts c settings [] r w₀).countP
          (fun v => names.contains v.testId && v.passed) ∧
        part.failed = part.failures.length ∧
        part.failures = full.failures.filter (fun m => names.contains m.testId)) := by
  intro r
  constructor
  · have hsame := attempts_agree settings.testDir hnames hagree
    obtain ⟨hcalls, -, hresult⟩ := run_given h names r w _ rfl
    obtain ⟨hcalls', -, hresult'⟩ := run_given h' names r w' _ rfl
    rw [← hsame] at hcalls' hresult'
    refine ⟨hcalls.trans hcalls'.symm, hresult.trans hresult'.symm, _, hcalls, ?_⟩
    exact calls_selected settings.testDir hnames _
  · intro hcomplete full hfull
    have hnone := no_problem_of_ok h r w₀ hcomplete full hfull
    obtain ⟨hall, _, hfull'⟩ := run_completed h [] r w₀ hcomplete _ rfl hnone
    obtain ⟨hsome, _, hpart⟩ := run_completed h names r w hcomplete _
      (attempts_selected t settings.testDir ids hnames) (no_problem_selected _ hnone)
    obtain ⟨hverdicts, hmismatches⟩ := verdicts_selected policy
      (ids.map (t.attempt settings.testDir)) names.contains
    rw [hfull, hall] at hfull'
    cases hfull'
    rw [hsome] at hpart
    have hcollected : (selectTests ids names).length = ids.countP fun id => names.contains id := by
      rw [selectTests_of_names ids hnames, List.countP_eq_length_filter]
    have hpassed : (((ids.map (t.attempt settings.testDir)).filter
        fun a => names.contains a.id).filterMap (Attempt.verdict? policy)).countP Verdict.passed =
        (verdicts c settings [] r w₀).countP fun v => names.contains v.testId && v.passed := by
      rw [hverdicts, hall, List.countP_filter]
      exact List.countP_congr fun v _ => by rw [Bool.and_comm]
    exact ⟨_, hpart, hcollected, (Nat.zero_add _).trans hpassed, rfl, hmismatches⟩

/-- A test that cannot be loaded is not noticed by a run of two others, named in any order and
more than once. One of them fails, as it does in the run of all tests of the sound suite. -/
theorem broken_test_not_selected :
    let sound : Answers :=
      { load := fun id => .ok ⟨id, .ofString id, "", "1"⟩
        build := fun case => .ok case.path
        execute := fun path => .ok { stdout := if path = .ofString "c" then "2" else "1" } }
    let broken : Answers :=
      { sound with
        load := fun id => if id = "b" then .error (.testsUnreadable (.ofString "b") .notFound)
          else sound.load id }
    let ids := ["a", "b", "c"]
    let names := ["c", "z", "a", "c"]
    let r : Reporter Unit :=
      { listener := ⟨fun _ s => s, fun _ s => s, fun _ s => s, fun _ s => s, fun s => s⟩
        policy := .ignore
        state := () }
    names ≠ [] ∧ ¬ sound.AgreeOn broken "b" ∧
    calls (sound.counted ids) {} names r 0 = calls (broken.counted ids) {} names r 5 ∧
    untimed (run (sound.counted ids) {} names r 0).result =
      untimed (run (broken.counted ids) {} names r 5).result ∧
    ∃ part, (run (sound.counted ids) {} names r 0).result = .ok part ∧ part.collected = 2 ∧
      part.passed = 1 ∧ part.failures = [⟨"c", "1", "2", none, false⟩] := by
  intro sound broken ids names r
  have hnames : names ≠ [] := by simp [names]
  have hagree : ∀ id ∈ ids, id ∈ names → sound.AgreeOn broken id := by
    intro id hid hname
    have hb : id ≠ "b" := by
      rintro rfl
      simp [names] at hname
    exact ⟨by simp [broken, hb], fun case _ => ⟨rfl, fun _ _ => rfl⟩⟩
  obtain ⟨⟨hcalls, hresult, -⟩, hpart⟩ := selected_tests_decide_run (sound.counted ids)
    (broken.counted ids) sound broken {} ids names r.listener r.policy r.start r.state 0 0 5 hnames
    (sound.givenBy_counted _ ids) (broken.givenBy_counted _ ids) hagree
  obtain ⟨part, hok, hcollected, hpassed, -, hfailures⟩ := hpart rfl _ rfl
  refine ⟨hnames, ?_, hcalls, hresult, part, hok, ?_, ?_, ?_⟩
  · rintro ⟨hload, -⟩
    cases hload
  · rw [hcollected]
    decide
  · rw [hpassed]
    decide
  · rw [hfailures]
    decide

end Proctor.Suite
