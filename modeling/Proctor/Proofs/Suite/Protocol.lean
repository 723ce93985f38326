import Proctor.Console
import Proctor.Proofs.Suite.Events

/-!
# The order of events

A listener that opens something (a document, a line) and has to close it relies on the order in
which it is told of things. The order is an automaton: the tests are announced once and first, a
test is started before there is a verdict on it and no other test comes between, and one last word
ends the run. A run keeps to the order once its tests are found. If they cannot be found the
listener is told nothing at all, and so never learns that the run is over.
-/

set_option autoImplicit false

namespace Proctor.Suite

variable {ω ρ : Type}

inductive Phase where
  | waiting
  | between
  | during (id : String)
  | over
  deriving DecidableEq, Repr

/-- What may be told next, and where it leads. A run may be cut short while the listener waits for
the tests or during a test. -/
def Phase.next : Phase → Event → Option Phase
  | .waiting, .collected _ => some .between
  | .waiting, .aborted => some .over
  | .between, .started id => some (.during id)
  | .between, .finished _ => some .over
  | .during id, .completed verdict => if verdict.testId = id then some .between else none
  | .during _, .aborted => some .over
  | _, _ => none

structure Proper (heard : List Event) (result : Except Problem Summary) : Prop where
  ordered : heard.foldlM Phase.next .waiting = some .over
  finished : ∀ summary, .finished summary ∈ heard ↔ result = .ok summary
  aborted : .aborted ∈ heard ↔ ∃ p, result = .error p

theorem course_ordered (verdicts : List Verdict) :
    (course verdicts).foldlM Phase.next .between = some .between := by
  induction verdicts with
  | nil => rfl
  | cons v vs ih =>
    rw [course_cons, List.foldlM_cons]
    simpa [Phase.next] using ih

theorem mem_course {e : Event} {verdicts : List Verdict} (h : e ∈ course verdicts) :
    (∃ id, e = .started id) ∨ ∃ v, e = .completed v := by
  obtain ⟨v, -, hv⟩ := List.mem_flatMap.mp h
  simp only [List.mem_cons, List.not_mem_nil, or_false] at hv
  rcases hv with rfl | rfl
  · exact .inl ⟨_, rfl⟩
  · exact .inr ⟨_, rfl⟩

theorem finished_not_mem_course (summary : Summary) (verdicts : List Verdict) :
    .finished summary ∉ course verdicts := by
  intro h
  rcases mem_course h with ⟨_, h⟩ | ⟨_, h⟩ <;> cases h

theorem aborted_not_mem_course (verdicts : List Verdict) : .aborted ∉ course verdicts := by
  intro h
  rcases mem_course h with ⟨_, h⟩ | ⟨_, h⟩ <;> cases h

theorem proper_of_summary (ids : List String) (verdicts : List Verdict) (summary : Summary) :
    Proper (.collected ids :: course verdicts ++ [.finished summary]) (.ok summary) where
  ordered := by
    rw [List.cons_append, List.foldlM_cons]
    simp [Phase.next, List.foldlM_append, course_ordered]
  finished := by simp [finished_not_mem_course, eq_comm]
  aborted := by simp [aborted_not_mem_course]

theorem proper_of_problem (ids : List String) (verdicts : List Verdict) (id : String)
    (p : Problem) :
    Proper (.collected ids :: course verdicts ++ [.started id, .aborted]) (.error p) where
  ordered := by
    rw [List.cons_append, List.foldlM_cons]
    simp [Phase.next, List.foldlM_append, course_ordered]
  finished := by simp [finished_not_mem_course]
  aborted := by simp

theorem not_proper_nil (result : Except Problem Summary) : ¬ Proper [] result := by
  intro h
  simpa using h.ordered

theorem events_proper (c : Collaborators ω) (settings : Settings) (names : List String)
    (r : Reporter ρ) (w w₁ : ω) (ids : List String)
    (h : c.discover settings.testDir names w = (.ok ids, w₁)) :
    Proper (events c settings names r w) (run c settings names r w).result := by
  have hevents := events_by_verdicts c settings names r w w₁ ids h
  rcases hresult : (run c settings names r w).result with p | summary
  · rw [hresult] at hevents
    obtain ⟨id, -, hheard⟩ := hevents
    rw [hheard]
    exact proper_of_problem _ _ _ _
  · rw [hresult] at hevents
    rw [hevents.2]
    exact proper_of_summary _ _ _

/-- A listener is told of a run in the proper order, with the one last word that fits the result,
exactly if the tests are found; otherwise it is told nothing. In order, it is told of the tests
found, then of the start and the verdict of each test judged, and then of the summary, or of the
start of the next test and that the run is cut short there. -/
theorem told_in_order_iff_found (c : Collaborators ω) (settings : Settings) (names : List String)
    (r : Reporter ρ) (w : ω) :
    let ending := run c settings names r w
    let watched := run c settings names (overheard r) w
    let heard := watched.state.2
    (watched.result = ending.result ∧ watched.state.1 = ending.state ∧
      watched.world = ending.world) ∧
    (Proper heard ending.result ↔
      ∃ ids w₁, c.discover settings.testDir names w = (.ok ids, w₁)) ∧
    match c.discover settings.testDir names w with
    | (.error p, _) => heard = [] ∧ ending.result = .error p
    | (.ok ids, w₁) =>
      let verdicts := (reached (Attempt.stops r.policy settings.failurePolicy)
        (attempts c settings.testDir ids w₁)).filterMap (Attempt.verdict? r.policy)
      match ending.result with
      | .ok summary =>
        verdicts.map Verdict.testId <+: ids ∧
        heard = .collected ids :: course verdicts ++ [.finished summary]
      | .error _ =>
        ∃ id, verdicts.map Verdict.testId ++ [id] <+: ids ∧
          heard = .collected ids :: course verdicts ++ [.started id, .aborted] := by
  intro ending watched heard
  refine ⟨run_overheard c settings names r w, ?_⟩
  rcases h : c.discover settings.testDir names w with ⟨p | ids, w₁⟩
  · have hheard : heard = [] := events_of_lost c settings names r w w₁ p h
    have hresult : ending.result = .error p := by
      rw [show ending = _ from run_of_lost c settings names r w w₁ p h]
    refine ⟨⟨?_, ?_⟩, hheard, hresult⟩
    · rw [hheard]
      exact fun hproper => absurd hproper (not_proper_nil _)
    · rintro ⟨ids, w₂, hfound⟩
      cases hfound
  · refine ⟨⟨fun _ => ⟨ids, w₁, rfl⟩, fun _ => events_proper c settings names r w w₁ ids h⟩, ?_⟩
    exact events_by_verdicts c settings names r w w₁ ids h

/-- With a test directory that cannot be read the run ends in that problem, and the console is not
told that it is cut short: it prints nothing, where one told so would end its line. -/
theorem unreadable_tests_end_in_silence :
    let c : Collaborators Unit :=
      { discover := fun dir _ => .fail (.testsUnreadable dir .notFound)
        load := fun dir id => .pure (.ofSource id (dir.join (.ofString id)) "# 1")
        build := fun case => .pure case.path
        execute := fun _ => .pure { stdout := "1\n" }
        now := fun _ => 0 }
    let r : Reporter Sink := { listener := Console.listener true, policy := .ignore, state := {} }
    (run c {} [] r ()).result = .error (.testsUnreadable (.ofString "test") .notFound) ∧
    .aborted ∉ events c {} [] r () ∧
    ¬ Proper (events c {} [] r ()) (run c {} [] r ()).result ∧
    (run c {} [] r ()).state.written = [] ∧
    (hear r.listener (run c {} [] r ()).state .aborted).written = Bytes.ofString "\n" := by
  intro c r
  have hlost : events c {} [] r () = [] := rfl
  refine ⟨rfl, ?_, ?_, rfl, rfl⟩
  · simp [hlost]
  · rw [hlost]
    exact not_proper_nil _

end Proctor.Suite
