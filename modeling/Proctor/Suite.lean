import Proctor.Expected
import Proctor.Problem
import Proctor.Reporter

/-!
# Running a suite

The tests found are taken one after another: load, build, execute, judge. A test that fails is
recorded, and ends the run only if the settings say so; a problem ends it at once. The collaborators
that find, load, build and execute are parameters, each free to answer as it likes and to keep a
state of its own in `ω`.
-/

set_option autoImplicit false

namespace Proctor

structure TestCase where
  id : String
  path : Path
  source : String
  expected : String
  deriving DecidableEq, Repr

def TestCase.ofSource (id : String) (path : Path) (source : String) : TestCase where
  id := id
  path := path
  source := source
  expected := expectedOutput source

/-- A step that may change the world `ω` and may end in a problem. -/
abbrev Action (ω α : Type) := ω → Except Problem α × ω

namespace Action

variable {ω α β : Type}

def pure (a : α) : Action ω α := fun w => (.ok a, w)

def fail (p : Problem) : Action ω α := fun w => (.error p, w)

def andThen (x : Action ω α) (f : α → Action ω β) : Action ω β := fun w =>
  match x w with
  | (.ok a, w) => f a w
  | (.error p, w) => (.error p, w)

section Course

variable {γ : Type} {x : Action ω α} {f : α → Action ω β} {b : β} {w w' : ω}

theorem pure_andThen (a : α) (f : α → Action ω β) : (pure a : Action ω α).andThen f = f a := rfl

theorem andThen_assoc (x : Action ω α) (f : α → Action ω β) (g : β → Action ω γ) :
    (x.andThen f).andThen g = x.andThen fun a => (f a).andThen g := by
  funext w
  rcases hx : x w with ⟨problem | a, w₁⟩ <;> simp [andThen, hx]

theorem andThen_eq_ok :
    x.andThen f w = (.ok b, w') ↔ ∃ a w₁, x w = (.ok a, w₁) ∧ f a w₁ = (.ok b, w') := by
  rcases hx : x w with ⟨problem | a, w₁⟩
  · simp [andThen, hx]
  · have hgo : x.andThen f w = f a w₁ := by simp only [andThen, hx]
    rw [hgo]
    constructor
    · exact fun h => ⟨a, w₁, rfl, h⟩
    · rintro ⟨_, _, ⟨⟩, h⟩
      exact h

theorem andThen_fst_ok :
    (x.andThen f w).1 = .ok b ↔ ∃ a, (x w).1 = .ok a ∧ (f a (x w).2).1 = .ok b := by
  constructor
  · intro h
    obtain ⟨a, w₁, hx, hf⟩ := andThen_eq_ok.mp (Prod.ext h rfl)
    exact ⟨a, by rw [hx], by rw [hx, hf]⟩
  · rintro ⟨a, hx, hf⟩
    rw [andThen_eq_ok.mpr ⟨a, (x w).2, Prod.ext hx rfl, Prod.ext hf rfl⟩]

theorem andThen_snd (x : Action ω α) (hf : ∀ a w, (f a w).2 = w) (w : ω) :
    (x.andThen f w).2 = (x w).2 := by
  rcases hx : x w with ⟨problem | a, w₁⟩ <;> simp [andThen, hx, hf]

end Course

end Action

structure Collaborators (ω : Type) where
  discover : Path → List String → Action ω (List String)
  load : Path → String → Action ω TestCase
  build : TestCase → Action ω Path
  execute : Path → Action ω Execution
  /-- The time, in nanoseconds. -/
  now : ω → Nat

namespace Suite

variable {ω ρ : Type}

def perform (c : Collaborators ω) (dir : Path) (id : String) : Action ω (TestCase × Execution) :=
  (c.load dir id).andThen fun case =>
    (c.build case).andThen fun executable =>
      (c.execute executable).andThen fun execution => .pure (case, execution)

structure Ending (ω ρ : Type) where
  result : Except Problem Summary
  state : ρ
  world : ω

def finish (c : Collaborators ω) (r : Reporter ρ) (w : ω) : Ending ω ρ :=
  let (summary, state) := r.finalize (c.now w)
  ⟨.ok summary, state, w⟩

/-- The tests from some point of the run on. -/
def runTests (c : Collaborators ω) (settings : Settings) :
    List String → Reporter ρ → ω → Ending ω ρ
  | [], r, w => finish c r w
  | id :: ids, r, w =>
    let r := r.startTest id
    match perform c settings.testDir id w with
    | (.error p, w) => ⟨.error p, r.abort, w⟩
    | (.ok (case, execution), w) =>
      let (verdict, r) := r.record id case.expected execution
      if !verdict.passed && settings.failurePolicy = .failFast then finish c r w
      else runTests c settings ids r w

/-- Finds the tests that the names select and runs them. If they cannot be found, the listener hears
nothing. -/
def run (c : Collaborators ω) (settings : Settings) (names : List String) (r : Reporter ρ) (w : ω) :
    Ending ω ρ :=
  match c.discover settings.testDir names w with
  | (.error p, w) => ⟨.error p, r.state, w⟩
  | (.ok ids, w) => runTests c settings ids (r.begin ids) w

end Suite

end Proctor
