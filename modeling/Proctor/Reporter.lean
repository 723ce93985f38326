import Proctor.Tally

/-!
# Reporting progress

A listener is told of the events of a run and shows them in its own way, with a state of its own.
The reporter keeps the tally and tells the listener; no answer ever comes back from a listener.
-/

set_option autoImplicit false

namespace Proctor

/-- How events are shown, on a state `ρ`. A listener need not care when a test starts or when a run
is cut short. -/
structure Listener (ρ : Type) where
  collected : List String → ρ → ρ
  started : String → ρ → ρ := fun _ s => s
  completed : Verdict → ρ → ρ
  finished : Summary → ρ → ρ
  aborted : ρ → ρ := fun s => s

structure Reporter (ρ : Type) where
  listener : Listener ρ
  policy : ExitPolicy
  /-- The time of the start, in nanoseconds. -/
  start : Nat := 0
  tally : Tally := {}
  state : ρ

namespace Reporter

variable {ρ : Type}

def begin (r : Reporter ρ) (ids : List String) : Reporter ρ :=
  { r with
    tally := { r.tally with collected := ids.length }
    state := r.listener.collected ids r.state }

def startTest (r : Reporter ρ) (id : String) : Reporter ρ :=
  { r with state := r.listener.started id r.state }

def record (r : Reporter ρ) (id expected : String) (e : Execution) : Verdict × Reporter ρ :=
  let verdict := judge r.policy id expected e
  (verdict,
    { r with
      tally := r.tally.add verdict
      state := r.listener.completed verdict r.state })

/-- Ends the run early; nothing recorded so far is summed up. -/
def abort (r : Reporter ρ) : ρ := r.listener.aborted r.state

def finalize (r : Reporter ρ) (now : Nat) : Summary × ρ :=
  let summary := r.tally.close (.ofNanoseconds (now - r.start))
  (summary, r.listener.finished summary r.state)

end Reporter

end Proctor
