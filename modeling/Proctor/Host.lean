import Proctor.Cause
import Proctor.Duration
import Proctor.Path
import Proctor.Process
import Proctor.Suite

/-!
# What a run asks of the system

Files, processes and the clock, as a record of operations on a world `ω`. A question leaves the
world alone; an operation gives back a new one, whether it succeeds or not.
-/

set_option autoImplicit false

namespace Proctor

inductive EntryKind where
  | regular
  | other
  deriving DecidableEq, Repr

/-- An entry of a directory: its name and its kind, which cannot be told if a link leads nowhere. -/
structure Entry where
  name : Bytes
  kind : Except Cause EntryKind
  deriving Repr

/-- What a directory lists, in no particular order. An entry may fail to be read. -/
abbrev Listing := List (Except Cause Entry)

abbrev Operation (ω α : Type) := ω → Except Cause α × ω

structure Host (ω : Type) where
  isDirectory : ω → Path → Bool
  isFile : ω → Path → Bool
  /-- Whether the path leads anywhere, symbolic links followed. -/
  isPresent : ω → Path → Bool
  content : ω → Path → Except Cause Bytes
  listing : ω → Path → Except Cause Listing
  /-- Removes a directory with everything in it; a symbolic link is only itself removed. -/
  removeTree : Path → Operation ω Unit
  /-- Makes a directory and the missing ones above it. -/
  createDirectories : Path → Operation ω Unit
  /-- Starts a program and waits for it, at most until the limit. -/
  launch : Invocation → Option Duration → Operation ω Outcome
  /-- The time, in nanoseconds. -/
  now : ω → Nat

namespace Operation

variable {ω α : Type} (x : Operation ω α) (problem : Cause → Problem)

/-- An operation as a step of a run: a refusal becomes a problem. -/
def orElse : Action ω α := fun w =>
  match x w with
  | (.ok a, w) => (.ok a, w)
  | (.error cause, w) => (.error (problem cause), w)

variable {x problem} {a : α} {w w' : ω}

theorem orElse_eq_ok : x.orElse problem w = (.ok a, w') ↔ x w = (.ok a, w') := by
  rcases hx : x w with ⟨cause | a', w₁⟩ <;> simp [orElse, hx]

theorem orElse_fst_ok : (x.orElse problem w).1 = .ok a ↔ (x w).1 = .ok a := by
  constructor
  · intro h
    rw [orElse_eq_ok.mp (Prod.ext h rfl)]
  · intro h
    rw [orElse_eq_ok.mpr (Prod.ext h rfl)]

theorem orElse_snd : (x.orElse problem w).2 = (x w).2 := by
  rcases hx : x w with ⟨cause | a, w₁⟩ <;> simp [orElse, hx]

end Operation

end Proctor
