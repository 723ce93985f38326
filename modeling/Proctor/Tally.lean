import Proctor.Verdict

/-!
# The tally of a run

The tally counts what was announced and what passed, and keeps the mismatches in the order they
came. Closed with the time it took, it is the summary of the run.
-/

set_option autoImplicit false

namespace Proctor

structure Tally where
  collected : Nat := 0
  passed : Nat := 0
  failures : List Mismatch := []
  deriving DecidableEq, Repr

def Tally.add (t : Tally) (v : Verdict) : Tally :=
  match v.mismatch with
  | none => { t with passed := t.passed + 1 }
  | some m => { t with failures := t.failures ++ [m] }

structure Summary where
  collected : Nat := 0
  passed : Nat := 0
  failed : Nat := 0
  duration : Duration := ⟨0, 0⟩
  failures : List Mismatch := []
  deriving DecidableEq, Repr

def Tally.close (t : Tally) (duration : Duration) : Summary where
  collected := t.collected
  passed := t.passed
  failed := t.failures.length
  duration := duration
  failures := t.failures

namespace Summary

def total (s : Summary) : Nat := s.passed + s.failed

def notRun (s : Summary) : Nat := s.collected - s.total

def isSuccess (s : Summary) : Bool := s.failures.isEmpty

/-- All mismatches one after another, or none if there are none. -/
def failureReport (s : Summary) : Option String :=
  if s.failures.isEmpty then none
  else some (String.intercalate "\n" (s.failures.map Mismatch.render))

end Summary

end Proctor
