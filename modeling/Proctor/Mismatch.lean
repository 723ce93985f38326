import Proctor.Text.Quoted

/-!
# Mismatches

The record of a failed test and the text that shows it: the name, the two outputs quoted, and a note
when the program was killed or when its exit status counted against it.
-/

set_option autoImplicit false

namespace Proctor

structure Mismatch where
  testId : String
  expected : String
  actual : String
  exitCode : Option Int := none
  timedOut : Bool := false
  deriving DecidableEq, Repr

namespace Mismatch

/-- The closing note, if there is one. A killed program has no exit status of its own to blame. -/
def note (m : Mismatch) : Option String :=
  if m.timedOut then some "killed after exceeding the time limit"
  else m.exitCode.map fun code => "exited with status " ++ toString code

def render (m : Mismatch) : String :=
  "FAIL: " ++ m.testId ++ "\nexpected: " ++ quoted m.expected ++ "\nactual:   " ++
    quoted m.actual ++
    match m.note with
    | none => ""
    | some note => "\nnote:     " ++ note

end Mismatch

end Proctor
