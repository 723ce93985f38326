import Proctor.Mismatch
import Proctor.Settings.Basic

/-!
# Verdicts

A test passes when its program printed what was expected, was not killed, and, if the exit status
counts, ended well. Otherwise the mismatch keeps what is needed to show why.
-/

set_option autoImplicit false

namespace Proctor

structure Execution where
  stdout : String := ""
  exitCode : Int := 0
  success : Bool := true
  timedOut : Bool := false
  deriving DecidableEq, Repr

/-- The verdict on one test; without a mismatch it has passed. -/
structure Verdict where
  testId : String
  expected : String
  actual : String
  exitCode : Int
  mismatch : Option Mismatch
  deriving DecidableEq, Repr

def Verdict.passed (v : Verdict) : Bool := v.mismatch.isNone

def ExitPolicy.accepts (policy : ExitPolicy) (e : Execution) : Bool :=
  match policy with
  | .ignore => true
  | .requireSuccess => e.success

def judge (policy : ExitPolicy) (testId expected : String) (e : Execution) : Verdict where
  testId := testId
  expected := expected
  actual := e.stdout
  exitCode := e.exitCode
  mismatch :=
    if e.stdout = expected ∧ policy.accepts e ∧ e.timedOut = false then none
    else some {
      testId := testId
      expected := expected
      actual := e.stdout
      exitCode := if policy.accepts e then none else some e.exitCode
      timedOut := e.timedOut }

end Proctor
