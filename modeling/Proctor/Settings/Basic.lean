import Proctor.Duration
import Proctor.Path
import Proctor.Toolchain

/-!
# Settings of a run

Every path, program and limit a run uses, with the defaults of a conventional project.
-/

set_option autoImplicit false

namespace Proctor

/-- What to do after a test has failed. Problems always stop the run; this is about mismatches. -/
inductive FailurePolicy where
  | runToCompletion
  | failFast
  deriving DecidableEq, Repr

inductive ExitPolicy where
  | ignore
  | requireSuccess
  deriving DecidableEq, Repr

/-- A limit given in seconds; zero seconds means no limit. -/
def limitOfSeconds (seconds : Nat) : Option Duration :=
  if seconds = 0 then none else some (.ofSeconds seconds)

structure Settings where
  preconditionDir : Path := .ofString "bin"
  runtimeSource : Path := .ofString "lib/main.ll"
  testDir : Path := .ofString "test"
  scratchDir : Path := .ofString "test-tmp"
  toolchain : Toolchain := {}
  failurePolicy : FailurePolicy := .runToCompletion
  exitPolicy : ExitPolicy := .ignore
  toolLimit : Option Duration := some (.ofSeconds 120)
  programLimit : Option Duration := some (.ofSeconds 10)
  deriving DecidableEq, Repr

end Proctor
