import Proctor.Path

/-!
# What a build leaves behind

Each test has three files in the scratch directory, named after the test, and the run has one more,
the runtime object, in a directory of its own.
-/

set_option autoImplicit false

namespace Proctor

structure Artifacts where
  ir : Path
  object : Path
  executable : Path
  deriving DecidableEq, Repr

namespace Artifacts

def ofTest (scratch : Path) (testId : String) : Artifacts where
  ir := scratch.join (.ofString (testId ++ ".ll"))
  object := scratch.join (.ofString (testId ++ ".s"))
  executable := scratch.join (.ofString (testId ++ ".exe"))

def paths (a : Artifacts) : List Path := [a.ir, a.object, a.executable]

end Artifacts

def runtimeDirectory (scratch : Path) : Path :=
  scratch.join (.ofString "runtime")

def runtimeObject (scratch : Path) : Path :=
  (runtimeDirectory scratch).join (.ofString "main.s")

end Proctor
