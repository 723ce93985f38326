import Proctor.Host
import Proctor.Selection

/-!
# Finding and loading tests

Every regular file directly in the test directory is a test, known by its name; a name that is not
text is passed over. The names are put in order, so that the order of the listing does not matter.
-/

set_option autoImplicit false

namespace Proctor

namespace Discovery

/-- The name of a test, if the entry is one. What is no regular file is passed over. -/
def testId? (e : Entry) : Option String :=
  match e.kind with
  | .ok .regular => e.name.text?
  | .ok .other => none
  | .error _ => none

/-- The tests of a listing. One entry that cannot be read spoils it all. -/
def testIds (listing : Listing) : Except Cause (List String) := do
  let entries ← listing.mapM id
  return (entries.filterMap testId?).mergeSort fun a b => decide (a ≤ b)

variable {ω : Type}

def allTests (host : Host ω) (dir : Path) : Action ω (List String) := fun w =>
  match (host.listing w dir).bind testIds with
  | .ok ids => (.ok ids, w)
  | .error cause => (.error (.testsUnreadable dir cause), w)

def discover (host : Host ω) (dir : Path) (names : List String) : Action ω (List String) :=
  (allTests host dir).andThen fun ids => .pure (selectTests ids names)

/-- Reads the source of a test; what is not text in it is replaced. -/
def load (host : Host ω) (dir : Path) (id : String) : Action ω TestCase := fun w =>
  let path := dir.join (.ofString id)
  match host.content w path with
  | .ok bytes => (.ok (.ofSource id path bytes.lossy), w)
  | .error cause =>
    (.error (.inputOutput ("cannot read test source " ++ path.display) cause), w)

end Discovery

end Proctor
