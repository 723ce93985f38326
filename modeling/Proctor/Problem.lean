import Proctor.Cause
import Proctor.Duration
import Proctor.Path
import Proctor.Text.Blank
import Proctor.Toolchain

/-!
# Problems

Everything that stops a run, as opposed to a test that fails. A problem is a cause; its wording, its
code, the help it offers and the report shown at the end are functions of it.
-/

set_option autoImplicit false

namespace Proctor

inductive Problem where
  | preconditionMissing (path : Path)
  | toolNotFound (role : Role) (program : String) (hint : String) (cause : Cause)
  | toolFailed (role : Role) (program subject status stderr : String)
  | toolTimedOut (role : Role) (program subject : String) (limit : Duration)
  | notStarted (program : String) (cause : Cause)
  | testsUnreadable (path : Path) (cause : Cause)
  | unsafeScratch (path : Path)
  | badSettings (path : Path) (complaint : String)
  | inputOutput (context : String) (cause : Cause)
  deriving DecidableEq, Repr

namespace Problem

/-- What a failed tool printed, on lines of its own and without the blanks at its end. -/
def printed (stderr : String) : String :=
  let text := trimEnd stderr
  if text.isEmpty then "" else "\n" ++ text

def message : Problem → String
  | .preconditionMissing path => path.display ++ " not found"
  | .toolNotFound _ program _ _ => program ++ " not found"
  | .toolFailed role program subject status stderr =>
    role.name ++ " `" ++ program ++ "` failed on " ++ subject ++ " (" ++ status ++ ")" ++
      printed stderr
  | .toolTimedOut role program subject limit =>
    role.name ++ " `" ++ program ++ "` timed out on " ++ subject ++ " after " ++ limit.render ++ "s"
  | .notStarted program _ => "could not start `" ++ program ++ "`"
  | .testsUnreadable path _ => "cannot read test directory " ++ path.display
  | .unsafeScratch path => "refusing to use " ++ path.display ++ " as the scratch directory"
  | .badSettings path complaint => "invalid configuration in " ++ path.display ++ ": " ++ complaint
  | .inputOutput context _ => context

def code : Problem → String
  | .preconditionMissing _ => "annotest::precondition_missing"
  | .toolNotFound .. => "annotest::tool_not_found"
  | .toolFailed .. => "annotest::tool_failed"
  | .toolTimedOut .. => "annotest::tool_timed_out"
  | .notStarted .. => "annotest::spawn"
  | .testsUnreadable .. => "annotest::test_dir"
  | .unsafeScratch _ => "annotest::unsafe_scratch_dir"
  | .badSettings .. => "annotest::config"
  | .inputOutput .. => "annotest::io"

def help : Problem → Option String
  | .preconditionMissing _ => some "did you run make?"
  | .toolNotFound _ _ hint _ => some hint
  | .toolTimedOut .. => some "raise the limit with --timeout, or pass 0 to disable it"
  | .unsafeScratch _ => some "pick a dedicated subdirectory, e.g. --scratch-dir test-tmp"
  | _ => none

def cause : Problem → Option Cause
  | .toolNotFound _ _ _ cause => some cause
  | .notStarted _ cause => some cause
  | .testsUnreadable _ cause => some cause
  | .inputOutput _ cause => some cause
  | _ => none

def report (p : Problem) : String :=
  "ERROR: " ++ p.message ++
    (match p.cause with
      | none => ""
      | some cause => "\n  caused by: " ++ cause.message) ++
    match p.help with
    | none => ""
    | some help => "\n  help: " ++ help

end Problem

end Proctor
