import Proctor.Reporter
import Proctor.Text.Utf8

/-!
# Progress on a console

The quiet form is one line of marks; the verbose form has a line for each test and one for the sum.
Text goes to a sink, which may stop accepting bytes: what is lost is lost, and the run does not
notice.
-/

set_option autoImplicit false

namespace Proctor

/-- Where text goes: the bytes taken so far, and how many more can be, if there is a bound. -/
structure Sink where
  written : Bytes := []
  room : Option Nat := none
  deriving DecidableEq, Repr

def Sink.put (s : Sink) (bytes : Bytes) : Sink :=
  match s.room with
  | none => { s with written := s.written ++ bytes }
  | some n => { written := s.written ++ bytes.take n, room := some (n - bytes.length) }

def Sink.print (s : Sink) (text : String) : Sink := s.put (Bytes.ofString text)

namespace Console

def collectedLine (ids : List String) : String :=
  "tests: " ++ String.intercalate " " ids ++ "\n"

def startedMark (verbose : Bool) (id : String) : String :=
  if verbose then id ++ " ... " else ""

def completedMark (verbose passed : Bool) : String :=
  match verbose, passed with
  | false, true => "."
  | false, false => "F"
  | true, true => "ok\n"
  | true, false => "FAILED\n"

def finishedLine (verbose : Bool) (s : Summary) : String :=
  if verbose then
    toString s.passed ++ " passed, " ++ toString s.failed ++ " failed" ++
      (if 0 < s.notRun then ", " ++ toString s.notRun ++ " not run" else "") ++
      " in " ++ s.duration.renderFixed ++ "s\n"
  else "\n"

/-- The line that closes a run cut short. In the verbose form it ends the line of the test that was
under way. -/
def abortedLine : String := "\n"

def listener (verbose : Bool) : Listener Sink where
  collected ids s := s.print (collectedLine ids)
  started id s := s.print (startedMark verbose id)
  completed v s := s.print (completedMark verbose v.passed)
  finished summary s := s.print (finishedLine verbose summary)
  aborted s := s.print abortedLine

end Console

end Proctor
