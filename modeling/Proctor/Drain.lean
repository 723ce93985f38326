import Proctor.Cause
import Proctor.Text.Utf8

/-!
# Draining a pipe

The output of a process is read part by part while the process is waited for. What has been read can
be taken at any time: all of it if the pipe has ended, and what has come so far if someone still
holds it open when time is up.
-/

set_option autoImplicit false

namespace Proctor

inductive Attempt where
  | part (bytes : Bytes)
  | interrupted
  | ended
  | failed (cause : Cause)
  deriving DecidableEq, Repr

/-- The parts read so far, last one first, and how the reading ended. -/
structure Drain where
  parts : List Bytes := []
  result : Option (Except Cause Unit) := none

namespace Drain

def pump (d : Drain) (a : Attempt) : Drain :=
  match d.result with
  | some _ => d
  | none =>
    match a with
    | .part bytes => { d with parts := bytes :: d.parts }
    | .interrupted => d
    | .ended => { d with result := some (.ok ()) }
    | .failed cause => { d with result := some (.error cause) }

def bytes (d : Drain) : Bytes := d.parts.reverse.flatten

/-- Takes what has been read, after having heard how the reading ended, or having given up. A failure
takes its place. -/
def collect (d : Drain) (heard : Option (Except Cause Unit)) : Except Cause Bytes × Drain :=
  match heard with
  | some (.error cause) => (.error cause, d)
  | some (.ok ()) => (.ok d.bytes, { d with parts := [] })
  | none => (.ok d.bytes, { d with parts := [] })

def after (attempts : List Attempt) : Except Cause Bytes :=
  let d := attempts.foldl pump {}
  (d.collect d.result).1

end Drain

end Proctor
