import Proctor.Text.Utf8

/-!
# Processes as seen from outside

The wait status of a finished process, a process to be started, and what is known of one that has
ended.
-/

set_option autoImplicit false

namespace Proctor

/-- How a process ended, as the system packs it into a word: the low seven bits tell an exit from a
signal. -/
structure Status where
  word : UInt32
  deriving DecidableEq, Repr

namespace Status

def exited (code : Nat) : Status := ⟨((code % 256) * 256).toUInt32⟩

def killed (signal : Nat) : Status := ⟨(signal % 128).toUInt32⟩

def low (s : Status) : Nat := s.word.toNat % 128

def code? (s : Status) : Option Nat :=
  if s.low = 0 then some (s.word.toNat / 256 % 256) else none

def signal? (s : Status) : Option Nat :=
  if s.low = 0 ∨ s.low = 127 then none else some s.low

def describe (s : Status) : String :=
  match s.code?, s.signal? with
  | some code, _ => "exit status " ++ toString code
  | none, some signal => "signal " ++ toString signal
  | none, none => "unknown status"

/-- One number for every way to end; a signal counts from 128 on. -/
def exitCode (s : Status) : Nat :=
  match s.code?, s.signal? with
  | some code, _ => code
  | none, some signal => 128 + signal
  | none, none => 1

def success (s : Status) : Bool := s.word == 0

end Status

/-- A program to start, with its arguments. The name of the program is a text; an argument may be
any bytes, since it may be a path. What it prints on its error channel is kept, or left to appear on
that of the run. -/
structure Invocation where
  program : String
  arguments : List Bytes := []
  keepsErrors : Bool := true
  deriving DecidableEq, Repr

def Invocation.display (i : Invocation) : String :=
  String.intercalate " " (i.program :: i.arguments.map Bytes.lossy)

structure Outcome where
  status : Status
  stdout : Bytes := []
  stderr : Bytes := []
  timedOut : Bool := false
  deriving DecidableEq, Repr

/-- A killed process never succeeds, whatever its status. -/
def Outcome.success (o : Outcome) : Bool :=
  !o.timedOut && o.status.success

end Proctor
