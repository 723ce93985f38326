import Proctor.Files.Change
import Proctor.Process
import Proctor.Shell.Text

/-!
# The work of a tool

The programs that scripts call are trees of acts. An act asks something of the machine, and what
follows depends on the answer; every branch ends. Work is written act after act, with the request at
hand and the rest of the work as what follows. What it prints is held back until there is enough of
it, something is wrong, or the work ends.
-/

set_option autoImplicit false

namespace Proctor

open Shell

namespace Tool

structure Call where
  name : Text
  arguments : List Text := []
  environment : List (Text × Text) := []
  deriving Inhabited

inductive Stream where
  | closed
  | pipe
  | node (number offset : Nat)
  deriving DecidableEq, Repr

inductive Act where
  | finish (status : Nat)
  | die (signal : Nat)
  | write (descriptor : Nat) (text : Text) (next : Option Cause → Act)
  /-- Reads what can be read; nothing at the end. -/
  | read (descriptor : Nat) (next : Except Cause Text → Act)
  /-- Gives back characters that were read too many, where that can be done. -/
  | giveBack (descriptor count : Nat) (next : Unit → Act)
  /-- Changes the files, and goes on with what they were before. -/
  | files (change : Files → Files) (next : Files → Act)
  | look (descriptor : Nat) (next : Stream → Act)
  | open_ (path : Text) (next : Except Cause Nat → Act)
  | close (descriptor : Nat) (next : Unit → Act)
  /-- A new pipe: the descriptors to read it and to write to it. -/
  | pipe (next : Nat → Nat → Act)
  | pause (nanoseconds : Nat) (next : Unit → Act)
  | enter (directory : Nat) (next : Unit → Act)
  | ignore (signal : Nat) (next : Unit → Act)
  /-- Puts another program in the place of the tool. -/
  | become (call : Call) (next : Cause → Act)
  /-- Starts a child with descriptors changed: each is closed or leads where one of the tool
  does. -/
  | start (call : Call) (streams : List (Nat × Option Nat)) (next : Except Cause Nat → Act)
  /-- Waits for a child, at most for a number of nanoseconds. -/
  | await (child : Nat) (limit : Option Nat) (next : Option Status → Act)
  | signal (pid signal : Nat) (next : Bool → Act)
  /-- Sends a signal to all that the tool has started. -/
  | signalBelow (signal : Nat) (next : Unit → Act)
  | self (next : Nat → Act)

instance : Inhabited Act := ⟨.finish 0⟩

structure Request where
  name : String
  arguments : List Text := []
  environment : List (Text × Text) := []
  deriving Inhabited

structure Held where
  parts : List Text := []
  size : Nat := 0
  /-- The status of a tool that cannot write. -/
  failure : Nat := 1
  deriving Inhabited

def Work (α : Type) : Type := Request → Held → (α → Held → Act) → Act

instance : Monad Work where
  pure a := fun _ held next => next a held
  bind x f := fun q held next => x q held fun a held => f a q held next

def reason : Cause → Text
  | .system number => (Cause.text number).toList
  | .plain text => text.toList

def unlines (lines : List Text) : Text := lines.flatMap (· ++ ['\n'])

namespace Work

def request : Work Request := fun q held next => next q held

def ask {α : Type} (a : (α → Act) → Act) : Work α := fun _ held next => a fun x => next x held

def act (a : (Unit → Act) → Act) : Work Unit := fun _ held next => a fun () => next () held

/-- Rests for the number of times it has rested before, so that what goes on for ever can be stopped.
It rests the longer, the more often it does. -/
def rest (times : Nat) : Work Unit :=
  let slower := times / 200
  act (.pause (100000 * (1 + slower * slower)))

/-- Characters that are held back at most. -/
def holding : Nat := 4096

def quit {α : Type} (status : Nat) : Work α := fun _ _ _ => .finish status

def writeTo (descriptor : Nat) (t : Text) : Work (Option Cause) :=
  if t.isEmpty then pure none else ask (.write descriptor t)

def mutter (message : Text) : Work Unit := fun q held next =>
  .write 2 (q.name.toList ++ ": ".toList ++ message ++ ['\n']) fun _ => next () held

/-- Writes what was held back. A tool that cannot write gives up. -/
def flush : Work Unit := fun q held next =>
  if held.parts.isEmpty then next () held
  else
    .write 1 held.parts.reverse.flatten fun result =>
      match result with
      | none => next () { held with parts := [], size := 0 }
      | some cause =>
        mutter ("write error: ".toList ++ reason cause) q held fun _ held => .finish held.failure

def complain (message : Text) : Work Unit := do
  flush
  mutter message

def say (t : Text) : Work Unit := fun q held next =>
  let held := { held with parts := t :: held.parts, size := held.size + t.length }
  if held.size < holding then next () held else flush q held next

def exit {α : Type} (status : Nat) : Work α := do
  flush
  quit status

def fail {α : Type} (status : Nat) (message : Text) : Work α := do
  complain message
  exit status

def misuse {α : Type} (status : Nat) (message : Text) : Work α := do
  let q ← request
  fail status (message ++ ("\nTry '" ++ q.name ++ " --help' for more information.").toList)

def failingWith (failure : Nat) : Work Unit := fun _ held next => next () { held with failure }

def files : Work Files := ask (.files id)

def change {α : Type} (op : Files → Except Cause (α × Files)) : Work (Except Cause α) :=
  ask fun next =>
    .files
      (fun f =>
        match op f with
        | .ok (_, f) => f
        | .error _ => f)
      fun f => next ((op f).map Prod.fst)

def change_ (op : Files → Except Cause Files) : Work (Except Cause Unit) :=
  change fun f => (op f).map fun f => ((), f)

def alter (op : Files → Files) : Work Unit := act fun next => .files op fun _ => next ()

def readLimit : Nat := 10000000

def readPart (descriptor : Nat) : Work (Except Cause Text) := ask (.read descriptor)

def readFrom (descriptor : Nat) : Nat → List Text → Work (Except Cause Text)
  | 0, parts => return .ok parts.reverse.flatten
  | fuel + 1, parts => do
    match ← readPart descriptor with
    | .error cause => return .error cause
    | .ok [] => return .ok parts.reverse.flatten
    | .ok t => readFrom descriptor fuel (t :: parts)

def input : Work (Except Cause Text) := readFrom 0 readLimit []

def close (descriptor : Nat) : Work Unit := act (.close descriptor)

def readFile (path : Text) : Work (Except Cause Text) := do
  let f ← files
  match f.openForReading (pathOf path) with
  | .error cause => return .error cause
  | .ok number =>
    match (f.get number).body with
    | .file content => return .ok content.toText
    | .program _ => return .ok []
    | .directory .. => return .error .isDirectory
    | _ => do
      match ← ask (.open_ path) with
      | .error cause => return .error cause
      | .ok descriptor =>
        let result ← readFrom descriptor readLimit []
        close descriptor
        return result

def readSource (operand : Text) : Work (Except Cause Text) :=
  if operand = ['-'] then input else readFile operand

def look (descriptor : Nat) : Work Stream := ask (.look descriptor)

def giveBack (descriptor count : Nat) : Work Unit := act (.giveBack descriptor count)

def run (call : Call) : Work (Except Cause Status) := do
  flush
  match ← ask (.start call []) with
  | .error cause => return .error cause
  | .ok child =>
    let status ← ask (.await child none)
    return .ok (status.getD (.exited 0))

def toAct (w : Work Nat) (q : Request) : Act := (w >>= exit) q {} fun () _ => .finish 0

end Work

end Tool

end Proctor
