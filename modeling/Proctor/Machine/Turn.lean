import Proctor.Machine.Load
import Proctor.Machine.Signal
import Proctor.Shell.Expansion

/-!
# A turn of a shell

What a shell can do when it is its turn: write, complain, redirect descriptors, start children, give
way to another program, and end.
-/

set_option autoImplicit false

namespace Proctor

namespace Machine

open Shell Tool

/-! ### What things take, in nanoseconds -/

def stepCost : Nat := 1000

def forkCost : Nat := 100000

def wakeCost : Nat := 250000

def crowdCost (m : Machine) : Nat := 100 * (m.processes.length * m.processes.length)

/-- What it takes to move characters. What a process has moved already weighs on it, so
that one that reads or writes without end does not get far. -/
def moveCost (moved count : Nat) : Nat :=
  let slower := moved / 4194304
  10 * count * (1 + slower * slower)

def weightCost (size : Nat) : Nat := 16 * size

def loadCost : Nat := 700000

/-! ### The turn -/

structure Turn where
  machine : Machine
  process : Process
  shell : ShellState
  cost : Nat := stepCost
  /-- What a command of the shell prints; it is written when the command is done. -/
  printed : Text := []
  /-- A command of the shell was used in a wrong way. -/
  failed : Bool := false
  /-- How the process ends with this turn, if it does. -/
  finished : Option Status := none
  /-- The program that takes the place of the shell. -/
  become : Option Task := none

namespace Turn

def context (t : Turn) : Context := t.shell.context

def withContext (t : Turn) (c : Context) : Turn := { t with shell := { t.shell with context := c } }

def status (t : Turn) : Nat := t.context.status

def withStatus (t : Turn) (n : Nat) : Turn := t.withContext { t.context with status := n }

def withCaller (t : Turn) (caller : Option Text) : Turn :=
  t.withContext { t.context with caller }

def atLine (t : Turn) (line : Nat) : Turn := t.withContext { t.context with line }

def push (t : Turn) (frames : List Frame) : Turn :=
  { t with shell := { t.shell with stack := frames ++ t.shell.stack } }

def withStack (t : Turn) (stack : List Frame) : Turn :=
  { t with shell := { t.shell with stack } }

def withDescriptors (t : Turn) (descriptors : Descriptors) : Turn :=
  { t with process := { t.process with descriptors } }

def files (t : Turn) : Files := t.machine.filesFor t.process

def withFiles (t : Turn) (f : Files) : Turn := { t with machine := t.machine.adopt f }

def channel? (t : Turn) (descriptor : Nat) : Option Channel :=
  t.process.descriptors.lookup descriptor

/-- Writes to a channel; false if that was refused. Writing where nobody reads ends the process. -/
def writeChannel (t : Turn) (c : Channel) (text : Text) : Bool × Turn :=
  match t.machine.write c text with
  | .done machine => (true, { t with machine, cost := t.cost + weightCost (machine.weight c) })
  | .refused _ => (false, t)
  | .broken =>
    if t.process.ignored.contains Signal.pipe then (false, t)
    else (true, { t with finished := some (.killed Signal.pipe) })

def write (t : Turn) (descriptor : Nat) (text : Text) : Turn :=
  match t.channel? descriptor with
  | none => t
  | some c => (t.writeChannel c text).2

def say (t : Turn) (text : Text) : Turn := { t with printed := t.printed ++ text }

def complain (t : Turn) (message : Text) : Turn := t.write 2 (t.context.complaint message)

def refuse (t : Turn) (message : Text) : Turn :=
  { t.complain message with failed := true }.withStatus 2

def flush (t : Turn) (name : Text) : Turn :=
  if t.printed.isEmpty then t
  else
    let (written, t') : Bool × Turn :=
      match t.channel? 1 with
      | none => (false, t)
      | some c => t.writeChannel c t.printed
    let t' := { t' with printed := [] }
    if written then t'
    else (t'.complain (name ++ ": I/O error".toList)).withStatus (t.status ||| 1)

def exit (t : Turn) (status : Nat) : Turn :=
  match t.shell.traps.lookup 0 with
  | some script =>
    let traps := t.shell.traps.filter fun trap => trap.1 ≠ 0
    let shell := { t.shell with
      traps
      saved := some status
      stack := [.script { rest := script }, .closing status t.shell.saved] }
    { t with shell }.withStatus status
  | none => { t with finished := some (.exited status) }

/-! ### Leaving things undone -/

def takeBack (t : Turn) (lent : List (Text × Option Variable)) : Turn :=
  t.withContext (lent.foldl (fun c (name, old) => c.alter name fun _ => old) t.context)

def undo (t : Turn) : Frame → Turn
  | .restore descriptors => t.withDescriptors descriptors
  | .completed descriptors lent =>
    (t.takeBack lent).withDescriptors (descriptors.getD t.process.descriptors)
  | .settle _ saved => { t with shell := { t.shell with saved } }
  | .closing _ saved => { t with shell := { t.shell with saved } }
  | .leave parameters locals options =>
    let t := t.takeBack locals
    t.withContext { t.context with parameters, options := options.getD t.context.options }
  | .evaluated caller => t.withCaller caller
  | .sourced caller => t.withCaller caller
  | .guarded caller => t.withCaller caller
  | _ => t

def unwind (stop : Frame → Bool) : List Frame → Turn → List Frame × Turn
  | [], t => ([], t)
  | frame :: rest, t =>
    if stop frame then (frame :: rest, t) else unwind stop rest (t.undo frame)

def isGuard : Frame → Bool
  | .guarded _ => true
  | _ => false

/-- Gives up: the shell ends, unless something guards it from that. -/
def giveUp (t : Turn) (status : Nat) : Turn :=
  if t.shell.stack.any isGuard then
    let (stack, t) := unwind isGuard t.shell.stack t
    (t.withStack stack).withStatus status
  else t.exit status

def abandon (t : Turn) (message : Text) : Turn := (t.complain message).giveUp 2

/-- Whether what is under way is only a test for something else. What a file or a trap does is no
part of a test. -/
def testsIn (outside : Bool) : List Frame → Bool
  | [] => outside
  | frame :: rest =>
    match frame with
    | .onSuccess _ => true
    | .onFailure _ => true
    | .negate => true
    | .decide .. => true
    | .loopTest .. => true
    | .sourced _ => false
    | .settle .. => false
    | .closing .. => false
    | _ => testsIn outside rest

def isTested (t : Turn) : Bool := testsIn t.shell.isTested t.shell.stack

def checked (t : Turn) : Turn :=
  if t.context.has 'e' && t.status ≠ 0 && !t.isTested && t.finished.isNone && t.become.isNone then
    t.exit t.status
  else t

/-! ### Children -/

def isLoop : Frame → Bool
  | .looped .. => true
  | .loopTest .. => true
  | .eachOf .. => true
  | _ => false

def isCall : Frame → Bool
  | .leave .. => true
  | _ => false

def loops (t : Turn) : Nat :=
  go t.shell.stack
where
  go : List Frame → Nat
    | [] => t.shell.outerLoops
    | frame :: rest => if isCall frame then 0 else if isLoop frame then go rest + 1 else go rest

def childShell (t : Turn) (isTested : Bool) (stack : List Frame) : ShellState :=
  { t.shell with
    stack
    isTested
    traps := t.shell.traps.filter fun trap => trap.2.isEmpty
    pending := []
    jobs := []
    keepsItself := false
    outerLoops := t.loops
    saved := none }

def spawn (t : Turn) (task : Task) (descriptors : Descriptors) (delay : Nat) : Nat × Turn :=
  let m := t.machine
  let cost := forkCost + crowdCost m
  let child : Process :=
    { t.process with
      pid := m.fresh
      parent := t.process.pid
      ready := m.clock + cost + delay
      descriptors
      stopped := false
      moved := 0
      task }
  let machine := { m with fresh := m.fresh + 1, processes := m.processes ++ [child] }
  (child.pid, { t with machine, cost := t.cost + cost })

def fork (t : Turn) (stack : List Frame) (descriptors : Descriptors) : Nat × Turn :=
  t.spawn (.shell (t.childShell t.isTested stack)) descriptors wakeCost

/-! ### Redirections -/

def attach (t : Turn) (descriptor : Nat) (o : Opened) : Turn :=
  let (channel, machine) := t.machine.channelTo o
  { t with machine }.withDescriptors (t.process.descriptors.set descriptor (some channel))

def reopen (t : Turn) (descriptor source : Nat) (o : Opened) (truncates : Bool) :
    Except Cause Turn :=
  match t.channel? source with
  | none => .error .notFound
  | some (.opened file) =>
    match t.machine.opens.lookup file with
    | none => .error .notFound
    | some old =>
      let files := t.files
      let t :=
        match truncates, (files.get old.number).body with
        | true, .file _ => t.withFiles (files.setBody old.number (.file []))
        | _, _ => t
      .ok (t.attach descriptor { o with number := old.number })
  | some c => .ok (t.withDescriptors (t.process.descriptors.set descriptor (some c)))

def openFile (t : Turn) (descriptor : Nat) (target : Text) (direction : Direction) :
    Except Cause Turn := do
  let path : Path := ⟨target.toBytes⟩
  let f := t.files
  let arrive (t : Turn) (o : Opened) (truncates : Bool) : Except Cause Turn :=
    match (t.files.get o.number).body with
    | .descriptor source => t.reopen descriptor source o truncates
    | _ => .ok (t.attach descriptor o)
  match direction with
  | .input => arrive t { number := ← f.openForReading path, reads := true } false
  | .append =>
    let (number, f) ← f.openForWriting path {}
    arrive (t.withFiles f) { number, appends := true, writes := true } false
  | .both =>
    let (number, f) ← f.openForWriting path { reads := true }
    arrive (t.withFiles f) { number, reads := true, writes := true } false
  | _ =>
    let careful := direction = .output && t.context.has 'C'
    if careful && f.isFile path then .error .alreadyExists
    else
      let exclusive := careful && !f.isPresent path
      let (number, f) ← f.openForWriting path { truncates := true, exclusive }
      arrive (t.withFiles f) { number, writes := true } true

def duplicate (t : Turn) (descriptor source : Nat) : Except Text Turn :=
  match t.channel? source with
  | none => .error (Text.ofNat source ++ ": ".toList ++ reason .badDescriptor)
  | some c => .ok (t.withDescriptors (t.process.descriptors.set descriptor (some c)))

def redirect (t : Turn) (r : Redirected) : Except Text Turn :=
  let duplicates : Except Text Turn :=
    if r.target = ['-'] then
      .ok (t.withDescriptors (t.process.descriptors.set r.descriptor none))
    else t.duplicate r.descriptor ((Text.decimal? r.target).getD 0)
  match r.direction with
  | .here =>
    let (pipe, machine) := t.machine.addPipe (.holding r.target)
    .ok ({ t with machine }.withDescriptors
      (t.process.descriptors.set r.descriptor (some (.intake pipe))))
  | .duplicateInput => duplicates
  | .duplicateOutput => duplicates
  | direction =>
    match t.openFile r.descriptor r.target direction with
    | .ok t => .ok t
    | .error cause =>
      let creates := direction ≠ .input
      .error ((if creates then "cannot create ".toList else "cannot open ".toList) ++
        r.target ++ ": ".toList ++ openReason creates cause)

def redirectAll (t : Turn) : List Redirected → Except Text Turn
  | [] => .ok t
  | r :: rest => do (← t.redirect r).redirectAll rest

/-! ### Loops -/

/-- Leaves loops: all but the last of them entirely, the last one too or only its current round.
A loop around the shell itself can only be left by ending. -/
def leaveLoops (goOn : Bool) : Nat → Turn → Turn
  | 0, t => t
  | n + 1, t =>
    match unwind (fun f => isLoop f || isCall f) t.shell.stack t with
    | (frame :: rest, t) =>
      match frame with
      | .looped w c b =>
        if n = 0 && goOn then t.withStack (.looped w c b :: rest)
        else leaveLoops goOn n (t.withStack rest)
      | .loopTest w c b _ =>
        if n = 0 && goOn then t.withStack (.looped w c b :: rest)
        else leaveLoops goOn n (t.withStack rest)
      | .eachOf name values body =>
        if n = 0 && goOn then t.withStack (.eachOf name values body :: rest)
        else leaveLoops goOn n (t.withStack rest)
      | _ => t.withStack (frame :: rest)
    | ([], t) => t.withStack []

/-! ### Programs -/

def searched (t : Turn) : Text := (t.context.binding? "PATH".toList).getD []

def placesOf (f : Files) (path name : Text) : Except Cause (List Text) :=
  go .notFound (candidates path name)
where
  go (before : Cause) : List Text → Except Cause (List Text)
    | [] => .error before
    | place :: rest =>
      match f.node ⟨place.toBytes⟩ with
      | .error cause =>
        if cause = .notFound || cause = .notDirectory then go before rest else go cause rest
      | .ok node => if node.isRegular then .ok (place :: rest) else go .accessDenied rest

def isBinary (f : Files) (place : Text) : Bool :=
  let isStrange (b : UInt8) : Bool := b < 9 || (16 ≤ b && b < 27) || (28 ≤ b && b < 32) || b = 127
  match f.content ⟨place.toBytes⟩ with
  | .ok content => ((content.take 128).takeWhile (· ≠ 10)).any isStrange
  | .error _ => false

/-- Loads the program at the first of some places where that can be done. A file that is no program
is taken for a script. -/
def loadAt (f : Files) (call : Call) (before : Cause) : List Text → Except Cause Task
  | [] => .error before
  | place :: rest =>
    match load f interpreterLimit ⟨place.toBytes⟩ call with
    | .ok task => .ok task
    | .error cause =>
      if cause = .notExecutable && !isBinary f place then
        .ok (shellTask f { call with
          name := "/bin/sh".toList
          arguments := place :: call.arguments })
      else if cause = .notFound || cause = .notDirectory then loadAt f call before rest
      else loadAt f call cause rest

def runReason (cause : Cause) : Text :=
  if cause = .notFound || cause = .notDirectory then "not found".toList else reason cause

def runStatus (cause : Cause) : Nat :=
  if [Cause.notFound, .notDirectory, .tooManyLinks, .nameTooLong].contains cause then 127 else 126

end Turn

end Machine

end Proctor
