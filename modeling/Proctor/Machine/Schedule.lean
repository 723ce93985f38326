import Proctor.Machine.Interpreter

/-!
# Taking turns

Of the processes that can do something, the one that has been ready longest acts next, and the clock
moves to its time. A process that waits for a child, for input that may still come, or for room in a
pipe cannot act.
-/

set_option autoImplicit false

namespace Proctor

namespace Machine

open Shell Tool

def isReadable (m : Machine) (c : Channel) : Bool :=
  match c with
  | .intake pipe =>
    match m.pipes.lookup pipe with
    | none => true
    | some p => !p.isEmpty || !m.hasWriter pipe
  | _ => true

def isWritable (m : Machine) (c : Channel) : Bool :=
  match c with
  | .outlet pipe =>
    match m.pipes.lookup pipe with
    | none => true
    | some p => !p.isFull || !m.hasReader pipe
  | _ => true

def canRead (m : Machine) (p : Process) (descriptor : Nat) : Bool :=
  (p.descriptors.lookup descriptor).all m.isReadable

def canWrite (m : Machine) (p : Process) (descriptor : Nat) : Bool :=
  (p.descriptors.lookup descriptor).all m.isWritable

/-- The time at which a process can act, if it can do so without another one. -/
def wakes? (m : Machine) (p : Process) : Option Nat :=
  let when_ (b : Bool) : Option Nat := if b then some p.ready else none
  if p.stopped then none
  else
    match p.task with
    | .shell s =>
      match s.stack with
      | .await children _ :: _ => when_ (children.any m.hasEnded)
      | .waiting children _ :: _ => when_ (children.all m.hasEnded || !s.pending.isEmpty)
      | .gather _ pipe child _ :: _ =>
        let hasMore := ((m.pipes.lookup pipe).map fun q => !q.isEmpty).getD false
        when_ (hasMore || (m.hasEnded child && m.isReadable (.intake pipe)))
      | .readLine .. :: _ => when_ (m.canRead p 0 || !s.pending.isEmpty)
      | .run _ :: _ => when_ (m.canWrite p 1)
      | _ => some p.ready
    | .listener .. => when_ (m.canRead p 0)
    | .tool (.read descriptor _) => when_ (m.canRead p descriptor)
    | .tool (.write descriptor _ _) => when_ (m.canWrite p descriptor)
    | .tool (.await child limit _) =>
      if m.hasEnded child then some p.ready else limit.map fun limit => p.ready + limit
    | .tool _ => some p.ready

def next? (m : Machine) : Option (Nat × Process) :=
  m.processes.foldl (fun best p =>
    match m.wakes? p, best with
    | none, _ => best
    | some time, none => some (time, p)
    | some time, some (least, q) => if time < least then some (time, p) else some (least, q)) none

def actShell (m : Machine) (p : Process) (s : ShellState) : Machine :=
  let t := Interpreter.turn { machine := m, process := p, shell := s }
  let later (task : Task) (delay : Nat) : Machine :=
    t.machine.update { t.process with ready := t.machine.clock + delay, task }
  match t.finished, t.become with
  | some status, _ => t.machine.finish p.pid status
  | none, some task => later (task.located p.pid p.parent) (t.cost + loadCost)
  | none, none => later (.shell t.shell) t.cost

def actListener (m : Machine) (p : Process) (s : ShellState) (parts : List Text) : Machine :=
  let ready := m.clock + stepCost
  let starts : Machine :=
    let stack : List Frame := [.script { rest := parts.reverse.flatten, isShown := true }]
    m.update { p with ready, task := .shell { s with stack } }
  match p.descriptors.lookup 0 with
  | none => starts
  | some channel =>
    match m.supply channel with
    | .some text =>
      (m.take channel text.length).update { p with ready, task := .listener s (text :: parts) }
    | _ => starts

def freeDescriptor (ds : Descriptors) : Nat :=
  ((List.range (ds.length + 1)).find? fun n => (ds.lookup (n + 3)).isNone).getD ds.length + 3

def openFor (m : Machine) (p : Process) (path : Text) :
    Except Cause (Nat × Descriptors × Machine) :=
  let free := freeDescriptor p.descriptors
  let attach (c : Channel) (m : Machine) : Nat × Descriptors × Machine :=
    (free, p.descriptors.set free (some c), m)
  let reading (number : Nat) : Nat × Descriptors × Machine :=
    let (c, m) := m.channelTo { number, reads := true }
    attach c m
  match (m.filesFor p).openForReading (pathOf path) with
  | .error cause => .error cause
  | .ok number =>
    match (m.files.get number).body with
    | .descriptor source =>
      match p.descriptors.lookup source with
      | none => .error .notFound
      | some (.opened file) =>
        .ok (((m.opens.lookup file).map fun o => reading o.number).getD (attach (.opened file) m))
      | some c => .ok (attach c m)
    | _ => .ok (reading number)

def startChild (m : Machine) (p : Process) (call : Call) (streams : List (Nat × Option Nat)) :
    Except Cause (Nat × Machine) := do
  let task ← loadOrInterpret (m.filesFor p) call
  let redirect (ds : Descriptors) (stream : Nat × Option Nat) : Descriptors :=
    ds.set stream.1 (stream.2.bind fun n => p.descriptors.lookup n)
  let child : Process :=
    { p with
      pid := m.fresh
      parent := p.pid
      ready := m.clock + forkCost + loadCost
      moved := 0
      descriptors := streams.foldl redirect p.descriptors
      task := task.located m.fresh p.pid }
  return (child.pid, { m with fresh := m.fresh + 1, processes := m.processes ++ [child] })

def streamOf (m : Machine) (p : Process) (descriptor : Nat) : Stream :=
  match p.descriptors.lookup descriptor with
  | none => .closed
  | some (.opened file) =>
    match m.opens.lookup file with
    | some o => .node o.number o.offset
    | none => .closed
  | some _ => .pipe

def actTool (m : Machine) (p : Process) (a : Act) : Machine :=
  let later (m : Machine) (p : Process) (next : Act) (cost : Nat := stepCost) : Machine :=
    m.update { p with ready := m.clock + cost, task := .tool next }
  match a with
  | .finish status => m.finish p.pid (.exited status)
  | .die signal => m.finish p.pid (.killed signal)
  | .write descriptor text next =>
    match p.descriptors.lookup descriptor with
    | none => later m p (next (some .badDescriptor))
    | some channel =>
      match m.write channel text with
      | .done m =>
        later m { p with moved := p.moved + text.length } (next none)
          (stepCost + moveCost p.moved text.length + weightCost (m.weight channel))
      | .refused cause => later m p (next (some cause))
      | .broken =>
        if p.ignored.contains Signal.pipe then later m p (next (some .brokenPipe))
        else m.finish p.pid (.killed Signal.pipe)
  | .read descriptor next =>
    match p.descriptors.lookup descriptor with
    | none => later m p (next (.error .badDescriptor))
    | some channel =>
      match m.supply channel with
      | .some text =>
        let part := text.take readSize
        later (m.take channel part.length) { p with moved := p.moved + part.length }
          (next (.ok part)) (stepCost + moveCost p.moved part.length)
      | .none => later m p (next (.ok []))
      | .later => m
      | .refused cause => later m p (next (.error cause))
  | .giveBack descriptor count next =>
    match p.descriptors.lookup descriptor with
    | none => later m p (next ())
    | some channel => later (m.giveBack channel count) p (next ())
  | .files change next =>
    let f := m.filesFor p
    later (m.adopt (change f)) p (next f)
  | .look descriptor next => later m p (next (m.streamOf p descriptor))
  | .open_ path next =>
    match m.openFor p path with
    | .error cause => later m p (next (.error cause))
    | .ok (descriptor, descriptors, m) => later m { p with descriptors } (next (.ok descriptor))
  | .close descriptor next =>
    later m { p with descriptors := p.descriptors.set descriptor none } (next ())
  | .pipe next =>
    let (pipe, m) := m.addPipe {}
    let reader := freeDescriptor p.descriptors
    let descriptors := p.descriptors.set reader (some (.intake pipe))
    let writer := freeDescriptor descriptors
    let descriptors := descriptors.set writer (some (.outlet pipe))
    later m { p with descriptors } (next reader writer)
  | .pause nanoseconds next => later m p (next ()) (stepCost + nanoseconds)
  | .enter directory next => later m { p with here := directory } (next ())
  | .ignore signal next => later m { p with ignored := signal :: p.ignored } (next ())
  | .become call next =>
    match loadOrInterpret (m.filesFor p) call with
    | .ok task =>
      m.update { p with ready := m.clock + loadCost, task := task.located p.pid p.parent }
    | .error cause => later m p (next cause)
  | .start call streams next =>
    match m.startChild p call streams with
    | .ok (child, m) => later m p (next (.ok child)) forkCost
    | .error cause => later m p (next (.error cause))
  | .await child _ next => later m p (next (m.ended.lookup child))
  | .signal pid signal next =>
    let (isSent, m) := m.send pid signal
    match m.processes.find? fun q => q.pid = p.pid with
    | some p => later m p (next isSent)
    | none => m
  | .signalBelow signal next => later (m.sendBelow p.pid signal) p (next ())
  | .self next => later m p (next p.pid)

def act (m : Machine) (p : Process) : Machine :=
  match p.task with
  | .shell s => m.actShell p s
  | .listener s parts => m.actListener p s parts
  | .tool a => m.actTool p a

/-- Lets processes act until `done` holds, nothing can happen any more, or the clock would pass the
horizon. -/
def runUntil (done : Machine → Bool) (horizon : Option Nat) : Nat → Machine → Machine
  | 0, m => m
  | fuel + 1, m =>
    if done m then m
    else
      match m.next? with
      | none => { m with clock := max m.clock (horizon.getD m.clock) }
      | some (time, p) =>
        let time := max m.clock time
        match horizon with
        | some h =>
          if h < time then { m with clock := max m.clock h }
          else runUntil done horizon fuel ({ m with clock := time }.act p)
        | none => runUntil done horizon fuel ({ m with clock := time }.act p)

end Machine

end Proctor
