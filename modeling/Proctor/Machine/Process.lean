import Proctor.Shell.Context
import Proctor.Shell.Lexer
import Proctor.Tool.Work

/-!
# Processes

What a process holds: its descriptors, its working directory, and what it is doing. A shell has a
stack of things still to do; a tool has the acts that are left of its work. Descriptors lead to
files that were opened, which may be shared, and to the ends of pipes.
-/

set_option autoImplicit false

namespace Proctor

namespace Machine

open Shell

inductive Channel where
  | opened (file : Nat)
  | intake (pipe : Nat)
  | outlet (pipe : Nat)
  deriving DecidableEq, Repr, Inhabited

abbrev Descriptors := List (Nat × Channel)

def Descriptors.set (ds : Descriptors) (n : Nat) (channel : Option Channel) : Descriptors :=
  let others := ds.filter fun d => d.1 ≠ n
  match channel with
  | none => others
  | some c => (n, c) :: others

/-- A file that was opened. Those who share it read and write on where the last of them stopped. -/
structure Opened where
  number : Nat
  offset : Nat := 0
  appends : Bool := false
  reads : Bool := false
  writes : Bool := false
  deriving Inhabited

/-- Bytes on their way: those at the front in order, then parts, last one first. -/
structure Pipe where
  front : Text := []
  back : List Text := []
  /-- The number of characters that are on their way. -/
  size : Nat := 0
  /-- Someone outside reads it. -/
  captured : Bool := false
  /-- It has a name, and nobody has opened that end of it yet. -/
  awaitsReader : Bool := false
  awaitsWriter : Bool := false
  deriving Inhabited

namespace Pipe

def capacity : Nat := 65536

def holding (t : Text) : Pipe := { front := t, size := t.length }

def push (p : Pipe) (t : Text) : Pipe :=
  { p with back := t :: p.back, size := p.size + t.length }

def content (p : Pipe) : Text :=
  if p.back.isEmpty then p.front else p.front ++ p.back.reverse.flatten

def drop (p : Pipe) (count : Nat) : Pipe :=
  { p with front := p.content.drop count, back := [], size := p.size - count }

def isEmpty (p : Pipe) : Bool := p.size = 0

def isFull (p : Pipe) : Bool := !p.captured && capacity ≤ p.size

end Pipe

/-! ### Shells -/

structure Redirected where
  descriptor : Nat
  direction : Direction
  target : Text
  deriving Inhabited

/-- How far a simple command has been made ready: what is still to be expanded, and what has been.
-/
structure Progress where
  line : Nat
  words : List Word
  redirections : List Redirection
  assignments : List Word
  fields : List Text := []
  targets : List Redirected := []
  settings : List (Text × Text) := []
  /-- The outputs known for the word that is being expanded. -/
  outputs : List Text := []
  /-- How the last command inside a word ended. -/
  answered : Option Nat := none
  /-- The redirections have been done. -/
  isRedirected : Bool := false
  /-- The descriptors as they were, if redirections have changed them. -/
  before : Option Descriptors := none
  /-- The variables as they were, where settings are only lent. -/
  lent : List (Text × Option Variable) := []

inductive Frame where
  | script (source : Source)
  | run (c : Command)
  | simple (p : Progress)
  /-- Expands the targets of redirections for a compound command, which may get a process of its
  own. -/
  | compound (body : Command) (ownProcess : Bool) (todo : List Redirection)
      (done : List Redirected) (outputs : List Text)
  | values (name : Text) (todo : List Word) (done : List Text) (body : Command)
      (outputs : List Text)
  | subject (word : Word) (arms : List (List Word × Command)) (outputs : List Text)
  | arm (subject : Text) (patterns : List Word) (body : Command)
      (arms : List (List Word × Command)) (outputs : List Text)
  /-- Collects the output of a child for the frame that needs it. -/
  | gather (needing : Frame) (pipe child : Nat) (parts : List Text)
  | onSuccess (c : Command)
  | onFailure (c : Command)
  | negate
  | decide (yes no : Command)
  | looped (whileTrue : Bool) (condition body : Command)
  | loopTest (whileTrue : Bool) (condition body : Command) (status : Nat)
  | eachOf (name : Text) (values : List Text) (body : Command)
  | restore (descriptors : Descriptors)
  /-- The end of a simple command: descriptors and variables that were lent to it are given back,
  and its failure may end the shell. -/
  | completed (descriptors : Option Descriptors) (lent : List (Text × Option Variable))
  /-- The end of a function: its parameters, its variables and maybe the options are given back. -/
  | leave (parameters : Parameters) (locals : List (Text × Option Variable))
      (options : Option (List Char))
  /-- The end of a text that was evaluated, or of a file that was read as commands. -/
  | evaluated (caller : Option Text)
  | sourced (caller : Option Text)
  /-- Errors above it do not end the shell. -/
  | guarded (caller : Option Text)
  /-- The end of what was to be done at a signal, or at the end of the shell. -/
  | settle (status : Nat) (saved : Option Nat)
  | closing (status : Nat) (saved : Option Nat)
  /-- Waits for a command in the foreground: those children that have not been seen to end, and the
  one that counts. -/
  | await (children : List Nat) (last : Nat)
  /-- Waits because it was asked to. -/
  | waiting (children : List Nat) (last : Option Nat)
  | readLine (names : List Text) (raw : Bool) (line : List (Char × Bool)) (escaped : Bool)
  deriving Inhabited

structure Job where
  number : Nat
  children : List Nat
  /-- The shell has been asked to wait for it. -/
  isKnown : Bool := false
  /-- The shell has seen its end. -/
  isSeen : Bool := false
  deriving Inhabited

structure ShellState where
  context : Context
  stack : List Frame := []
  /-- What to do at a signal. -/
  traps : List (Nat × Text) := []
  pending : List Nat := []
  jobs : List Job := []
  /-- A shell that runs a script file starts another process even for the last command. -/
  keepsItself : Bool := false
  /-- The shell itself is only a test for something else. -/
  isTested : Bool := false
  /-- The loops around the command that the shell was started for. -/
  outerLoops : Nat := 0
  /-- How things stood when something had to be done at a signal. -/
  saved : Option Nat := none
  deriving Inhabited

inductive Task where
  | shell (s : ShellState)
  /-- A shell that reads its script from its input first: what it has read, last part first. -/
  | listener (s : ShellState) (parts : List Text)
  | tool (act : Tool.Act)
  deriving Inhabited

def Task.located (pid parent : Nat) : Task → Task :=
  let locate (s : ShellState) : ShellState :=
    let c := (s.context.setVariable "PPID".toList (Text.ofNat parent))
    { s with context := { c with pid, parent } }
  fun
  | .shell s => .shell (locate s)
  | .listener s parts => .listener (locate s) parts
  | task => task

structure Process where
  pid : Nat
  parent : Nat
  /-- The time at which it can act next. -/
  ready : Nat
  descriptors : Descriptors
  /-- The working directory. -/
  here : Nat
  /-- The permissions that new files do not get. -/
  mask : Nat := 0o022
  ignored : List Nat := []
  stopped : Bool := false
  /-- Characters that it has read and written. -/
  moved : Nat := 0
  task : Task
  deriving Inhabited

end Machine

structure Machine where
  files : Files
  clock : Nat := 0
  processes : List Machine.Process := []
  pipes : List (Nat × Machine.Pipe) := []
  opens : List (Nat × Machine.Opened) := []
  /-- The pipes of nodes that are pipes. -/
  named : List (Nat × Nat) := []
  ended : List (Nat × Status) := []
  /-- The number that the next process, pipe or open file gets. -/
  fresh : Nat := 100
  deriving Inhabited

namespace Machine

open Shell

def setKey {α : Type} (key : Nat) (value : α) : List (Nat × α) → List (Nat × α)
  | [] => [(key, value)]
  | (k, v) :: rest => if k = key then (key, value) :: rest else (k, v) :: setKey key value rest

def holds (p : Process) (c : Channel) : Bool := p.descriptors.any fun d => d.2 == c

def hasReader (m : Machine) (pipe : Nat) : Bool :=
  ((m.pipes.lookup pipe).map fun p => p.captured || p.awaitsReader).getD false ||
    m.processes.any fun p => holds p (.intake pipe)

def hasWriter (m : Machine) (pipe : Nat) : Bool :=
  ((m.pipes.lookup pipe).map Pipe.awaitsWriter).getD false ||
    m.processes.any fun p => holds p (.outlet pipe)

def addPipe (m : Machine) (p : Pipe) : Nat × Machine :=
  (m.fresh, { m with pipes := (m.fresh, p) :: m.pipes, fresh := m.fresh + 1 })

def addOpened (m : Machine) (o : Opened) : Nat × Machine :=
  (m.fresh, { m with opens := (m.fresh, o) :: m.opens, fresh := m.fresh + 1 })

/-- What the time was when the clock was set going, in nanoseconds since 1970. -/
def clockStart : Nat := 1735689600000000000

/-- The files as a process sees them. -/
def filesFor (m : Machine) (p : Process) : Files :=
  { m.files with here := p.here, mask := p.mask, now := clockStart + m.clock }

def adopt (m : Machine) (f : Files) : Machine :=
  { m with files := { f with here := m.files.here, mask := m.files.mask } }

def channelTo (m : Machine) (o : Opened) : Channel × Machine :=
  match (m.files.get o.number).body with
  | .pipe =>
    let (pipe, m) : Nat × Machine :=
      match m.named.lookup o.number with
      | some pipe => (pipe, m)
      | none =>
        let (pipe, m) := m.addPipe { awaitsReader := true, awaitsWriter := true }
        (pipe, { m with named := (o.number, pipe) :: m.named })
    let p := (m.pipes.lookup pipe).getD {}
    let open_ (p : Pipe) : Machine := { m with pipes := setKey pipe p m.pipes }
    if o.writes then (.outlet pipe, open_ { p with awaitsWriter := false })
    else (.intake pipe, open_ { p with awaitsReader := false })
  | _ =>
    let (file, m) := m.addOpened o
    (.opened file, m)

inductive Written where
  | done (m : Machine)
  | broken
  | refused (cause : Cause)

def writeOpened (m : Machine) (file : Nat) (o : Opened) (t : Text) : Written :=
  if !o.writes then .refused .badDescriptor
  else
    match (m.files.get o.number).body with
    | .file content =>
      let offset := if o.appends then content.length else o.offset
      let files := { m.files with now := m.clock }.writeAt o.number offset t.toBytes
      .done { m.adopt files with
        opens := setKey file { o with offset := offset + t.length } m.opens }
    | .device .full => .refused .noSpace
    | _ => .done m

def weight (m : Machine) (c : Channel) : Nat :=
  match c with
  | .opened file =>
    match m.opens.lookup file with
    | some o => (m.files.get o.number).content.length
    | none => 0
  | _ => 0

def write (m : Machine) (c : Channel) (t : Text) : Written :=
  match c with
  | .opened file =>
    match m.opens.lookup file with
    | some o => m.writeOpened file o t
    | none => .refused .badDescriptor
  | .outlet pipe =>
    match m.pipes.lookup pipe with
    | some p =>
      if m.hasReader pipe then .done { m with pipes := setKey pipe (p.push t) m.pipes }
      else .broken
    | none => .broken
  | .intake _ => .refused .badDescriptor

inductive Supply where
  | some (text : Text)
  | none
  | later
  | refused (cause : Cause)

/-- Characters that a device without end gives at a time. -/
def blockSize : Nat := 4096

def readSize : Nat := 65536

def supply (m : Machine) (c : Channel) : Supply :=
  match c with
  | .opened file =>
    match m.opens.lookup file with
    | .none => .refused .badDescriptor
    | .some o =>
      if !o.reads then .refused .badDescriptor
      else
        match (m.files.get o.number).body with
        | .file content =>
          match content.drop o.offset with
          | [] => .none
          | bytes => .some (Bytes.toText (bytes.take readSize))
        | .device .zero => .some (List.replicate blockSize '\x00')
        | .device .full => .some (List.replicate blockSize '\x00')
        | .directory .. => .refused .isDirectory
        | _ => .none
  | .intake pipe =>
    match m.pipes.lookup pipe with
    | .none => .none
    | .some p =>
      if !p.isEmpty then .some p.content
      else if m.hasWriter pipe then .later
      else .none
  | .outlet _ => .refused .badDescriptor

def take (m : Machine) (c : Channel) (count : Nat) : Machine :=
  match c with
  | .opened file =>
    match m.opens.lookup file with
    | .none => m
    | .some o => { m with opens := setKey file { o with offset := o.offset + count } m.opens }
  | .intake pipe =>
    match m.pipes.lookup pipe with
    | .none => m
    | .some p =>
      { m with pipes := setKey pipe (p.drop count) m.pipes }
  | .outlet _ => m

def giveBack (m : Machine) (c : Channel) (count : Nat) : Machine :=
  match c with
  | .opened file =>
    match m.opens.lookup file with
    | .none => m
    | .some o => { m with opens := setKey file { o with offset := o.offset - count } m.opens }
  | _ => m

def finish (m : Machine) (pid : Nat) (status : Status) : Machine :=
  { m with
    processes := m.processes.filter fun p => p.pid ≠ pid
    ended := (pid, status) :: m.ended }

def update (m : Machine) (p : Process) : Machine :=
  { m with processes := m.processes.map fun q => if q.pid = p.pid then p else q }

def hasEnded (m : Machine) (pid : Nat) : Bool := !(m.processes.any fun p => p.pid = pid)

end Machine

end Proctor
