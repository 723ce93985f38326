import Proctor.Drain
import Proctor.Host
import Proctor.Machine.Schedule

/-!
# The machine as a host

Starting a program on the machine, waiting for it at most until its limit, and collecting what it
has written. A program that is still running then is killed, but not those that it has started: they
may hold its output open, which is read for a little longer and then left alone.
-/

set_option autoImplicit false

namespace Proctor

namespace Machine

open Shell

/-- Steps after which a machine is taken to go on for ever. -/
def patience : Nat := 20000000

/-- Nanoseconds for which output is still read once the program is gone. -/
def grace : Nat := 100000000

/-- The pipe that takes what programs print on the error channel of the run. -/
def console : Nat := 0

def environment : List (Text × Text) :=
  [("HOME".toList, "/root".toList),
   ("PATH".toList, (String.intercalate ":" searchPath).toList)]

def furnish (f : Files) (parent : Nat) (name : String) (body : Body) (mode : Nat := 0o755) :
    Nat × Files :=
  f.add parent (Bytes.ofString name) body mode

def furnishDirectory (f : Files) (parent : Nat) (name : String) (mode : Nat := 0o755) :
    Nat × Files :=
  furnish f parent name (.directory [] parent) mode

def devices : List (String × Body) :=
  [("null", .device .null), ("zero", .device .zero), ("full", .device .full),
   ("tty", .device .terminal), ("stdin", .descriptor 0), ("stdout", .descriptor 1),
   ("stderr", .descriptor 2)]

/-- Files of a machine with the known programs, an empty working directory with two more above it
that nobody else uses, and nothing else. -/
def initialFiles : Files :=
  let root : Node := { body := .directory [] Files.root, mode := 0o755 }
  let f : Files := { nodes := #[root], here := Files.root }
  let (_, f) := furnish f Files.root "bin" (.link (.ofString "usr/bin")) 0o777
  let (_, f) := furnish f Files.root "sbin" (.link (.ofString "usr/sbin")) 0o777
  let (dev, f) := furnishDirectory f Files.root "dev"
  let f := devices.foldl (fun f (name, body) => (furnish f dev name body 0o666).2) f
  let (descriptors, f) := furnishDirectory f dev "fd"
  let f := (List.range 10).foldl (fun f n =>
    (furnish f descriptors (toString n) (.descriptor n) 0o666).2) f
  let (etc, f) := furnishDirectory f Files.root "etc"
  let users := Bytes.ofString ("".intercalate (User.all.map User.line))
  let (_, f) := furnish f etc "passwd" (.file users) 0o644
  let f := ["home", "media", "mnt", "opt", "proc", "srv", "sys"].foldl
    (fun f name => (furnishDirectory f Files.root name).2) f
  let (_, f) := furnishDirectory f Files.root "root" 0o700
  let (_, f) := furnishDirectory f Files.root "tmp" 0o1777
  let (usr, f) := furnishDirectory f Files.root "usr"
  let (bin, f) := furnishDirectory f usr "bin"
  let f := ["include", "lib", "sbin", "share", "src"].foldl
    (fun f name => (furnishDirectory f usr name).2) f
  let (more, f) := furnishDirectory f usr "local"
  let f := ["bin", "lib", "sbin", "share"].foldl
    (fun f name => (furnishDirectory f more name).2) f
  let (changing, f) := furnishDirectory f Files.root "var"
  let f := ["cache", "lib", "log", "spool"].foldl
    (fun f name => (furnishDirectory f changing name).2) f
  let (_, f) := furnishDirectory f changing "tmp" 0o1777
  let f := programNames.foldl (fun f name => (furnish f bin name (.program name)).2) f
  let (run, f) := furnishDirectory f Files.root "run"
  let (suite, f) := furnishDirectory f run "suite"
  let (here, f) := furnishDirectory f suite "work"
  { f with here }

def initial : Machine :=
  { files := initialFiles, pipes := [(console, { captured := true })] }

structure Started where
  pid : Nat
  stdout : Nat
  stderr : Option Nat
  machine : Machine

def start (m : Machine) (i : Invocation) : Except Cause Started := do
  let name := Text.ofString i.program
  if name.contains '\x00' || i.arguments.any (·.contains 0) then .error .nulInArgument
  else
    let call : Tool.Call := { name, arguments := i.arguments.map Bytes.toText, environment }
    let task ← loadProgram m.files call
    let (input, m) := m.channelTo
      { number := ((m.files.number true (.ofString "/dev/null")).toOption).getD Files.root
        reads := true }
    let (stdout, m) := m.addPipe { captured := true }
    let (stderr, m) : Option Nat × Machine :=
      if i.keepsErrors then
        let (pipe, m) := m.addPipe { captured := true }
        (some pipe, m)
      else (none, m)
    let p : Process :=
      { pid := m.fresh
        parent := 0
        ready := m.clock + forkCost + loadCost
        descriptors := [(0, input), (1, .outlet stdout), (2, .outlet (stderr.getD console))]
        here := m.files.here
        task := task.located m.fresh 0 }
    return ⟨p.pid, stdout, stderr,
      { m with fresh := m.fresh + 1, processes := m.processes ++ [p] }⟩

def attempts (m : Machine) (pipe : Nat) : List Attempt :=
  let parts := ((m.pipes.lookup pipe).map Pipe.back).getD []
  parts.reverse.map (fun t => .part (Text.toBytes t)) ++ if m.hasWriter pipe then [] else [.ended]

/-- Waits for a program that was started, and says whether it had to be killed. -/
def await (m : Machine) (pid : Nat) (deadline : Option Nat) : Bool × Machine :=
  let m := m.runUntil (fun m => m.hasEnded pid) deadline patience
  if m.hasEnded pid then (false, m) else (deadline.isSome, m.finish pid (.killed Signal.kill))

def launch (i : Invocation) (limit : Option Duration) : Operation Machine Outcome := fun m =>
  match m.start i with
  | .error cause => (.error cause, m)
  | .ok s =>
    let deadline := limit.map fun d => s.machine.clock + d.toNanoseconds
    let (timedOut, m) := s.machine.await s.pid deadline
    let pipes := s.stdout :: s.stderr.toList
    let closed (m : Machine) : Bool := pipes.all fun pipe => !m.hasWriter pipe
    let m := m.runUntil closed (deadline.map fun d => max d (m.clock + grace)) patience
    let collected : Except Cause Outcome := do
      let stdout ← Drain.after (m.attempts s.stdout)
      let stderr ←
        match s.stderr with
        | some pipe => Drain.after (m.attempts pipe)
        | none => .ok []
      return {
        status := (m.ended.lookup s.pid).getD (.killed Signal.kill)
        stdout
        stderr
        timedOut }
    (collected, m)

def furnished (script : Bytes) : Machine :=
  let i : Invocation := { program := "sh", arguments := [Bytes.ofString "-c", script] }
  (launch i none initial).2

def listing (m : Machine) (p : Path) : Except Cause Listing := do
  let names ← m.files.names p
  return names.map fun name =>
    let kind := (m.files.node (p.join ⟨name⟩)).map fun node =>
      if node.isRegular then .regular else .other
    .ok { name, kind }

def changing (change : Files → Except Cause Unit × Files) : Operation Machine Unit := fun m =>
  let (result, files) := change m.files
  (result, { m with files })

def host : Host Machine where
  isDirectory m p := m.files.isDirectory p
  isFile m p := m.files.isFile p
  isPresent m p := m.files.isPresent p
  content m p := m.files.content p
  listing := listing
  removeTree p := changing fun f => f.removeTree p
  createDirectories p := changing fun f => f.createDirectories p
  launch := launch
  now m := m.clock

def errors (m : Machine) : Bytes :=
  Text.toBytes (((m.pipes.lookup console).map Pipe.content).getD [])

def withoutErrors (m : Machine) : Machine :=
  { m with pipes := setKey console { captured := true } m.pipes }

end Machine

end Proctor
