import Proctor.Machine.Builtin.Basic

/-!
# Commands about processes

What a shell does at signals, the signals it sends, and the children it waits for.
-/

set_option autoImplicit false

namespace Proctor

namespace Machine

open Shell Tool

namespace Builtin

/-! ### Signals -/

def signalName (n : Nat) : Text := if n = 0 then "EXIT".toList else (Signal.name n).toList

def setTrap (t : Turn) (signal : Nat) (action : Option Text) : Turn :=
  let traps := t.shell.traps.filter fun trap => trap.1 ≠ signal
  let ignored := t.process.ignored.filter (· ≠ signal)
  let traps :=
    match action with
    | none => traps
    | some script => (signal, script) :: traps
  let ignored := if action == some [] && signal ≠ 0 then signal :: ignored else ignored
  { t with
    shell := { t.shell with traps }
    process := { t.process with ignored } }

def setTraps (action : Option Text) : Turn → List Text → Turn
  | t, [] => t
  | t, name :: rest =>
    match Signal.ofText? name with
    | none => (t.write 2 ("trap: ".toList ++ name ++ ": bad trap\n".toList)).withStatus 1
    | some n => setTraps action (setTrap t n action) rest

def listTraps (t : Turn) : Text :=
  (List.range 65).flatMap fun n =>
    match t.shell.traps.lookup n with
    | none => []
    | some script => "trap -- ".toList ++ quoted script ++ ' ' :: signalName n ++ ['\n']

def trap : Turn → List Text → Turn :=
  withOptions "" fun t given =>
    let t := t.withStatus 0
    match given.rest with
    | [] => t.say (listTraps t)
    | [name] => setTraps none t [name]
    | first :: names =>
      if (Text.decimal? first).any (· ≤ 64) then setTraps none t (first :: names)
      else if first = ['-'] then setTraps none t names
      else setTraps (some first) t names

def signalSelf (t : Turn) (signal : Nat) : Turn :=
  match reaction { t.process with task := .shell t.shell } signal with
  | .none => t
  | .dies => { t with finished := some (.killed signal) }
  | .stops => { t with process := { t.process with stopped := true } }
  | .goesOn => t
  | .notes => { t with shell := { t.shell with pending := t.shell.pending ++ [signal] } }

/-! ### Jobs -/

def jobsNow (t : Turn) : List Job := t.shell.jobs.reverse

def jobNamed (t : Turn) (target : Text) : Except Text Job :=
  let missing (what : String) : Except Text Job := .error what.toList
  match target.drop 1 with
  | [] => ((jobsNow t)[0]?.map .ok).getD (missing "No current job")
  | ['%'] => ((jobsNow t)[0]?.map .ok).getD (missing "No current job")
  | ['+'] => ((jobsNow t)[0]?.map .ok).getD (missing "No current job")
  | ['-'] => ((jobsNow t)[1]?.map .ok).getD (missing "No previous job")
  | n =>
    match (Text.decimal? n).bind fun n => t.shell.jobs.find? fun j => j.number = n with
    | some job => .ok job
    | none => .error ("No such job: ".toList ++ target)

/-- Sends a signal to a process by number. Jobs and groups of processes cannot be reached. -/
def signalOne (signal : Nat) (t : Turn) (target : Text) : Turn :=
  if t.failed then t
  else
    let unknown : Turn := (t.complain "No such process\n".toList).withStatus 1
    let reach (pid : Nat) : Turn :=
      if pid = t.process.pid || pid = 0 then signalSelf t signal
      else
        match t.machine.send pid signal with
        | (true, machine) => { t with machine }
        | (false, machine) => if isZombie pid then { t with machine } else unknown
    match target with
    | '%' :: _ =>
      match jobNamed t target with
      | .error message => t.refuse message
      | .ok _ => unknown
    | '-' :: n =>
      match number n with
      | .error message => t.refuse message
      | .ok _ => unknown
    | n =>
      match number n with
      | .error message => t.refuse message
      | .ok pid => reach pid
where
  /-- A child that has ended, which the shell has not seen. -/
  isZombie (pid : Nat) : Bool :=
    (t.machine.ended.lookup pid).isSome &&
      t.shell.jobs.any fun j => j.children.contains pid && !j.isSeen

def killUsage : String :=
  "Usage: kill [-s sigspec | -signum | -sigspec] [pid | job]... or\nkill -l [exitstatus]"

def listSignals (t : Turn) (args : List Text) : Turn :=
  let t := t.withStatus 0
  match args with
  | [] => t.say ((List.range 65).flatMap fun n =>
      (if n = 0 then ['0'] else (Signal.name n).toList) ++ ['\n'])
  | a :: _ =>
    match number a with
    | .error message => t.refuse message
    | .ok n =>
      let signal := if 128 < n then n - 128 else n
      if 0 < signal && signal < 65 then t.say ((Signal.name signal).toList ++ ['\n'])
      else t.refuse ("invalid signal number or exit status: ".toList ++ a)

def kill (t : Turn) (args : List Text) : Turn :=
  let go (signal : Nat) (targets : List Text) : Turn :=
    if targets.isEmpty then t.refuse killUsage.toList
    else targets.foldl (signalOne signal) (t.withStatus 0)
  let byOptions (args : List Text) : Turn :=
    withOptions "ls:" (fun t given =>
      let wanted := (given.options.filter fun o => o.1 == 's').map Prod.snd
      if given.options.any fun o => o.1 == 'l' then listSignals t given.rest
      else
        match wanted.getLast? with
        | none => go Signal.terminate given.rest
        | some name =>
          match Signal.ofText? name with
          | some n => go n given.rest
          | none => t.refuse ("invalid signal number or name: ".toList ++ name)) t args
  match args with
  | ('-' :: name) :: targets =>
    match Signal.ofText? name with
    | some n => if name.isEmpty then byOptions args else go n targets
    | none => byOptions args
  | targets => go Signal.terminate targets

/-! ### Waiting -/

def waitTargets (t : Turn) : List Text → Except Text (List Nat)
  | [] => .ok []
  | target :: rest => do
    let children ←
      if target.head? == some '%' then (jobNamed t target).map fun j => j.children.getLast?.toList
      else
        (number target).map fun pid =>
          if t.shell.jobs.any fun j => j.children.getLast? == some pid then [pid] else []
    return children ++ (← waitTargets t rest)

def wait : Turn → List Text → Turn :=
  withOptions "" fun t given =>
    if given.rest.isEmpty then
      (t.withStatus 0).push [.waiting (t.shell.jobs.flatMap Job.children) none]
    else
      match waitTargets t given.rest with
      | .error message => t.refuse message
      | .ok [] => t.withStatus 127
      | .ok pids => t.push [.waiting pids pids.getLast?]

def ending (status : Status) : Text :=
  match status.signal?, status.code? with
  | some n, _ => (Signal.description n).toList
  | none, some 0 => "Done".toList
  | none, some n => ("Done(" ++ toString n ++ ")").toList
  | none, none => []

def jobLine (t : Turn) (order : List Job) (withPid : Bool) (job : Job) : Text :=
  let isAt (n : Nat) : Bool := (order[n]?.map Job.number) == some job.number
  let mark := if isAt 0 then '+' else if isAt 1 then '-' else ' '
  let last := job.children.getLast?.getD 0
  let state :=
    if job.children.all t.machine.hasEnded then
      ((t.machine.ended.lookup last).map ending).getD "Done".toList
    else "Running".toList
  let pid := if withPid then Text.ofNat (job.children.headD 0) ++ [' '] else []
  let start := '[' :: Text.ofNat job.number ++ [']', ' ', mark, ' '] ++ pid ++ state
  let blanks := List.replicate (max 1 (33 - start.length)) ' '
  start ++ blanks ++ (job.children.tail.flatMap fun _ => " | ".toList) ++ ['\n']

def jobs : Turn → List Text → Turn :=
  withOptions "lp" fun t given =>
    let chosen : Except Text (List Job) :=
      if given.rest.isEmpty then .ok (jobsNow t) else given.rest.mapM (jobNamed t)
    match chosen with
    | .error message => t.refuse message
    | .ok chosen =>
      let has (c : Char) : Bool := given.options.any fun o => o.1 == c
      let line (order : List Job) (job : Job) : Text :=
        if has 'p' then Text.ofNat (job.children.headD 0) ++ ['\n']
        else jobLine t order (has 'l') job
      let (text, left) := chosen.foldl
        (fun ((text, order) : Text × List Job) job =>
          let isOver (j : Job) : Bool :=
            j.number = job.number && j.children.all t.machine.hasEnded
          (text ++ line order job, order.filter fun j => !isOver j))
        ([], jobsNow t)
      let t' := (t.withStatus 0).say text
      { t' with shell := { t'.shell with jobs := left.reverse } }

def moveJob : Turn → List Text → Turn :=
  withOptions "" fun t given =>
    match jobNamed t (given.rest.headD ['%']) with
    | .error message => t.refuse message
    | .ok job => t.refuse ("job ".toList ++ Text.ofNat job.number ++
        " not created under job control".toList)

def addJob (t : Turn) (children : List Nat) : Turn :=
  let isOver (j : Job) : Bool := j.isKnown && j.children.all t.machine.hasEnded
  let old := t.shell.jobs.filter fun j => !isOver j
  let taken := old.map Job.number
  let number := ((List.range (old.length + 1)).find? fun n => !taken.contains (n + 1)).getD 0 + 1
  { t with shell := { t.shell with jobs := old ++ [{ number, children }] } }

/-- Takes note of the jobs that have ended. Whenever a shell waits for something, it sees them
too. -/
def seeEnds (t : Turn) : Turn :=
  let see (j : Job) : Job :=
    if j.children.all t.machine.hasEnded then { j with isSeen := true } else j
  { t with shell := { t.shell with jobs := t.shell.jobs.map see } }

def markKnown (t : Turn) (children : List Nat) : Turn :=
  let know (j : Job) : Job :=
    if j.children.any children.contains then { j with isKnown := true } else j
  { t with shell := { t.shell with jobs := t.shell.jobs.map know } }

/-! ### Time and limits -/

def times (t : Turn) (_ : List Text) : Turn :=
  let line := "0m0.000000s 0m0.000000s\n".toList
  (t.withStatus 0).say (line ++ line)

def ulimit : Turn → List Text → Turn :=
  withOptions "HSatfdscmlpnvwrTbe" fun t given =>
    let t := t.withStatus 0
    match given.rest with
    | [] => t.say "unlimited\n".toList
    | value :: _ =>
      if value = "unlimited".toList || (Text.decimal? value).isSome then t
      else t.refuse "bad number".toList

end Builtin

end Machine

end Proctor
