import Proctor.Machine.Command

/-!
# Running scripts

A shell takes the frame on top of its stack and does one thing: it reads the next command of its
script, opens a compound command into its parts, makes a simple one ready, or looks at how one has
ended. An expansion that needs the output of a command leaves its frame to wait for that output.
-/

set_option autoImplicit false

namespace Proctor

namespace Machine

open Shell Tool

def Frame.receive (output : Text) (status : Nat) : Frame → Frame
  | .simple p => .simple { p with outputs := p.outputs ++ [output], answered := some status }
  | .compound body ownProcess todo done outputs =>
    .compound body ownProcess todo done (outputs ++ [output])
  | .values name todo done body outputs => .values name todo done body (outputs ++ [output])
  | .subject word arms outputs => .subject word arms (outputs ++ [output])
  | .arm text patterns body arms outputs => .arm text patterns body arms (outputs ++ [output])
  | frame => frame

namespace Interpreter

def hiddenDescriptor (pipe : Nat) : Nat := 1000 + pipe

def startGathering (t : Turn) (body : Shell.Command) (c : Context) (needing : Frame) : Turn :=
  let (pipe, machine) := t.machine.addPipe {}
  let t := { t with machine }
  let descriptors := t.process.descriptors
  let child := { t.childShell false [.run body] with context := c }
  let (pid, t) := t.spawn (.shell child) (descriptors.set 1 (some (.outlet pipe))) wakeCost
  let t := t.withDescriptors (descriptors.set (hiddenDescriptor pipe) (some (.intake pipe)))
  t.push [.gather needing pipe pid []]

/-- Does an expansion for a frame. If it needs an output, the frame waits; if there is no expansion,
the shell gives up. -/
def expanding {α : Type} (t : Turn) (needing : Frame) (outputs : List Text) (x : Expanding α)
    (k : Turn → α → Turn) (wrong : Text → Turn := t.abandon) : Turn :=
  match x { context := t.context, outputs } with
  | .ok (a, s) => k (t.withContext s.context) a
  | .error (.trouble trouble) => wrong trouble.message
  | .error (.needs body c) => startGathering t body c needing

/-! ### Redirections -/

def expandTarget : Redirection → Expanding Redirected
  | .redirect descriptor direction target => do
    let homing : Homing := if direction = .here then .nowhere else .atStart
    return ⟨descriptor, direction, ← expandText homing target⟩
  | .awaited descriptor _ => return ⟨descriptor, .here, []⟩

def isDocument : Redirection → Bool
  | .redirect _ .here _ => true
  | _ => false

def isSound (r : Redirected) : Bool :=
  match r.direction, r.target with
  | .duplicateInput, [c] => c.isDigit || c == '-'
  | .duplicateOutput, [c] => c.isDigit || c == '-'
  | .duplicateInput, _ => false
  | .duplicateOutput, _ => false
  | _, _ => true

def badDescriptor : Text := "Syntax error: Bad fd number".toList

/-! ### Simple commands -/

def traced (t : Turn) (p : Progress) : Turn :=
  if !t.context.has 'x' then t
  else
    let value := (t.context.binding? "PS4".toList).getD []
    let script : Text := ": \"".toList ++ value ++ ['"']
    let start : Text :=
      match Parser.completeCommand [] { rest := script } with
      | .ok (some (.simple _ _ [_, word] _, _)) =>
        match expandText .nowhere word { context := t.context } with
        | .ok (start, _) => start
        | .error _ => value
      | _ => value
    let settings := p.settings.map fun (name, value) => name ++ '=' :: value
    let line := start ++ joinWith [' '] (settings ++ p.fields) ++ ['\n']
    match (p.before.getD t.process.descriptors).lookup 2 with
    | some channel => (t.writeChannel channel line).2
    | none => t

/-- Assigns for a simple command: for good, or only as long as the command runs. -/
def assign (t : Turn) (p : Progress) (name value : Text) : Turn × Progress :=
  let c := t.context
  let p := { p with settings := p.settings ++ [(name, value)] }
  let target := Command.target? c p.fields
  if p.fields.isEmpty then (t.withContext (c.setVariable name value), p)
  else if Command.isSpecial c p.fields then
    let c := c.setVariable name value
    let isExec := (target.map fun t => t.name = "exec".toList && !t.arguments.isEmpty).getD false
    (t.withContext (if isExec then c.exportVariable name else c), p)
  else
    let lent := if (p.lent.lookup name).isSome then p.lent else p.lent ++ [(name, c.lookup name)]
    (t.withContext ((c.setVariable name value).exportVariable name), { p with lent })

def redirectionFailed (t : Turn) (p : Progress) (message : Text) : Turn :=
  let t := (t.complain message).withStatus 2
  if Command.isSpecial t.context p.fields then t.giveUp 2 else Command.complete t p

def proceed : Nat → Turn → Progress → Turn
  | 0, t, _ => t
  | fuel + 1, t, p =>
    match p.words, p.redirections, p.assignments with
    | word :: rest, _, _ =>
      let x : Expanding (List Text) :=
        if Parser.isAssignment word && Command.isDeclaring t.context p.fields then do
          let (name, value) := assignmentParts word
          return [name ++ '=' :: (← expandText .inValue value)]
        else expandWord t.files word
      expanding t (.simple p) p.outputs x fun t fields =>
        proceed fuel t { p with words := rest, fields := p.fields ++ fields, outputs := [] }
    | [], r :: rest, _ =>
      let go (t : Turn) (target : Redirected) : Turn :=
        if isSound target then
          proceed fuel t
            { p with redirections := rest, targets := p.targets ++ [target], outputs := [] }
        else t.abandon badDescriptor
      if isDocument r then
        expanding t (.simple p) p.outputs (expandTarget r) go (redirectionFailed t p)
      else expanding t (.simple p) p.outputs (expandTarget r) go
    | [], [], assignments =>
      if !p.isRedirected then
        if p.targets.isEmpty then proceed fuel t { p with isRedirected := true }
        else
          let p := { p with isRedirected := true, before := some t.process.descriptors }
          match t.redirectAll p.targets with
          | .error message => redirectionFailed t { p with before := none } message
          | .ok t => proceed fuel t p
      else
        match assignments with
        | word :: rest =>
          let (name, value) := assignmentParts word
          expanding t (.simple p) p.outputs (expandText .inValue value) fun t value =>
            if t.context.isFrozen name then t.abandon (Trouble.readOnly name).message
            else
              let (t, p) := assign t p name value
              proceed fuel t { p with assignments := rest, outputs := [] }
        | [] => Command.carryOut (traced t p) p

def steps (p : Progress) : Nat :=
  p.words.length + p.redirections.length + p.assignments.length + 3

/-! ### Compound commands -/

def runApart (t : Turn) (body : Shell.Command) (targets : List Redirected) : Turn :=
  if Command.isLast t then
    match t.redirectAll targets with
    | .error message => (t.complain message).exit 2
    | .ok t => t.push [.run body]
  else
    let own := t.process.descriptors
    match t.redirectAll targets with
    | .error message => ((t.complain message).withStatus 2).checked
    | .ok t =>
      let (pid, t) := t.fork [.run body] t.process.descriptors
      (t.withDescriptors own).push [.await [pid] pid]

def compound (t : Turn) (body : Shell.Command) (ownProcess : Bool) :
    List Redirection → List Redirected → List Text → Turn
  | [], done, _ =>
    if ownProcess then runApart t body done
    else
      let saved := t.process.descriptors
      match t.redirectAll done with
      | .error message => ((t.complain message).withStatus 2).checked
      | .ok t => t.push [.run body, .restore saved]
  | r :: rest, done, outputs =>
    expanding t (.compound body ownProcess (r :: rest) done outputs) outputs (expandTarget r)
      fun t target =>
        if isSound target then compound t body ownProcess rest (done ++ [target]) []
        else t.abandon badDescriptor

def values (t : Turn) (name : Text) (body : Shell.Command) :
    List Word → List Text → List Text → Turn
  | [], done, _ =>
    if done.isEmpty then t.withStatus 0 else t.push [.eachOf name done body]
  | word :: rest, done, outputs =>
    expanding t (.values name (word :: rest) done body outputs) outputs (expandWord t.files word)
      fun t fields => values t name body rest (done ++ fields) []

def arms (t : Turn) (subject : Text) : List (List Word × Shell.Command) → Turn
  | [] => t.withStatus 0
  | (patterns, body) :: rest => t.push [.arm subject patterns body rest []]

def arm (t : Turn) (subject : Text) (body : Shell.Command)
    (rest : List (List Word × Shell.Command)) : List Word → List Text → Turn
  | [], _ => arms t subject rest
  | pattern :: more, outputs =>
    expanding t (.arm subject (pattern :: more) body rest outputs) outputs (expandPattern pattern)
      fun t compiled =>
        if Matcher.fits compiled subject then t.push [.run body]
        else arm t subject body rest more []

/-! ### Several processes -/

def attachNothing (t : Turn) : Turn :=
  match t.openFile 0 "/dev/null".toList .input with
  | .ok t => t
  | .error _ => t.withDescriptors (t.process.descriptors.set 0 none)

def leftAlone (p : Process) : Process :=
  { p with ignored := p.ignored ++ [Signal.interrupt, Signal.quit].filter fun n =>
      !p.ignored.contains n }

def startStages (t : Turn) (input : Option Channel) :
    List Shell.Command → List Nat → List Nat × Turn
  | [], pids => (pids, t)
  | c :: rest, pids =>
    let own := t.process.descriptors
    let withInput : Descriptors :=
      match input with
      | none => own
      | some channel => own.set 0 (some channel)
    match rest with
    | [] =>
      let (pid, t) := t.fork [.run c] withInput
      (pids ++ [pid], t)
    | _ =>
      let (pipe, machine) := t.machine.addPipe {}
      let (pid, t) :=
        { t with machine }.fork [.run c] (withInput.set 1 (some (.outlet pipe)))
      startStages t (some (.intake pipe)) rest (pids ++ [pid])

def background (t : Turn) (body : Shell.Command) : Turn :=
  let own := t.process
  let alone := attachNothing { t with process := leftAlone own }
  let stages : List Shell.Command :=
    match body with
    | .pipeline stages => stages
    | c => [c]
  let (pids, t) := startStages alone none stages []
  let t := { t with process := own }
  let t := t.withContext { t.context with background := pids.getLast?, status := 0 }
  Builtin.addJob t pids

def run (t : Turn) (c : Shell.Command) : Turn :=
  match c with
  | .nothing => t.withStatus 0
  | .simple line assignments words redirections =>
    let p : Progress := { line, words, redirections, assignments }
    proceed (steps p) (t.atLine line) p
  | .redirected line body redirections =>
    compound (t.atLine line) body false redirections [] []
  | .subshell line body redirections => compound (t.atLine line) body true redirections [] []
  | .each line name words body => values (t.atLine line) name body words [] []
  | .choice line subject arms => (t.atLine line).push [.subject subject arms []]
  | .pipeline stages =>
    let (pids, t) := startStages t none stages []
    t.push [.await pids (pids.getLast?.getD 0)]
  | .negated body => t.push [.run body, .negate]
  | .both left right => t.push [.run left, .onSuccess right]
  | .either left right => t.push [.run left, .onFailure right]
  | .sequence left right => t.push [.run left, .run right]
  | .background body => background t body
  | .branch condition yes no => t.push [.run condition, .decide yes no]
  | .loop whileTrue condition body =>
    t.push [.run condition, .loopTest whileTrue condition body 0]
  | .define name body => (t.withContext (t.context.defineFunction name body)).withStatus 0

/-! ### Waiting -/

def reportEnd (t : Turn) (child : Nat) : Turn :=
  match (t.machine.ended.lookup child).bind Status.signal? with
  | some n =>
    if n = Signal.interrupt || n = Signal.pipe then t
    else t.write 2 ((Signal.description n).toList ++ ['\n'])
  | none => t

def statusOf (t : Turn) (child : Nat) : Nat :=
  ((t.machine.ended.lookup child).map Status.exitCode).getD 127

def endedAmong (m : Machine) (children : List Nat) : List Nat :=
  (m.ended.reverse.map Prod.fst).filter children.contains

/-- Looks at how children have ended: the last of them gives the status. -/
def awaited (t : Turn) (children : List Nat) (last : Nat) : Turn :=
  let ended := endedAmong t.machine children
  let t := ended.foldl reportEnd t
  let left := children.filter fun child => !ended.contains child
  if left.isEmpty then (Builtin.seeEnds (t.withStatus (statusOf t last))).checked
  else t.push [.await left last]

def waited (t : Turn) (children : List Nat) (last : Option Nat) : Turn :=
  let isNews (child : Nat) : Bool :=
    t.shell.jobs.any fun j => j.children.contains child && !j.isSeen
  let t' :=
    match last with
    | none => t.withStatus 0
    | some last => (((endedAmong t.machine children).filter isNews).foldl reportEnd t).withStatus
        (statusOf t last)
  (Builtin.markKnown (Builtin.seeEnds t') children).checked

def gathered (t : Turn) (needing : Frame) (pipe child : Nat) (parts : List Text) : Turn :=
  let wait (parts : List Text) (t : Turn) : Turn := t.push [.gather needing pipe child parts]
  match t.machine.supply (.intake pipe) with
  | .some text =>
    wait (text :: parts) { t with machine := t.machine.take (.intake pipe) text.length }
  | .none =>
    if t.machine.hasEnded child then
      let t := t.withDescriptors (t.process.descriptors.set (hiddenDescriptor pipe) none)
      let t := Builtin.seeEnds (reportEnd t child)
      t.push [needing.receive parts.reverse.flatten (statusOf t child)]
    else wait parts t
  | _ => wait parts t

/-! ### Steps -/

def readCommand (t : Turn) (source : Source) : Turn :=
  match Parser.completeCommand t.context.aliases source with
  | .error (fault, line) =>
    (t.atLine line).abandon ("Syntax error: ".toList ++ fault.message.toList)
  | .ok none => t
  | .ok (some (c, rest)) =>
    let t :=
      if source.isShown && t.context.has 'v' then
        t.write 2 (source.rest.take (source.rest.length - rest.rest.length))
      else t
    let now : List Frame :=
      match c, t.context.has 'n' with
      | .nothing, _ => []
      | _, true => []
      | c, false => [.run c]
    t.push (if rest.rest.isEmpty then now else now ++ [.script rest])

def step (t : Turn) : Frame → Turn
  | .script source => readCommand t source
  | .run c => if t.context.has 'n' then t else run t c
  | .simple p => proceed (steps p) (t.atLine p.line) p
  | .compound body ownProcess todo done outputs => compound t body ownProcess todo done outputs
  | .values name todo done body outputs => values t name body todo done outputs
  | .subject word choices outputs =>
    expanding t (.subject word choices outputs) outputs (expandText .atStart word)
      fun t subject => arms t subject choices
  | .arm subject patterns body rest outputs => arm t subject body rest patterns outputs
  | .gather needing pipe child parts => gathered t needing pipe child parts
  | .onSuccess c => if t.status = 0 then t.push [.run c] else t
  | .onFailure c => if t.status = 0 then t else t.push [.run c]
  | .negate => t.withStatus (if t.status = 0 then 1 else 0)
  | .decide yes no => t.push [.run (if t.status = 0 then yes else no)]
  | .loopTest whileTrue condition body status =>
    if (t.status = 0) = whileTrue then t.push [.run body, .looped whileTrue condition body]
    else t.withStatus status
  | .looped whileTrue condition body =>
    t.push [.run condition, .loopTest whileTrue condition body t.status]
  | .eachOf name values body =>
    match values with
    | [] => t
    | value :: rest =>
      if t.context.isFrozen name then t.abandon (Trouble.readOnly name).message
      else
        (t.withContext (t.context.setVariable name value)).push [.run body, .eachOf name rest body]
  | .completed descriptors lent => (t.undo (.completed descriptors lent)).checked
  | .settle status saved => (t.undo (.settle status saved)).withStatus status
  | .closing status saved => (t.undo (.closing status saved)).withStatus status
  | .await children last => awaited t children last
  | .waiting children last => waited t children last
  | .readLine names raw line escaped => Builtin.readMore t names raw line escaped
  | frame => t.undo frame

def isBusy : Frame → Bool
  | .await .. => true
  | .gather .. => true
  | _ => false

/-- What is to be done at a signal. A command that waits is left for it. -/
def answer (t : Turn) (signal : Nat) (pending : List Nat) : Turn :=
  let script := (t.shell.traps.lookup signal).getD []
  let t := { t with shell := { t.shell with pending } }
  let t :=
    match t.shell.stack with
    | .waiting .. :: rest => (t.withStack rest).withStatus (128 + signal)
    | .readLine .. :: rest => (t.withStack rest).withStatus 1
    | _ => t
  let frames : List Frame := [.script { rest := script }, .settle t.status t.shell.saved]
  { t with shell := { t.shell with saved := some t.status } }.push frames

/-- One step of a shell: what is to be done at a signal comes first, an empty stack is the end. -/
def turn (t : Turn) : Turn :=
  let pending := t.shell.pending.mergeSort
  match pending, t.shell.stack with
  | signal :: rest, frame :: below =>
    if isBusy frame then step (t.withStack below) frame else answer t signal rest
  | signal :: rest, [] => answer t signal rest
  | [], frame :: below => step (t.withStack below) frame
  | [], [] => t.exit t.status

end Interpreter

end Machine

end Proctor
