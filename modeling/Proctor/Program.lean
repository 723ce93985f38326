import Proctor.CommandLine.Parser
import Proctor.Console
import Proctor.Discovery
import Proctor.Settings.Schema
import Proctor.Workspace

/-!
# The program

From the arguments to the exit code: read the options, lay them over the settings, get ready, run
the tests that were asked for, and say how it ended.
-/

set_option autoImplicit false

namespace Proctor

namespace Program

variable {ω : Type}

def implicitFile : Path := .ofString "annotest.toml"

def readOverlay (host : Host ω) (file : Path) : Action ω Overlay := fun w =>
  let unreadable (cause : Cause) :=
    (.error (.inputOutput ("cannot read config file " ++ file.display) cause), w)
  match host.content w file with
  | .error cause => unreadable cause
  | .ok bytes =>
    match bytes.text? with
    | none => unreadable .notText
    | some text =>
      match Schema.read text with
      | .ok overlay => (.ok overlay, w)
      | .error complaint => (.error (.badSettings file complaint.message), w)

/-- The file that the options ask for, or the implicit one if it is there. -/
def fileToRead? (host : Host ω) (w : ω) (options : Options) (implicit : Path) : Option Path :=
  match options.config with
  | some file => some file
  | none => if host.isFile w implicit then some implicit else none

/-- Defaults, then the file, then the options. -/
def resolve (host : Host ω) (options : Options) (implicit : Path) : Action ω Settings := fun w =>
  match fileToRead? host w options implicit with
  | none => (.ok (options.apply {}), w)
  | some file =>
    (readOverlay host file).andThen (fun overlay => .pure (options.apply (overlay.apply {}))) w

/-- The program under test is named by the text of its path, and its errors are not kept. -/
def execute (host : Host ω) (limit : Option Duration) (executable : Path) : Action ω Execution :=
  let invocation : Invocation := { program := executable.display, keepsErrors := false }
  (Operation.orElse (host.launch invocation limit) (.notStarted executable.display)).andThen
    fun outcome => .pure {
      stdout := outcome.stdout.lossy
      exitCode := outcome.status.exitCode
      success := outcome.success
      timedOut := outcome.timedOut }

def collaborators (host : Host ω) (p : Pipeline) (settings : Settings) (runtime : Path) :
    Collaborators ω where
  discover := Discovery.discover host
  load := Discovery.load host
  build case :=
    (p.build host case.id case.path runtime settings.scratchDir).andThen fun artifacts =>
      .pure artifacts.executable
  execute := execute host settings.programLimit
  now := host.now

structure Finish (ω : Type) where
  printed : Bytes
  message : Option String
  world : ω

def Finish.exitCode (f : Finish ω) : Nat := if f.message.isNone then 0 else 1

/-- The run of a suite from the start: nothing is printed before all is ready. -/
def run (host : Host ω) (settings : Settings) (names : List String) (verbose : Bool) (w : ω) :
    Finish ω :=
  let p : Pipeline := ⟨settings.toolchain, settings.toolLimit⟩
  match Workspace.prepare host p settings w with
  | (.error problem, w) => ⟨[], some problem.report, w⟩
  | (.ok runtime, w) =>
    let reporter : Reporter Sink :=
      { listener := Console.listener verbose
        policy := settings.exitPolicy
        start := host.now w
        state := {} }
    let ending := Suite.run (collaborators host p settings runtime) settings names reporter w
    match ending.result with
    | .error problem => ⟨ending.state.written, some problem.report, ending.world⟩
    | .ok summary => ⟨ending.state.written, summary.failureReport, ending.world⟩

structure Exit (ω : Type) where
  code : Nat
  stdout : Bytes := []
  stderr : Bytes := []
  world : ω

/-- A message on a line of its own; an empty one is not shown. -/
def messageLine (message : String) : Bytes :=
  if message.isEmpty then [] else Bytes.ofString (message ++ "\n")

def call (host : Host ω) (arguments : List String) (w : ω) : Exit ω :=
  match CommandLine.parse arguments with
  | .error refusal =>
    if refusal.isRequest then
      { code := refusal.exitCode, stdout := Bytes.ofString refusal.message, world := w }
    else { code := refusal.exitCode, stderr := Bytes.ofString refusal.message, world := w }
  | .ok options =>
    match resolve host options implicitFile w with
    | (.error problem, w) => { code := 1, stderr := messageLine problem.report, world := w }
    | (.ok settings, w) =>
      let finish := run host settings options.tests options.verbose w
      { code := finish.exitCode
        stdout := finish.printed
        stderr := messageLine (finish.message.getD "")
        world := finish.world }

end Program

end Proctor
