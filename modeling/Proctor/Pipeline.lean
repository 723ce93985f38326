import Proctor.Artifact
import Proctor.Host

/-!
# Building a test

Compiler, assembler and linker are started one after another, each on what the one before it left.
The first that cannot be started, runs out of time or fails ends the build, and the problem says
which it was and what it was working on.
-/

set_option autoImplicit false

namespace Proctor

structure Pipeline where
  toolchain : Toolchain
  limit : Option Duration := none
  deriving DecidableEq, Repr

namespace Pipeline

def outputOption : Bytes := Bytes.ofString "-o"

def invocation (p : Pipeline) (role : Role) (arguments : List Bytes) : Invocation where
  program := p.toolchain.program role
  arguments := (p.toolchain.leadingArguments role).map Bytes.ofString ++ arguments

/-- What a program that could not be started means: it is missing, or something else is wrong. -/
def startProblem (role : Role) (program : String) (cause : Cause) : Problem :=
  if cause = .notFound then .toolNotFound role program role.hint cause
  else .notStarted program cause

def outcomeProblem? (p : Pipeline) (role : Role) (subject : Path) (outcome : Outcome) :
    Option Problem :=
  let program := p.toolchain.program role
  if outcome.timedOut then
    some (.toolTimedOut role program subject.display (p.limit.getD ⟨0, 0⟩))
  else if outcome.status.success then none
  else
    some (.toolFailed role program subject.display outcome.status.describe outcome.stderr.lossy)

variable {ω : Type}

/-- Starts a program in a role; what is not a success is a problem with its subject. -/
def start (p : Pipeline) (host : Host ω) (role : Role) (invocation : Invocation) (subject : Path) :
    Action ω Unit :=
  (Operation.orElse (host.launch invocation p.limit)
    (startProblem role invocation.program)).andThen fun outcome =>
      match p.outcomeProblem? role subject outcome with
      | none => .pure ()
      | some problem => .fail problem

def invoke (p : Pipeline) (host : Host ω) (role : Role) (arguments : List Bytes) (subject : Path) :
    Action ω Unit :=
  p.start host role (p.invocation role arguments) subject

def compile (p : Pipeline) (host : Host ω) (source ir : Path) : Action ω Unit :=
  p.invoke host .compiler [source.bytes, outputOption, ir.bytes] source

def assemble (p : Pipeline) (host : Host ω) (ir object : Path) : Action ω Unit :=
  p.invoke host .assembler [ir.bytes, outputOption, object.bytes] ir

def link (p : Pipeline) (host : Host ω) (runtime object executable : Path) : Action ω Unit :=
  p.invoke host .linker [runtime.bytes, object.bytes, outputOption, executable.bytes] object

def build (p : Pipeline) (host : Host ω) (testId : String) (source runtime scratch : Path) :
    Action ω Artifacts :=
  let artifacts := Artifacts.ofTest scratch testId
  (p.compile host source artifacts.ir).andThen fun _ =>
    (p.assemble host artifacts.ir artifacts.object).andThen fun _ =>
      (p.link host runtime artifacts.object artifacts.executable).andThen fun _ =>
        .pure artifacts

end Pipeline

end Proctor
