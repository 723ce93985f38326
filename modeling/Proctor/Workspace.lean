import Proctor.Pipeline

/-!
# Getting ready

Before the first test everything a run depends on is checked, and only then is anything changed: the
directory that must exist, the programs that must start, the scratch directory wiped, the runtime
assembled.
-/

set_option autoImplicit false

namespace Proctor

namespace Workspace

variable {ω : Type}

def checkPrecondition (host : Host ω) (dir : Path) : Action ω Unit := fun w =>
  if host.isDirectory w dir then (.ok (), w) else (.error (.preconditionMissing dir), w)

/-- A program need only start when given the flag; how it ends does not matter. -/
def probe (host : Host ω) (p : Pipeline) (role : Role) (flag : String) : Action ω Unit :=
  (Operation.orElse (host.launch (p.invocation role [Bytes.ofString flag]) p.limit)
    (.toolNotFound role (p.toolchain.program role) role.hint)).andThen fun _ => .pure ()

/-- The programs looked for beforehand. A missing compiler shows at the first test. -/
def probeAll (host : Host ω) (p : Pipeline) : Action ω Unit :=
  (probe host p .assembler "-help").andThen fun _ => probe host p .linker "--help"

/-- A directory may be wiped only if its path ends in a name: not with `..`, and not at the root or
where the path starts. -/
def isSafeScratch (dir : Path) : Bool :=
  match dir.lastComponent? with
  | some (.name _) => true
  | _ => false

def checkScratch (dir : Path) : Action ω Unit :=
  if isSafeScratch dir then .pure () else .fail (.unsafeScratch dir)

def removeOld (host : Host ω) (dir : Path) : Action ω Unit := fun w =>
  if host.isPresent w dir then
    Operation.orElse (host.removeTree dir) (.inputOutput ("cannot remove " ++ dir.display)) w
  else (.ok (), w)

def createNew (host : Host ω) (dir : Path) : Action ω Unit :=
  Operation.orElse (host.createDirectories dir) (.inputOutput ("cannot create " ++ dir.display))

def reset (host : Host ω) (dir : Path) : Action ω Unit :=
  (checkScratch dir).andThen fun _ =>
    (removeOld host dir).andThen fun _ => createNew host dir

def buildRuntime (host : Host ω) (p : Pipeline) (source scratch : Path) : Action ω Path :=
  (createNew host (runtimeDirectory scratch)).andThen fun _ =>
    (p.assemble host source (runtimeObject scratch)).andThen fun _ =>
      .pure (runtimeObject scratch)

def prepare (host : Host ω) (p : Pipeline) (settings : Settings) : Action ω Path :=
  (checkPrecondition host settings.preconditionDir).andThen fun _ =>
    (probeAll host p).andThen fun _ =>
      (reset host settings.scratchDir).andThen fun _ =>
        buildRuntime host p settings.runtimeSource settings.scratchDir

end Workspace

end Proctor
