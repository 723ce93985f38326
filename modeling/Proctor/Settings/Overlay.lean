import Proctor.Settings.Basic

/-!
# Settings from a file

What a settings file may say: every setting is optional. Laid over other settings, it replaces those
it has and leaves the rest alone.
-/

set_option autoImplicit false

namespace Proctor

structure Overlay where
  preconditionDir : Option Path := none
  runtimeSource : Option Path := none
  testDir : Option Path := none
  scratchDir : Option Path := none
  failurePolicy : Option FailurePolicy := none
  checkExitStatus : Option Bool := none
  toolSeconds : Option Nat := none
  programSeconds : Option Nat := none
  compiler : Option (List String) := none
  assembler : Option String := none
  linker : Option String := none
  deriving DecidableEq, Repr

def ExitPolicy.ofCheck (check : Bool) : ExitPolicy :=
  if check then .requireSuccess else .ignore

/-- A limit given in seconds, or the one there was. -/
def limitOr (seconds : Option Nat) (limit : Option Duration) : Option Duration :=
  match seconds with
  | none => limit
  | some n => limitOfSeconds n

def Overlay.apply (o : Overlay) (base : Settings) : Settings where
  preconditionDir := o.preconditionDir.getD base.preconditionDir
  runtimeSource := o.runtimeSource.getD base.runtimeSource
  testDir := o.testDir.getD base.testDir
  scratchDir := o.scratchDir.getD base.scratchDir
  toolchain :=
    { base.toolchain.withCompiler (o.compiler.getD []) with
      assembler := o.assembler.getD base.toolchain.assembler
      linker := o.linker.getD base.toolchain.linker }
  failurePolicy := o.failurePolicy.getD base.failurePolicy
  exitPolicy := (o.checkExitStatus.map ExitPolicy.ofCheck).getD base.exitPolicy
  toolLimit := limitOr o.toolSeconds base.toolLimit
  programLimit := limitOr o.programSeconds base.programLimit

end Proctor
