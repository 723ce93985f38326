import Proctor.CommandLine.Refusal
import Proctor.Decimal.Power
import Proctor.Settings.Overlay
import Proctor.Text.Blank

/-!
# Options

What a command line says once it is read: the names of tests, and an optional value for every
setting. Laid over settings, the options replace what they give and leave the rest alone.
-/

set_option autoImplicit false

namespace Proctor

open CommandLine

structure Options where
  tests : List String := []
  config : Option Path := none
  testDir : Option Path := none
  scratchDir : Option Path := none
  runtime : Option Path := none
  preconditionDir : Option Path := none
  assembler : Option String := none
  linker : Option String := none
  compiler : Option String := none
  timeout : Option Nat := none
  execTimeout : Option Nat := none
  exitFirst : Bool := false
  checkExitStatus : Bool := false
  verbose : Bool := false
  deriving DecidableEq, Repr

namespace Options

def has (o : Options) : Setting → Bool
  | .config => o.config.isSome
  | .testDir => o.testDir.isSome
  | .scratchDir => o.scratchDir.isSome
  | .runtime => o.runtime.isSome
  | .preconditionDir => o.preconditionDir.isSome
  | .assembler => o.assembler.isSome
  | .linker => o.linker.isSome
  | .compiler => o.compiler.isSome
  | .timeout => o.timeout.isSome
  | .execTimeout => o.execTimeout.isSome

def readPath (s : Setting) (value : Bytes) : Except Refusal Path :=
  if value.isEmpty then .error (.valueMissing s) else .ok ⟨value⟩

def readText (value : Bytes) : Except Refusal String :=
  match value.text? with
  | some text => .ok text
  | none => .error (.valueInvalid .notText)

/-- Reads digits from left to right, with the number so far; what is wrong first is reported. -/
def readDigits : Nat → List Char → Except NumberFault Nat
  | n, [] => .ok n
  | n, c :: rest =>
    if c.isDigit = false then .error .badDigit
    else
      let m := n * 10 + (c.toNat - '0'.toNat)
      if twoTo 64 ≤ m then .error .tooLarge else readDigits m rest

def readNumber : List Char → Except NumberFault Nat
  | [] => .error .empty
  | ['+'] => .error .badDigit
  | '+' :: rest => readDigits 0 rest
  | text => readDigits 0 text

def readSeconds (s : Setting) (value : Bytes) : Except Refusal Nat := do
  let text ← readText value
  match readNumber text.toList with
  | .ok n => .ok n
  | .error fault => .error (.valueInvalid (.badNumber text s fault))

def put (o : Options) (s : Setting) (value : Bytes) : Except Refusal Options :=
  if o.has s then .error (.repeatedSetting s)
  else
    match s with
    | .config => do return { o with config := some (← readPath s value) }
    | .testDir => do return { o with testDir := some (← readPath s value) }
    | .scratchDir => do return { o with scratchDir := some (← readPath s value) }
    | .runtime => do return { o with runtime := some (← readPath s value) }
    | .preconditionDir => do return { o with preconditionDir := some (← readPath s value) }
    | .assembler => do return { o with assembler := some (← readText value) }
    | .linker => do return { o with linker := some (← readText value) }
    | .compiler => do return { o with compiler := some (← readText value) }
    | .timeout => do return { o with timeout := some (← readSeconds s value) }
    | .execTimeout => do return { o with execTimeout := some (← readSeconds s value) }

/-- Sets a flag, which may be given once only. Help and version end the reading. -/
def raise (o : Options) : Flag → Except Refusal Options
  | .exitFirst =>
    if o.exitFirst then .error (.repeatedFlag .exitFirst) else .ok { o with exitFirst := true }
  | .checkExitStatus =>
    if o.checkExitStatus then .error (.repeatedFlag .checkExitStatus)
    else .ok { o with checkExitStatus := true }
  | .verbose =>
    if o.verbose then .error (.repeatedFlag .verbose) else .ok { o with verbose := true }
  | .help => .error .help
  | .version => .error .version

def apply (o : Options) (base : Settings) : Settings where
  preconditionDir := o.preconditionDir.getD base.preconditionDir
  runtimeSource := o.runtime.getD base.runtimeSource
  testDir := o.testDir.getD base.testDir
  scratchDir := o.scratchDir.getD base.scratchDir
  toolchain :=
    { base.toolchain.withCompiler (words (o.compiler.getD "")) with
      assembler := o.assembler.getD base.toolchain.assembler
      linker := o.linker.getD base.toolchain.linker }
  failurePolicy := if o.exitFirst then .failFast else base.failurePolicy
  exitPolicy := if o.checkExitStatus then .requireSuccess else base.exitPolicy
  toolLimit := limitOr o.timeout base.toolLimit
  programLimit := limitOr o.execTimeout base.programLimit

end Options

end Proctor
