import Proctor.Decimal.Shortest
import Proctor.Settings.Overlay
import Proctor.Text.Quoted
import Proctor.Toml.Document

/-!
# The schema of a settings file

How the values of a document become settings, and what there is to complain about if they do not.
The keys of a table are looked at in the order of their names, and the first complaint counts. A
document whose numbers cannot all be held is not a document, but that is noticed only when there is
something to complain about.

What is wrong with a text that is no document is not told apart: every such text has the message
`<syntax>`, which stands in the place of what its reader would say of it.
-/

set_option autoImplicit false

namespace Proctor

inductive Complaint where
  /-- The text is not a document. -/
  | malformed
  | unknownField (name : String) (known : List String)
  | wrongType (found wanted : String)
  | negative (n : Int)
  | unknownVariant (name : String)
  | notVariant
  | variantCount (more : Bool)
  /-- A variant with contents that are no table at all. -/
  | variantContents (found : String)
  /-- A variant with contents that are not empty. -/
  | variantNotEmpty (contents : String)
  | tooShort (length : Nat)
  | noCompiler
  deriving DecidableEq, Repr

namespace Complaint

def ticked (s : String) : String := "`" ++ s ++ "`"

def message : Complaint → String
  | .malformed => "<syntax>"
  | .unknownField name known =>
    "unknown field " ++ ticked name ++ ", expected one of " ++
      String.intercalate ", " (known.map ticked)
  | .wrongType found wanted => "invalid type: " ++ found ++ ", expected " ++ wanted
  | .negative n => "invalid value: integer " ++ ticked (toString n) ++ ", expected u64"
  | .unknownVariant name =>
    "unknown variant " ++ ticked name ++ ", expected `run-to-completion` or `fail-fast`"
  | .notVariant => "wanted string or table"
  | .variantCount false => "wanted exactly 1 element, found 0 elements"
  | .variantCount true => "wanted exactly 1 element, more than 1 element"
  | .variantContents found => "expected table, found " ++ found
  | .variantNotEmpty contents => "expected empty " ++ contents
  | .tooShort length =>
    "invalid length " ++ toString length ++ ", expected struct FileToolchain with 3 elements"
  | .noCompiler => "toolchain.compiler must name a program"

end Complaint

namespace Schema

open Toml (Value Entries Magnitude)

def floatText (negative : Bool) : Magnitude → String
  | .finite value => (if negative then "-" else "") ++ value.shortest.renderPointed
  | .notANumber => "NaN"
  | .infinite => if negative then "-inf" else "inf"
  | .overflow => if negative then "-inf" else "inf"

def found : Value → String
  | .string text => "string " ++ quoted text
  | .integer n => "integer " ++ Complaint.ticked (toString n)
  | .float negative magnitude =>
    "floating point " ++ Complaint.ticked (floatText negative magnitude)
  | .boolean b => "boolean " ++ Complaint.ticked (toString b)
  | .moment => "map"
  | .array .. => "sequence"
  | .table .. => "map"

def kindName : Value → String
  | .string _ => "string"
  | .integer _ => "integer"
  | .float .. => "float"
  | .boolean _ => "boolean"
  | .moment => "datetime"
  | .array .. => "array"
  | .table .. => "table"

abbrev Reading (α : Type) := Except Complaint α

def wrong {α : Type} (v : Value) (wanted : String) : Reading α :=
  .error (.wrongType (found v) wanted)

def readPath : Value → Reading Path
  | .string text => .ok (.ofString text)
  | v => wrong v "path string"

def readString : Value → Reading String
  | .string text => .ok text
  | v => wrong v "a string"

def readBoolean : Value → Reading Bool
  | .boolean b => .ok b
  | v => wrong v "a boolean"

def greatestSeconds : Int := 18446744073709551615

def readSeconds : Value → Reading Nat
  | .integer n =>
    if n < 0 then .error (.negative n)
    else if n ≤ greatestSeconds then .ok n.toNat
    else .error .malformed
  | v => wrong v "u64"

def readStrings : Value → Reading (List String)
  | .array _ items => items.mapM readString
  | v => wrong v "a sequence"

def variant? (name : String) : Reading FailurePolicy :=
  if name = "run-to-completion" then .ok .runToCompletion
  else if name = "fail-fast" then .ok .failFast
  else .error (.unknownVariant name)

def readContents : Value → Reading Unit
  | .table _ [] => .ok ()
  | .table _ _ => .error (.variantNotEmpty "table")
  | .array _ [] => .ok ()
  | .array _ _ => .error (.variantNotEmpty "array")
  | v => .error (.variantContents (kindName v))

def readPolicy : Value → Reading FailurePolicy
  | .string name => variant? name
  | .table _ [] => .error (.variantCount false)
  | .table _ [(name, contents)] => do
    let policy ← variant? name
    readContents contents
    return policy
  | .table _ _ => .error (.variantCount true)
  | _ => .error .notVariant

def toolFields : List String := ["compiler", "assembler", "linker"]

def fields : List String :=
  ["precondition_dir", "runtime_source", "test_dir", "scratch_dir", "failure_policy",
    "check_exit_status", "tool_timeout_secs", "exec_timeout_secs", "toolchain"]

def readToolEntry (o : Overlay) : String × Value → Reading Overlay
  | ("compiler", v) => do return { o with compiler := some (← readStrings v) }
  | ("assembler", v) => do return { o with assembler := some (← readString v) }
  | ("linker", v) => do return { o with linker := some (← readString v) }
  | (name, _) => .error (.unknownField name toolFields)

def sorted (entries : Entries) : Entries :=
  entries.mergeSort fun a b => a.1 ≤ b.1

/-- The name under which a date or time would hide if it were a table. -/
def momentField : String := "$__toml_private_datetime"

/-- The toolchain is a table, or a list of all three parts in order. -/
def readToolchain (o : Overlay) : Value → Reading Overlay
  | .table _ entries => (sorted entries).foldlM readToolEntry o
  | .moment => .error (.unknownField momentField toolFields)
  | .array _ [] => .error (.tooShort 0)
  | .array _ (compiler :: rest) => do
    let o ← readToolEntry o ("compiler", compiler)
    match rest with
    | [] => .error (.tooShort 1)
    | assembler :: rest =>
      let o ← readToolEntry o ("assembler", assembler)
      match rest with
      | [] => .error (.tooShort 2)
      | linker :: _ => readToolEntry o ("linker", linker)
  | v => wrong v "struct FileToolchain"

def readEntry (o : Overlay) : String × Value → Reading Overlay
  | ("precondition_dir", v) => do return { o with preconditionDir := some (← readPath v) }
  | ("runtime_source", v) => do return { o with runtimeSource := some (← readPath v) }
  | ("test_dir", v) => do return { o with testDir := some (← readPath v) }
  | ("scratch_dir", v) => do return { o with scratchDir := some (← readPath v) }
  | ("failure_policy", v) => do return { o with failurePolicy := some (← readPolicy v) }
  | ("check_exit_status", v) => do return { o with checkExitStatus := some (← readBoolean v) }
  | ("tool_timeout_secs", v) => do return { o with toolSeconds := some (← readSeconds v) }
  | ("exec_timeout_secs", v) => do return { o with programSeconds := some (← readSeconds v) }
  | ("toolchain", v) => readToolchain o v
  | (name, _) => .error (.unknownField name fields)

/-- The settings of a document. A compiler command must have a word. -/
def readDocument (entries : Entries) : Reading Overlay := do
  let o ← (sorted entries).foldlM readEntry {}
  if o.compiler = some [] then .error .noCompiler else return o

def read (text : String) : Reading Overlay :=
  match Toml.parse? text.toList with
  | none => .error .malformed
  | some entries =>
    match readDocument entries with
    | .ok o => .ok o
    | .error complaint =>
      .error (if Toml.entriesHeld entries then complaint else .malformed)

end Schema

end Proctor
