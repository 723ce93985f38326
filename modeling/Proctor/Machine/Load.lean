import Proctor.Machine.Process
import Proctor.Shell.Switch
import Proctor.Tool.Table

/-!
# Starting programs

A program is a tool that the machine knows, or a script that names the program to run it. What the
path names must be a file with the right to be run.
-/

set_option autoImplicit false

namespace Proctor

namespace Machine

open Shell Tool

def searchPath : List String :=
  ["/usr/local/sbin", "/usr/local/bin", "/usr/sbin", "/usr/bin", "/sbin", "/bin"]

def shellName : String := "sh"

def programNames : List String := Tool.table.map Prod.fst ++ [shellName, "dash"]

def importVariables (files : Files) (environment : List (Text × Text)) : List (Text × Variable) :=
  let given := environment.filterMap fun (name, value) =>
    if Text.isName name then some (name, { value := some value, exported := true }) else none
  let own (name value : String) : Text × Variable := (name.toList, { value := some value.toList })
  let usual := [own "OPTIND" "1", own "PATH" (String.intercalate ":" searchPath), own "PS1" "# ",
    own "PS2" "> ", own "PS4" "+ "].filter fun v => (given.lookup v.1).isNone
  let here := ((files.pathTo? files.here).map fun p => p.bytes.toText).getD []
  let isHere (t : Text) : Bool :=
    t.head? == some '/' && (files.number true ⟨t.toBytes⟩).toOption == some files.here
  let kept := ((given.lookup "PWD".toList).bind Variable.value).filter isHere
  let given := given.filter fun v =>
    v.1 ≠ "PWD".toList && v.1 ≠ "PPID".toList && v.1 ≠ "IFS".toList
  given ++ usual ++
    [("IFS".toList, { value := some [' ', '\t', '\n'] }),
     ("PWD".toList, { value := some (kept.getD here), exported := true })]

def refusal (name message : Text) (status : Nat) : Act :=
  .write 2 (name ++ ": 0: ".toList ++ message ++ ['\n']) fun _ => .finish status

def openReason (creates : Bool) (cause : Cause) : Text :=
  if cause = .notFound || cause = .notDirectory then
    if creates then "Directory nonexistent".toList else "No such file".toList
  else reason cause

def shellTask (files : Files) (call : Call) : Task :=
  let o := Switch.read true (call.arguments.length + 1) { options := [], rest := call.arguments }
  let bindings := importVariables files call.environment
  let directory := ((bindings.lookup "PWD".toList).bind Variable.value).getD []
  let shell (options : List Char) (name : Text) (values : List Text) (script : Text)
      (keepsItself : Bool) : ShellState :=
    { context := { name, parameters := { values }, options, bindings, directory }
      stack := [.script { rest := script, isShown := keepsItself }]
      keepsItself }
  match o.fault, o.asksForScript, o.rest with
  | some fault, _, _ => .tool (refusal call.name fault 2)
  | none, true, [] => .tool (refusal call.name "-c requires an argument".toList 2)
  | none, true, script :: rest =>
    .shell (shell o.options (rest.headD call.name) rest.tail script (o.options.contains 's'))
  | none, false, rest =>
    if rest.isEmpty || o.options.contains 's' then
      .listener (shell (Switch.turn true 's' o.options) call.name rest [] true) []
    else
      let file := rest.headD []
      match files.content ⟨file.toBytes⟩ with
      | .ok content => .shell (shell o.options file rest.tail content.toText true)
      | .error cause =>
        if cause = .isDirectory then .shell (shell o.options file rest.tail [] true)
        else
          let message := "cannot open ".toList ++ file ++ ": ".toList ++ openReason false cause
          .tool (refusal call.name message 2)

def isBlankChar (c : Char) : Bool := c == ' ' || c == '\t'

/-- The characters at the start of a file that decide what runs it. -/
def headLength : Nat := 256

/-- The program that a script names in its first line, and the argument given there. Only the start
of the file counts; a name that might go on after it is none. -/
def interpreter? (content : Text) : Option (Text × Option Text) :=
  match content.take headLength with
  | '#' :: '!' :: rest =>
    let ends (c : Char) : Bool := isBlankChar c || c == '\x00'
    let isWhole := rest.contains '\n' || content.length < headLength ||
      ((rest.dropLast).dropWhile isBlankChar).any ends
    let line := if rest.contains '\n' then rest.takeWhile (· ≠ '\n')
      else if content.length < headLength then rest else rest.dropLast
    let line := ((line.reverse.dropWhile isBlankChar).reverse).dropWhile isBlankChar
    let name := line.takeWhile fun c => !ends c
    let after := line.drop name.length
    let argument :=
      if after.head? == some '\x00' then []
      else (after.dropWhile isBlankChar).takeWhile (· ≠ '\x00')
    if name.isEmpty || !isWhole then none
    else some (name, if argument.isEmpty then none else some argument)
  | _ => none

def loadKnown (files : Files) (name : String) (call : Call) : Task :=
  if name = shellName || name = "dash" then shellTask files call
  else
    match Tool.table.lookup name with
    | none => .tool (.finish 127)
    | some work =>
      .tool (work.toAct
        { name := String.ofList call.name
          arguments := call.arguments
          environment := call.environment })

def load (files : Files) : Nat → Path → Call → Except Cause Task
  | 0, _, _ => .error .tooManyLinks
  | fuel + 1, path, call => do
    let node ← files.node path
    if !node.permits Mode.search then .error .accessDenied
    else
      match node.body with
      | .program name => .ok (loadKnown files name call)
      | .file content =>
        match interpreter? (Bytes.toText (content.take headLength)) with
        | none => .error .notExecutable
        | some (program, argument) =>
          load files fuel ⟨program.toBytes⟩
            { call with
              name := program
              arguments := argument.toList ++ path.bytes.toText :: call.arguments }
      | _ => .error .accessDenied

def interpreterLimit : Nat := 6

/-- The paths at which a program without a slash in its name may be, one for each directory of a
list. An empty directory is the working directory. -/
def candidates (path name : Text) : List Text :=
  (Text.split ':' path).map fun dir => if dir.isEmpty then name else dir ++ '/' :: name

def defaultPath : Text := "/bin:/usr/bin".toList

/-- Loads the first program that can be run. One that may not be run is remembered while the search
goes on. -/
def loadFirst (files : Files) (call : Call) (before : Cause) : List Text → Except Cause Task
  | [] => .error before
  | path :: rest =>
    match load files interpreterLimit ⟨path.toBytes⟩ call with
    | .ok task => .ok task
    | .error cause =>
      if cause = .accessDenied then loadFirst files call cause rest
      else if cause = .notFound || cause = .notDirectory then loadFirst files call before rest
      else .error cause

def loadProgram (files : Files) (call : Call) : Except Cause Task :=
  if call.name.isEmpty then .error .notFound
  else if call.name.contains '/' then load files interpreterLimit ⟨call.name.toBytes⟩ call
  else
    let path := (call.environment.lookup "PATH".toList).getD defaultPath
    loadFirst files call .notFound (candidates path call.name)

def loadOrInterpret (files : Files) (call : Call) : Except Cause Task :=
  match loadProgram files call with
  | .ok task => .ok task
  | .error cause =>
    if cause = .notExecutable then
      let path := (call.environment.lookup "PATH".toList).getD defaultPath
      let places := if call.name.contains '/' then [call.name] else candidates path call.name
      let file := (places.find? fun p => files.isFile ⟨Text.toBytes p⟩).getD call.name
      .ok (shellTask files
        { call with name := "/bin/sh".toList, arguments := file :: call.arguments })
    else .error cause

end Machine

end Proctor
