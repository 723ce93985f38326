import Proctor.Shell.Script

/-!
# What a shell knows

Variables, parameters, functions and options. The name of the shell stands at the head of its
complaints, with the line and, inside some commands, their name.
-/

set_option autoImplicit false

namespace Proctor

namespace Shell

/-- A variable may have no value and still be marked. -/
structure Variable where
  value : Option Text
  exported : Bool := false
  /-- It can no longer be changed. -/
  frozen : Bool := false
  deriving DecidableEq, Repr, Inhabited

structure Parameters where
  values : List Text := []
  /-- The number of the argument to be looked at next. -/
  nextOption : Nat := 1
  /-- Where in the argument before it the next letter stands. -/
  optionOffset : Option Nat := none
  deriving DecidableEq, Repr, Inhabited

structure Context where
  name : Text := []
  parameters : Parameters := {}
  bindings : List (Text × Variable) := []
  functions : List (Text × Command) := []
  aliases : List (Text × Text) := []
  /-- How the last command ended. -/
  status : Nat := 0
  pid : Nat := 0
  parent : Nat := 0
  background : Option Nat := none
  /-- Options that are on, by letter. -/
  options : List Char := []
  line : Nat := 1
  /-- The working directory as it was entered, links and all. -/
  directory : Text := []
  /-- Programs that have been found, in the order in which they were. -/
  tracked : List (Text × Text) := []
  /-- The command of the shell that is at work, if it is one that complains under its name. -/
  caller : Option Text := none
  deriving Inhabited

namespace Context

def values (c : Context) : List Text := c.parameters.values

def withValues (c : Context) (values : List Text) : Context :=
  { c with parameters := { values } }

def has (c : Context) (option : Char) : Bool := c.options.contains option

def lookup (c : Context) (name : Text) : Option Variable := c.bindings.lookup name

def binding? (c : Context) (name : Text) : Option Text :=
  (c.bindings.lookup name).bind Variable.value

def isFrozen (c : Context) (name : Text) : Bool :=
  ((c.bindings.lookup name).map Variable.frozen).getD false

def change (name : Text) (f : Option Variable → Option Variable) :
    List (Text × Variable) → List (Text × Variable)
  | [] => ((f none).map fun v => (name, v)).toList
  | (other, v) :: rest =>
    if other = name then ((f (some v)).map fun v => (name, v)).toList ++ rest
    else (other, v) :: change name f rest

def alter (c : Context) (name : Text) (f : Option Variable → Option Variable) : Context :=
  { c with bindings := change name f c.bindings }

/-- A new value. One for the number of the next option starts the search for options again, and one
for the places of programs makes the shell forget where it has found them. -/
def setVariable (c : Context) (name value : Text) : Context :=
  let c :=
    if name = "OPTIND".toList then
      let next := max 1 ((Text.decimal? value).getD 1)
      { c with parameters := { c.parameters with nextOption := next, optionOffset := none } }
    else if name = "PATH".toList then { c with tracked := [] }
    else c
  c.alter name fun old =>
    let old := old.getD { value := none }
    some { old with value := some value, exported := old.exported || c.has 'a' }

def unsetVariable (c : Context) (name : Text) : Context := c.alter name fun _ => none

def exportVariable (c : Context) (name : Text) : Context :=
  c.alter name fun old => some { old.getD { value := none } with exported := true }

def freezeVariable (c : Context) (name : Text) : Context :=
  c.alter name fun old => some { old.getD { value := none } with frozen := true }

def environment (c : Context) : List (Text × Text) :=
  c.bindings.filterMap fun (name, v) =>
    if v.exported then v.value.map fun value => (name, value) else none

def defineFunction (c : Context) (name : Text) (body : Command) : Context :=
  { c with functions := (name, body) :: c.functions.filter fun f => f.1 ≠ name }

def letters : List Char := "pubaCEVvxsnmiIfe".toList

def parameter? (c : Context) (name : Text) : Option Text :=
  match name with
  | ['#'] => some (Text.ofNat c.values.length)
  | ['?'] => some (Text.ofNat c.status)
  | ['$'] => some (Text.ofNat c.pid)
  | ['!'] => c.background.map Text.ofNat
  | ['-'] => some (letters.filter c.has)
  | ['0'] => some c.name
  | _ =>
    match Text.decimal? name with
    | some 0 => some c.name
    | some n => c.values[n - 1]?
    | none => c.binding? name

def separators (c : Context) : Text := (c.binding? "IFS".toList).getD [' ', '\t', '\n']

def complaint (c : Context) (message : Text) : Text :=
  let caller := (c.caller.map fun name => name ++ ": ".toList).getD []
  c.name ++ ": ".toList ++ Text.ofNat c.line ++ ": ".toList ++ caller ++ message ++ ['\n']

def place (size : Nat) (name : Text) : Nat :=
  ((name.head?.map Char.toNat).getD 0 * 16 + name.foldl (fun n c => n + c.toNat) 0) % size

def inPlaces {α : Type} (size : Nat) (entries : List (Text × α)) : List (Text × α) :=
  (List.range size).flatMap fun n => entries.filter fun e => place size e.1 = n

end Context

end Shell

end Proctor
