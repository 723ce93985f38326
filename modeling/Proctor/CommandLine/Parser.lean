import Proctor.CommandLine.Options

/-!
# Reading a command line

Arguments are read from left to right. They are bytes, of which only those that belong to a path need
not be text. An option whose value is an argument of its own stays pending until the next known
option, test name or the end; only then are its value and its repetition looked at, so that an
unknown argument right after it is reported first. Test names in a row stay pending in the same way.
-/

set_option autoImplicit false

namespace Proctor

namespace CommandLine

/-- An argument by its looks. What follows the letters of a short one may not be text. -/
inductive Argument where
  | separator
  | long (name : Bytes) (value : Option Bytes)
  | short (letters : String) (rest : Bytes)
  | plain (value : Bytes)
  deriving DecidableEq, Repr

namespace Argument

def dash : UInt8 := 0x2D
def equals : UInt8 := 0x3D

def cut (s : Bytes) : Bytes × Option Bytes :=
  match s.dropWhile (· ≠ equals) with
  | [] => (s, none)
  | _ :: value => (s.takeWhile (· ≠ equals), some value)

def textStart (s : Bytes) : String × Bytes :=
  let starts := (List.range (s.length + 1)).reverse
  let at? (n : Nat) := (Bytes.text? (s.take n)).map fun text => (text, s.drop n)
  (starts.findSome? at?).getD ("", s)

def read (s : Bytes) : Argument :=
  if s = [dash, dash] then .separator
  else if s.take 2 = [dash, dash] then
    let (name, value) := cut (s.drop 2)
    .long name value
  else if s.head? = some dash ∧ s ≠ [dash] then
    let (letters, rest) := textStart s.tail
    .short letters rest
  else .plain s

end Argument

/-- What has been read and waits to be settled. -/
inductive Pending where
  /-- An option, with its value if it has come. -/
  | setting (s : Setting) (value : Option Bytes)
  /-- Test names in a row. -/
  | tests (names : List Bytes)
  deriving DecidableEq, Repr

/-- The state between two arguments, with whether all that follows is a test name. -/
structure Progress where
  options : Options := {}
  pending : Option Pending := none
  onlyTests : Bool := false
  deriving DecidableEq, Repr

namespace Progress

def settle (p : Progress) : Except Refusal Progress :=
  match p.pending with
  | none => .ok p
  | some (.setting s none) => .error (.valueMissing s)
  | some (.setting s (some value)) => do
    return { p with options := ← p.options.put s value, pending := none }
  | some (.tests names) => do
    let names ← names.mapM Options.readText
    return { p with
      options := { p.options with tests := p.options.tests ++ names }, pending := none }

def addTest (p : Progress) (name : Bytes) : Except Refusal Progress :=
  match p.pending with
  | some (.tests names) => .ok { p with pending := some (.tests (names ++ [name])) }
  | _ => do return { ← p.settle with pending := some (.tests [name]) }

def addFlag (p : Progress) (f : Flag) : Except Refusal Progress := do
  let p ← p.settle
  return { p with options := ← p.options.raise f }

def addLetters (p : Progress) (rest : Bytes) : List Char → Except Refusal Progress
  | [] => if rest.isEmpty then .ok p else .error (.unknown ("-" ++ rest.lossy))
  | c :: letters =>
    match Flag.ofLetter? c with
    | none => .error (.unknown (String.ofList ['-', c]))
    | some f => do (← p.addFlag f).addLetters rest letters

def addLong (p : Progress) (name : Bytes) (value : Option Bytes) : Except Refusal Progress :=
  match name.text?.bind Flag.ofName?, name.text?.bind Setting.ofName?, value with
  | some f, _, some value => .error (.valueUnexpected value.lossy f)
  | some f, _, none => p.addFlag f
  | none, some s, some value => do
    let p ← p.settle
    return { p with options := ← p.options.put s value }
  | none, some s, none => do
    let p ← p.settle
    return { p with pending := some (.setting s none) }
  | none, none, _ => .error (.unknown ("--" ++ name.lossy))

def addPlain (p : Progress) (value : Bytes) : Except Refusal Progress :=
  match p.pending with
  | some (.setting s none) => .ok { p with pending := some (.setting s (some value)) }
  | _ => p.addTest value

def takesAnything (p : Progress) : Bool :=
  match p.pending with
  | some (.setting s none) => s.takesAnything
  | _ => false

def step (p : Progress) (argument : Bytes) : Except Refusal Progress :=
  if p.onlyTests then p.addTest argument
  else if p.takesAnything then p.addPlain argument
  else
    match Argument.read argument with
    | .separator => do return { ← p.settle with onlyTests := true }
    | .long name value => p.addLong name value
    | .short letters rest => p.addLetters rest letters.toList
    | .plain value => p.addPlain value

end Progress

def read (arguments : List Bytes) : Except Refusal Options := do
  let p ← arguments.foldlM Progress.step {}
  return (← p.settle).options

def parse (arguments : List String) : Except Refusal Options :=
  read (arguments.map Bytes.ofString)

end CommandLine

end Proctor
