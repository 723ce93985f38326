import Proctor.Files.Resolve
import Proctor.Shell.Arithmetic
import Proctor.Shell.Context
import Proctor.Shell.Pattern
import Proctor.Shell.User

/-!
# Expansion

Words become fields: parameters, outputs of commands and arithmetic are put in their places, what
was not quoted is cut at separators, and patterns are replaced by the files they fit. An expansion
that needs the output of a command stops there and says so; once the output is known, it is done
again from its start with that output and those before it.
-/

set_option autoImplicit false

namespace Proctor

namespace Shell

inductive Atom where
  | char (c : Char) (quoted : Bool) (splits : Bool)
  | kept
  | boundary
  | vanished
  deriving DecidableEq, Repr, Inhabited

inductive Trouble where
  | unset (name : Text) (message : Text)
  | arithmetic (trouble : Arithmetic.Trouble) (expression : Text)
  | badSubstitution
  | readOnly (name : Text)
  deriving DecidableEq, Repr

def Trouble.message : Trouble → Text
  | .badSubstitution => "Bad substitution".toList
  | .readOnly name => name ++ ": is read only".toList
  | .unset name message => name ++ ": ".toList ++ message
  | .arithmetic (.illegalNumber text) _ => "Illegal number: ".toList ++ text
  | .arithmetic (.frozen name) _ => name ++ ": is read only".toList
  | .arithmetic (.malformed what) expression =>
    ("arithmetic expression: " ++ what ++ ": \"").toList ++ expression ++ ['\x22']
  | .arithmetic .divisionByZero expression =>
    "arithmetic expression: division by zero: \"".toList ++ expression ++ ['\x22']

/-- Why an expansion cannot go on: for good, or until the output of a command is known. The command
is to be carried out by a shell that knows what this one knows by then. -/
inductive Obstacle where
  | trouble (t : Trouble)
  | needs (body : Command) (context : Context)

structure Expander where
  context : Context
  outputs : List Text := []
  deriving Inhabited

abbrev Expanding := StateT Expander (Except Obstacle)

namespace Expanding

def fail {α : Type} (t : Trouble) : Expanding α := fun _ => .error (.trouble t)

def context : Expanding Context := fun s => .ok (s.context, s)

def output (body : Command) : Expanding Text := fun s =>
  match s.outputs with
  | [] => .error (.needs body s.context)
  | text :: rest => .ok (text, { s with outputs := rest })

def assign (name value : Text) : Expanding Unit := fun s =>
  if s.context.isFrozen name then .error (.trouble (.readOnly name))
  else .ok ((), { s with context := s.context.setVariable name value })

end Expanding

def atoms (quoted : Bool) (text : Text) : List Atom :=
  (if quoted then [.kept] else []) ++ text.map fun c => .char c quoted (!quoted)

def separated (quoted : Bool) : List Text → List Atom
  | [] => if quoted then [.vanished] else []
  | [t] => atoms quoted t
  | t :: rest => atoms quoted t ++ .boundary :: separated quoted rest

def plain : List Atom → Text
  | [] => []
  | .char c _ _ :: rest => c :: plain rest
  | .boundary :: rest => ' ' :: plain rest
  | _ :: rest => plain rest

def marked : List Atom → List Marked
  | [] => []
  | .char c quoted _ :: rest => (c, quoted) :: marked rest
  | .boundary :: rest => (' ', true) :: marked rest
  | _ :: rest => marked rest

def joinWith (separator : Text) : List Text → Text
  | [] => []
  | [t] => t
  | t :: rest => t ++ separator ++ joinWith separator rest

def allParameters (c : Context) (name : Text) (quoted : Bool) : List Atom :=
  if name = ['*'] && quoted then atoms true (joinWith (c.separators.take 1) c.values)
  else separated quoted c.values

def isList (name : Text) : Bool := name = ['@'] || name = ['*']

def valueOf (c : Context) (name : Text) : Option Text :=
  if isList name then
    some (joinWith (if name = ['*'] then c.separators.take 1 else [' ']) c.values)
  else c.parameter? name

def names : Arithmetic.Names Context where
  get c name :=
    match c.binding? name with
    | none => .ok 0
    | some value =>
      match Arithmetic.valueOf? value with
      | some n => .ok n
      | none => .error (.illegalNumber value)
  set c name n :=
    if c.isFrozen name then .error (.frozen name)
    else .ok (c.setVariable name (Text.ofInt n))

def evaluate (expression : Text) : Expanding Text := fun s =>
  match Arithmetic.parse expression with
  | .error t => .error (.trouble (.arithmetic t expression))
  | .ok e =>
    match Arithmetic.eval names e s.context with
    | .error t => .error (.trouble (.arithmetic t expression))
    | .ok (n, context) => .ok (Text.ofInt n, { s with context })

def unsetMessage (colon : Bool) (word : Text) : Text :=
  if !word.isEmpty then word
  else if colon then "parameter not set or null".toList
  else "parameter not set".toList

/-- The output of a command as a value: without the line ends at its end, and without characters
that no value can hold. -/
def outputValue (t : Text) : Text :=
  ((t.filter (· != '\x00')).reverse.dropWhile (· == '\n')).reverse

/-! ### Home directories -/

/-- Where a tilde has a meaning: nowhere, at the start of a word, or also after the colons of a
value. -/
inductive Homing where
  | nowhere
  | atStart
  | inValue
  deriving DecidableEq, Repr

def homeOf? (c : Context) (name : Text) : Option Text :=
  if name.isEmpty then c.binding? "HOME".toList
  else (User.find? name).map fun u => u.home.toList

/-- The characters of a plain text, with home directories in the place of tildes. `ready` tells
whether a tilde may come now, and `last` whether the word ends with the text. -/
def homed (c : Context) (homing : Homing) (splits last : Bool) :
    Nat → Bool → Text → List Atom
  | 0, _, _ => []
  | _, _, [] => []
  | fuel + 1, true, '~' :: rest =>
    let ends (ch : Char) : Bool := ch == '/' || (homing = .inValue && ch == ':')
    let name := rest.takeWhile fun ch => !ends ch
    let after := rest.drop name.length
    match if after.isEmpty && !last then none else homeOf? c name with
    | some home =>
      home.map (fun ch => .char ch true false) ++ homed c homing splits last fuel false after
    | none => .char '~' false splits :: homed c homing splits last fuel false rest
  | fuel + 1, _, ch :: rest =>
    .char ch false splits ::
      homed c homing splits last fuel (homing = .inValue && ch == ':') rest

/-! ### Pieces -/

mutual

/-- The characters of a piece. `splits` tells whether plain text is cut like a value, `ready`
whether a tilde may start the piece, and `last` whether it is the last one of its word. -/
def expandPiece (homing : Homing) (splits ready last : Bool) : Piece → Expanding (List Atom)
  | .literal text true => return .kept :: text.map fun c => .char c true false
  | .literal text false => do
    return homed (← Expanding.context) homing splits last (text.length + 1) ready text
  | .output body quoted => do
    return atoms quoted (outputValue (← Expanding.output body))
  | .arithmetic expression quoted => do
    let text := plain (← expandPieces .nowhere false false expression)
    return atoms quoted (← evaluate text)
  | .parameter name form word quoted => do
    let c ← Expanding.context
    let value := valueOf c name
    let given (colon : Bool) :=
      match value with
      | none => false
      | some v => !(colon && v.isEmpty)
    let whole := if isList name then allParameters c name quoted else atoms quoted (value.getD [])
    let homing : Homing :=
      if quoted then .nowhere else if homing = .inValue then .inValue else .atStart
    let inPlace : Expanding (List Atom) := do
      return (if quoted then [.kept] else []) ++
        (← expandPieces homing (!quoted) (homing ≠ .nowhere) word)
    let required : Expanding Unit :=
      if value.isNone && c.has 'u' then Expanding.fail (.unset name "parameter not set".toList)
      else pure ()
    match form with
    | .bad => Expanding.fail .badSubstitution
    | .value => do
      required
      return whole
    | .length => do
      required
      return atoms quoted (Text.ofNat (value.getD []).length)
    | .fallback colon => if given colon then return whole else inPlace
    | .alternative colon =>
      if given colon then inPlace else return if quoted then [.kept] else []
    | .assign colon =>
      if given colon then return whole
      else do
        let text := plain (← expandPieces homing false (homing ≠ .nowhere) word)
        if Text.isName name then do
          Expanding.assign name text
          return atoms quoted text
        else Expanding.fail (.unset name "bad variable name".toList)
    | .require colon =>
      if given colon then return whole
      else do
        let text := plain (← expandPieces homing false (homing ≠ .nowhere) word)
        Expanding.fail (.unset name (unsetMessage colon text))
    | .dropFront longest => do
      required
      let pattern := Matcher.compile (marked (← expandPieces .atStart false true word))
      return atoms quoted (Matcher.dropFront longest pattern (value.getD []))
    | .dropBack longest => do
      required
      let pattern := Matcher.compile (marked (← expandPieces .atStart false true word))
      return atoms quoted (Matcher.dropBack longest pattern (value.getD []))

def expandPieces (homing : Homing) (splits ready : Bool) : List Piece → Expanding (List Atom)
  | [] => return []
  | piece :: rest => do
    let first ← expandPiece homing splits ready rest.isEmpty piece
    return first ++ (← expandPieces homing splits false rest)

end

structure Splitter where
  done : List (List Marked) := []
  current : List Marked := []
  begun : Bool := false
  vanished : Bool := false
  /-- A blank has just ended a field. -/
  afterBlank : Bool := false

namespace Splitter

def close (s : Splitter) : Splitter :=
  if s.begun && !(s.current.isEmpty && s.vanished) then
    { done := s.current.reverse :: s.done }
  else { done := s.done }

def isBlank (c : Char) : Bool := c == ' ' || c == '\t' || c == '\n'

def step (separators : Text) (s : Splitter) : Atom → Splitter
  | .kept => { s with begun := true, afterBlank := false }
  | .vanished => { s with vanished := true }
  | .boundary => s.close
  | .char c quoted splits =>
    if splits && separators.contains c then
      if isBlank c then { s.close with afterBlank := s.begun || s.afterBlank }
      else if s.begun then s.close
      else if s.afterBlank then { s with afterBlank := false }
      else { s with done := [] :: s.done }
    else { s with current := (c, quoted) :: s.current, begun := true, afterBlank := false }

end Splitter

def fields (separators : Text) (word : List Atom) : List (List Marked) :=
  ((word.foldl (Splitter.step separators) {}).close).done.reverse

def fieldPieces : List Marked → List (List Marked)
  | [] => [[]]
  | (c, quoted) :: rest =>
    if c = '/' then [] :: fieldPieces rest
    else
      match fieldPieces rest with
      | [] => [[(c, quoted)]]
      | piece :: pieces => ((c, quoted) :: piece) :: pieces

def fittingNames (files : Files) (dir : Text) (pattern : List Matcher) : List Text :=
  let path := if dir.isEmpty then Path.ofString "." else pathOf dir
  let visible (name : Text) := name.head? != some '.' || pattern.head? == some (.exactly '.')
  match files.names path with
  | .error _ => []
  | .ok names =>
    let all := [['.'], ['.', '.']] ++ names.map Bytes.toText
    let fitting := all.filter fun name => visible name && Matcher.fits pattern name
    fitting.mergeSort fun a b => decide (String.ofList a ≤ String.ofList b)

def fittingPaths (files : Files) : Text → List (List Marked) → List Text
  | start, [] => [start]
  | start, piece :: rest =>
    let pattern := Matcher.compile piece
    let go (name : Text) : List Text :=
      match rest with
      | [] => if (files.nodeItself (pathOf (start ++ name))).toBool then [start ++ name] else []
      | _ => fittingPaths files (start ++ name ++ ['/']) rest
    if Matcher.isActive pattern then (fittingNames files start pattern).flatMap go
    else go (pattern.filterMap fun m =>
      match m with
      | .exactly c => some c
      | _ => none)

def matchFiles (files : Files) (enabled : Bool) (field : List Marked) : List Text :=
  let plain := field.map Prod.fst
  if enabled && (fieldPieces field).any (fun piece => Matcher.isActive (Matcher.compile piece)) then
    match fittingPaths files [] (fieldPieces field) with
    | [] => [plain]
    | paths => paths
  else [plain]

def expandWord (files : Files) (word : Word) : Expanding (List Text) := do
  let expanded ← expandPieces .atStart false true word
  let c ← Expanding.context
  return (fields c.separators expanded).flatMap (matchFiles files (!c.has 'f'))

def expandText (homing : Homing) (word : Word) : Expanding Text := do
  return plain (← expandPieces homing false (homing ≠ .nowhere) word)

def expandPattern (word : Word) : Expanding (List Matcher) := do
  return Matcher.compile (marked (← expandPieces .atStart false true word))

def assignmentParts (word : Word) : Text × Word :=
  match word with
  | .literal text quoted :: rest =>
    let (name, value) := Text.cutAt (· == '=') text
    (name, match value with
      | none => rest
      | some [] => rest
      | some value => .literal value quoted :: rest)
  | word => ([], word)

end Shell

end Proctor
