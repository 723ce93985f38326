import Proctor.Tool.Awk.Statement
import Proctor.Tool.Options

/-!
# Running pattern programs

For every record of the input, the statements of the rules are done whose pattern holds.
-/

set_option autoImplicit false

namespace Proctor

namespace Tool

open Shell

namespace Awk

/-! ### Rules -/

def runBlock (p : Program) (body : Option Statement) : Run Flow := do
  match body with
  | some s => exec p depthLimit s
  | none => do
    lift (Work.say ((← record) ++ (← globalText "ORS")))
    return .go

def applies (p : Program) (index : Nat) (pattern : Pattern) : Run Bool := do
  match pattern with
  | .always => return true
  | .expr e => return (← eval p depthLimit e).isTrue
  | .range a b => do
    let isInside := (← get).ranges.contains index
    let starts ← if isInside then pure true else do pure (← eval p depthLimit a).isTrue
    if !starts then return false
    else
      let stops := (← eval p depthLimit b).isTrue
      modify fun s =>
        let others := s.ranges.filter (· ≠ index)
        { s with ranges := if stops then others else index :: others }
      return true
  | _ => return false

def runRules (p : Program) : Nat → List Rule → Run Flow
  | _, [] => return .go
  | index, r :: rest => do
    let isHit ← applies p index r.pattern
    match (← get).leaving with
    | some flow => do
      modify fun s => { s with leaving := none }
      return flow
    | none =>
      if !isHit then runRules p (index + 1) rest
      else
        match ← runBlock p r.body with
        | .go => runRules p (index + 1) rest
        | flow => return flow

def runRecords (p : Program) (rules : List Rule) : Nat → Run Flow
  | 0 => return .go
  | fuel + 1 => do
    match ← nextRecord Work.readLimit with
    | none => return .go
    | some t => do
      setRecord t
      match ← runRules p 0 rules with
      | .exit => return .exit
      | .nextFile => do
        leaveFile
        runRecords p rules fuel
      | _ => runRecords p rules fuel

def runSpecial (p : Program) : List Rule → Run Flow
  | [] => return .go
  | r :: rest => do
    match ← runBlock p r.body with
    | .exit => return .exit
    | _ => runSpecial p rest

def isBegin (r : Rule) : Bool :=
  match r.pattern with
  | .begin => true
  | _ => false

def isEnd (r : Rule) : Bool :=
  match r.pattern with
  | .end_ => true
  | _ => false

def runProgram (p : Program) : Run Nat := do
  let first := p.rules.filter isBegin
  let last := p.rules.filter isEnd
  let rules := p.rules.filter fun r => !isBegin r && !isEnd r
  let flow ← runSpecial p first
  let isOver := match flow with
    | .exit => true
    | _ => false
  if !isOver && !(rules.isEmpty && last.isEmpty) then
    let _ ← runRecords p rules Work.readLimit
  let _ ← runSpecial p last
  closeAll
  return (← get).status

/-! ### The tool -/

def numbered (texts : List Text) : Table :=
  texts.zipIdx.foldl (fun (t : Table) (x : Text × Nat) =>
    t.insert false (Text.ofNat x.2) (ofInput x.1)) {}

def environment (pairs : List (Text × Text)) : Table :=
  pairs.foldl (fun (t : Table) (x : Text × Text) => t.insert true x.1 (ofInput x.2)) {}

def startState (operands : List Text) (pairs : List (Text × Text)) : State :=
  { globals := [("NR", .number 0.0), ("FNR", .number 0.0), ("FS", .text [' ']),
      ("OFS", .text [' ']), ("ORS", .text ['\n']), ("RS", .text ['\n']),
      ("SUBSEP", .text ['\x1c']), ("CONVFMT", .text usualFormat), ("OFMT", .text usualFormat),
      ("RSTART", .number 0.0), ("RLENGTH", .number (-1.0)),
      ("ARGC", Value.ofNat (operands.length + 1))]
    arrays := [("ARGV", 0), ("ENVIRON", 1)]
    tables := #[numbered ("awk".toList :: operands), environment pairs] }

structure Setup where
  separator : Option Text := none
  assignments : List Text := []
  files : List Text := []
  rest : List Text := []

def usageText : Text := unlines [
  "Usage: mawk [Options] [Program] [file ...]".toList,
  [],
  "Program:".toList,
  "    The -f option value is the name of a file containing program text.".toList,
  "    If no -f option is given, a \"--\" ends option processing; the following".toList,
  "    parameters are the program text.".toList]

def lacks {α : Type} (letter : Char) : Work α := do
  Work.mutter ("option -".toList ++ letter :: " lacks argument".toList)
  Work.exit 2

def setup : Nat → Setup → List Text → Work Setup
  | 0, s, rest => return { s with rest }
  | fuel + 1, s, arguments => do
    match arguments with
    | ['-', '-'] :: rest => return { s with rest }
    | ('-' :: letter :: value) :: rest => do
      if letter == 'W' then setup fuel s (if value.isEmpty then rest.tail else rest)
      else if letter == 'F' || letter == 'v' || letter == 'f' then
        match value, rest with
        | [], [] => lacks letter
        | [], value :: rest => setup fuel (add s letter value) rest
        | value, rest => setup fuel (add s letter value) rest
      else do
        Work.mutter ("not an option: ".toList ++ '-' :: letter :: value)
        Work.exit 2
    | arguments => return { s with rest := arguments }
where
  add (s : Setup) (letter : Char) (value : Text) : Setup :=
    match letter with
    | 'F' => { s with separator := some value }
    | 'v' => { s with assignments := s.assignments ++ [value] }
    | _ => { s with files := s.files ++ [value] }

def readProgram : List Text → Work Text
  | [] => return []
  | path :: rest => do
    match ← Work.readSource path with
    | .ok t => return t ++ '\n' :: (← readProgram rest)
    | .error cause => do
      Work.mutter ("cannot open \"".toList ++ path ++ "\" (".toList ++ reason cause ++ [')'])
      Work.exit 2

def assignAll : List Text → Run Unit
  | [] => return ()
  | t :: rest => do
    match assignment? t with
    | some (name, value) => do
      setVariable name (outsideValue value)
      assignAll rest
    | none => giveUp ("improper assignment: -v ".toList ++ t)

def work : Work Nat := do
  Work.failingWith 2
  let q ← Work.request
  if q.arguments.isEmpty then do
    let _ ← Work.writeTo 2 usageText
    Work.exit 0
  else
    let s ← setup (q.arguments.length + 1) {} q.arguments
    let (text, operands) ←
      match s.files, s.rest with
      | [], [] => do
        let _ ← Work.writeTo 2 usageText
        Work.exit 0
      | [], program :: operands => pure (program, operands)
      | files, operands => do pure (← readProgram files, operands)
    match read text with
    | .error message => do
      Work.mutter message
      Work.exit 2
    | .ok program => do
      let action : Run Nat := do
        if let some t := s.separator then setGlobal "FS" (.text ((outsideValue t).toText []))
        assignAll s.assignments
        runProgram program
      let (status, _) ← action (startState operands q.environment)
      return status

end Awk

end Tool

end Proctor
