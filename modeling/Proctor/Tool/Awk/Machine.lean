import Proctor.Tool.Awk.Program
import Proctor.Tool.Work

/-!
# What a pattern program works on

The record at hand and its fields, names and arrays, and the files and commands that are read from
or written to. The fields are cut only when they are asked for, and the record is put together again
only after fields were set.
-/

set_option autoImplicit false

namespace Proctor

namespace Tool

open Shell

namespace Awk

inductive Flow where
  | go
  | break_
  | continue_
  | next
  | nextFile
  | exit
  | return_ (v : Value)

structure Reader where
  descriptor : Nat
  ahead : Text := []
  isOver : Bool := false
  child : Option Nat := none

inductive Sink where
  | file (number offset : Nat)
  | pipe (descriptor child : Nat)
  | output
  | errors

structure Writer where
  sink : Sink
  /-- What was printed and not yet written, last part first. -/
  pending : List Text := []
  size : Nat := 0

inductive Slot where
  | value (v : Value)
  | table (number : Nat)

structure State where
  globals : List (String × Value) := []
  arrays : List (String × Nat) := []
  tables : Array Table := #[]
  frame : List (String × Slot) := []
  record : Text := []
  fields : Array Value := #[]
  /-- The fields are those of the record. -/
  isCut : Bool := true
  /-- The record is that of the fields. -/
  isJoined : Bool := true
  readers : List (Text × Reader) := []
  writers : List (Text × Writer) := []
  main : Option Reader := none
  /-- The next operand. -/
  operand : Nat := 1
  isFed : Bool := false
  leaving : Option Flow := none
  /-- Rules in whose range the record is. -/
  ranges : List Nat := []
  status : Nat := 0
  seed : Value := .number 1.0
  random : List Nat := []
  regexes : List (Text × Regex) := []
  /-- How often a loop or a function has been entered. -/
  steps : Nat := 0

abbrev Run (α : Type) := StateT State Work α

def lift {α : Type} (w : Work α) : Run α := fun s => do
  let a ← w
  return (a, s)

/-! ### Names -/

def setName {α : Type} (name : String) (a : α) : List (String × α) → List (String × α)
  | [] => [(name, a)]
  | (other, b) :: rest =>
    if other = name then (name, a) :: rest else (other, b) :: setName name a rest

def global (name : String) : Run Value := do
  return ((← get).globals.lookup name).getD .nothing

def setGlobal (name : String) (v : Value) : Run Unit :=
  modify fun s => { s with globals := setName name v s.globals }

def usualFormat : Text := "%.6g".toList

def toText (v : Value) : Run Text := do
  match v with
  | .number f => do
    if isWhole f then return Text.ofInt (toInt f)
    else return v.toText ((← global "CONVFMT").toText usualFormat)
  | v => return v.toText usualFormat

def globalText (name : String) : Run Text := do toText (← global name)

def fatal {α : Type} (message : Text) : Run α := do
  let file ← globalText "FILENAME"
  let n ← global "NR"
  let m ← global "FNR"
  lift do
    Work.mutter ("run time error: ".toList ++ message ++ "\n\tFILENAME=\"".toList ++ file ++
      "\" FNR=".toList ++ m.toText usualFormat ++ " NR=".toList ++ n.toText usualFormat)
    Work.exit 2

def giveUp {α : Type} (message : Text) : Run α := lift do
  Work.mutter message
  Work.exit 2

def newTable : Run Nat := do
  let s ← get
  set { s with tables := s.tables.push {} }
  return s.tables.size

def tableOf (name : String) : Run Nat := do
  let s ← get
  match s.frame.lookup name with
  | some (.table number) => return number
  | some (.value _) => do
    let number ← newTable
    modify fun s => { s with frame := setName name (.table number) s.frame }
    return number
  | none =>
    match s.arrays.lookup name with
    | some number => return number
    | none => do
      let number ← newTable
      modify fun s => { s with arrays := setName name number s.arrays }
      return number

def table (number : Nat) : Run Table := do return (← get).tables.getD number {}

def setTable (number : Nat) (t : Table) : Run Unit :=
  modify fun s => { s with tables := s.tables.set! number t }

def alterTable (number : Nat) (change : Table → Table) : Run Unit :=
  modify fun s => { s with tables := s.tables.modify number change }

/-! ### Separators -/

inductive Separator where
  | blanks
  | characters
  | character (c : Char)
  | fitting (r : Regex)

def blankParts : Text → Text → List Text
  | part, [] => if part.isEmpty then [] else [part.reverse]
  | part, c :: rest =>
    if c == ' ' || c == '\t' || c == '\n' then
      if part.isEmpty then blankParts [] rest else part.reverse :: blankParts [] rest
    else blankParts (c :: part) rest

def fittingParts (r : Regex) : Nat → Option Char → Text → List Text
  | 0, _, t => [t]
  | fuel + 1, before, t =>
    match r.search {} before t with
    | none => [t]
    | some fit =>
      if fit.text.isEmpty then
        match fit.after with
        | [] => [t]
        | c :: rest =>
          match fittingParts r fuel (some c) rest with
          | first :: others => (fit.before ++ c :: first) :: others
          | [] => [t]
      else fit.before :: fittingParts r fuel fit.text.getLast? fit.after

def cut (s : Separator) (t : Text) : List Text :=
  if t.isEmpty then []
  else
    match s with
    | .blanks => blankParts [] t
    | .characters => t.map fun c => [c]
    | .character c => Text.split c t
    | .fitting r => fittingParts r (t.length + 1) none t

def regexFor (t : Text) : Run Regex := do
  match (← get).regexes.lookup t with
  | some r => return r
  | none =>
    match regexOf t with
    | .ok r => do
      modify fun s => { s with regexes := ((t, r) :: s.regexes).take 30 }
      return r
    | .error message =>
      giveUp ("run time error: regular expression compile failed (".toList ++ message ++
        ")\n".toList ++ t)

def separatorFor (t : Text) : Run Separator := do
  match t with
  | [' '] => return .blanks
  | [] => return .characters
  | [c] => return .character c
  | t => return .fitting (← regexFor t)

/-! ### The record -/

def cutRecord : Run Unit := do
  let s ← get
  if s.isCut then return ()
  else
    let separator ← separatorFor (← globalText "FS")
    let isParagraph := (← globalText "RS").isEmpty
    let parts := match separator with
      | .blanks => cut .blanks s.record
      | other =>
        if isParagraph then (Text.split '\n' s.record).flatMap (cut other)
        else cut other s.record
    modify fun s => { s with fields := (parts.map ofInput).toArray, isCut := true }

def setRecord (t : Text) : Run Unit :=
  modify fun s => { s with record := t, isCut := false, isJoined := true, fields := #[] }

/-- The record, put together from its fields if one of them was set. -/
def record : Run Text := do
  let s ← get
  if s.isJoined then return s.record
  else
    let separator ← globalText "OFS"
    let texts ← s.fields.toList.mapM toText
    let t : Text := (texts.intersperse separator).flatten
    modify fun s => { s with record := t, isJoined := true }
    return t

def setCount (n : Nat) : Run Unit := do
  cutRecord
  modify fun s =>
    let fields := if n ≤ s.fields.size then s.fields.take n
      else s.fields ++ Array.replicate (n - s.fields.size) Value.nothing
    { s with fields, isJoined := false }

def fieldLimit : Nat := 1000000

def fieldIndex (v : Value) : Run Nat := do
  let n := toInt v.toNumber
  if n < 0 then fatal ("negative field index $".toList ++ Text.ofInt n)
  else if (fieldLimit : Int) < n then fatal ("maximum field index exceeded".toList)
  else return n.toNat

def field (n : Nat) : Run Value := do
  if n = 0 then return ofInput (← record)
  else do
    cutRecord
    return (← get).fields.getD (n - 1) .nothing

def setField (n : Nat) (v : Value) : Run Unit := do
  if n = 0 then setRecord (← toText v)
  else do
    cutRecord
    if (← get).fields.size < n then setCount n
    modify fun s => { s with fields := s.fields.set! (n - 1) v, isJoined := false }

def variable_ (name : String) : Run Value := do
  let s ← get
  match s.frame.lookup name with
  | some (.value v) => return v
  | some (.table _) => fatal ("illegal reference to array ".toList ++ name.toList)
  | none =>
    if name = "NF" then do
      cutRecord
      return Value.ofNat (← get).fields.size
    else global name

def setVariable (name : String) (v : Value) : Run Unit := do
  let s ← get
  match s.frame.lookup name with
  | some _ => modify fun s => { s with frame := setName name (.value v) s.frame }
  | none =>
    if name = "NF" then do
      let n := toInt v.toNumber
      if n < 0 then fatal "negative value assigned to NF".toList else setCount n.toNat
    else setGlobal name v

def bump (name : String) : Run Unit := do
  setGlobal name (.number ((← global name).toNumber + 1.0))

/-! ### Reading -/

def Reader.fill (r : Reader) : Work (Except Cause Reader) := do
  if r.isOver then return .ok r
  else
    match ← Work.readPart r.descriptor with
    | .ok [] => return .ok { r with isOver := true }
    | .ok t => return .ok { r with ahead := r.ahead ++ t }
    | .error cause => return .error cause

inductive Ending where
  | character (c : Char)
  | paragraph
  | fitting (r : Regex)

/-- The first record of what has been read, and the rest. Without the end of the input, a record
that might go on is not taken. -/
def firstRecord (e : Ending) (isOver : Bool) (t : Text) : Option (Text × Text) :=
  match e with
  | .character c =>
    let part := t.takeWhile (· ≠ c)
    match t.drop part.length with
    | _ :: rest => some (part, rest)
    | [] => if isOver && !t.isEmpty then some (t, []) else none
  | .paragraph =>
    let t := t.dropWhile (· == '\n')
    match paragraph (t.length + 1) [] t with
    | some (part, rest) =>
      let left := rest.dropWhile (· == '\n')
      if left.isEmpty && !isOver then none else some (part, left)
    | none =>
      if isOver && !t.isEmpty then
        some (if t.getLast? == some '\n' then t.dropLast else t, [])
      else none
  | .fitting r =>
    match r.search {} none t with
    | some fit =>
      if fit.text.isEmpty then (if isOver && !t.isEmpty then some (t, []) else none)
      else if fit.after.isEmpty && !isOver then none
      else some (fit.before, fit.after)
    | none =>
      if isOver && !t.isEmpty then
        some (if t.getLast? == some '\n' then t.dropLast else t, [])
      else none
where
  paragraph : Nat → Text → Text → Option (Text × Text)
    | 0, _, _ => none
    | _, _, [] => none
    | _, part, '\n' :: '\n' :: rest => some (part.reverse, rest)
    | fuel + 1, part, c :: rest => paragraph fuel (c :: part) rest

def endingFor (t : Text) : Run Ending := do
  match t with
  | [] => return .paragraph
  | [c] => return .character c
  | t => return .fitting (← regexFor t)

def takeRecord (e : Ending) : Nat → Reader → Work (Except Cause (Reader × Option Text))
  | 0, r => return .ok (r, none)
  | fuel + 1, r => do
    match firstRecord e r.isOver r.ahead with
    | some (t, rest) => return .ok ({ r with ahead := rest }, some t)
    | none =>
      if r.isOver then return .ok ({ r with ahead := [] }, none)
      else
        match ← r.fill with
        | .ok r => takeRecord e fuel r
        | .error cause => return .error cause

/-! ### Writing -/

def Writer.flush (w : Writer) : Work Writer := do
  let t : Text := w.pending.reverse.flatten
  if t.isEmpty then return w
  else
    match w.sink with
    | .file number offset => do
      let f ← Work.files
      match (f.get number).body with
      | .descriptor d => do
        let _ ← Work.writeTo d t
        return { w with pending := [], size := 0 }
      | _ => do
        Work.alter fun f => f.writeAt number offset t.toBytes
        return { sink := .file number (offset + t.length) }
    | .pipe descriptor _ => do
      let _ ← Work.writeTo descriptor t
      return { w with pending := [], size := 0 }
    | .output => do
      Work.say t
      return { w with pending := [], size := 0 }
    | .errors => do
      let _ ← Work.writeTo 2 t
      return { w with pending := [], size := 0 }

def Writer.put (w : Writer) (t : Text) : Work Writer := do
  let w := { w with pending := t :: w.pending, size := w.size + t.length }
  match w.sink with
  | .output => w.flush
  | .errors => w.flush
  | _ => if Work.holding ≤ w.size then w.flush else return w

def flushAll : Run Unit := do
  let writers ← (← get).writers.mapM fun (name, w) => do return (name, ← lift w.flush)
  modify fun s => { s with writers }
  lift Work.flush

def statusValue (status : Option Status) : Value :=
  match status with
  | none => .number 0.0
  | some status =>
    match status.signal? with
    | some n => Value.ofNat (256 + n)
    | none => Value.ofNat status.exitCode

def Writer.close (w : Writer) : Work Value := do
  let w ← w.flush
  match w.sink with
  | .pipe descriptor child => do
    Work.close descriptor
    return statusValue (← Work.ask (.await child none))
  | _ => return .number 0.0

def Reader.close (r : Reader) : Work Value := do
  if r.descriptor ≠ 0 then Work.close r.descriptor
  match r.child with
  | none => return .number 0.0
  | some child => return statusValue (← Work.ask (.await child none))

def closeAll : Run Unit := do
  lift Work.flush
  for (_, w) in (← get).writers do
    let _ ← lift w.close
  modify fun s => { s with writers := [] }
  lift Work.flush

def shellCall (command : Text) : Run Tool.Call := do
  let q ← lift Work.request
  return { name := "/bin/sh".toList, arguments := ["-c".toList, command]
           environment := q.environment }

def openWriter (append isCommand : Bool) (name : Text) : Run Writer := do
  if isCommand then do
    flushAll
    let call ← shellCall name
    let w ← lift do
      let (r, w) ← Work.ask fun next => .pipe fun r w => next (r, w)
      match ← Work.ask (.start call [(0, some r), (r, none), (w, none)]) with
      | .ok child => do
        Work.close r
        pure { sink := .pipe w child : Writer }
      | .error _ => pure { sink := .output }
    return w
  else if name = "/dev/stdout".toList || name = ['-'] then return { sink := .output }
  else if name = "/dev/stderr".toList then return { sink := .errors }
  else
    match ← lift (Work.change fun f => f.openForWriting (pathOf name) { truncates := !append }) with
    | .ok number => do
      let f ← lift Work.files
      return { sink := .file number (if append then (f.get number).size else 0) }
    | .error cause =>
      giveUp ("cannot open \"".toList ++ name ++ "\" for output (".toList ++ reason cause ++ [')'])

def printTo (append isCommand : Bool) (name t : Text) : Run Unit := do
  let w ←
    match (← get).writers.lookup name with
    | some w => pure w
    | none => openWriter append isCommand name
  let w ← lift (w.put t)
  modify fun s => { s with writers := (name, w) :: s.writers.filter fun x => x.1 ≠ name }

def openReader (isCommand : Bool) (name : Text) : Run (Option Reader) := do
  if isCommand then do
    flushAll
    let call ← shellCall name
    lift do
      let (r, w) ← Work.ask fun next => .pipe fun r w => next (r, w)
      match ← Work.ask (.start call [(1, some w), (r, none), (w, none)]) with
      | .ok child => do
        Work.close w
        return some { descriptor := r, child := some child }
      | .error _ => return none
  else if name = ['-'] || name = "/dev/stdin".toList then return some { descriptor := 0 }
  else
    match ← lift (Work.ask (.open_ name)) with
    | .ok descriptor => return some { descriptor }
    | .error _ => return none

def closeNamed (name : Text) : Run Value := do
  let s ← get
  match s.writers.lookup name, s.readers.lookup name with
  | some w, _ => do
    lift Work.flush
    let v ← lift w.close
    modify fun s => { s with writers := s.writers.filter fun x => x.1 ≠ name }
    return v
  | none, some r => do
    let v ← lift r.close
    modify fun s => { s with readers := s.readers.filter fun x => x.1 ≠ name }
    return v
  | none, none => return .number (-1.0)

/-! ### The main input -/

def assignment? (t : Text) : Option (String × Text) :=
  match Text.cutAt (· == '=') t with
  | (name, some value) =>
    if (name.head?.map fun c => c.isAlpha || c == '_').getD false && name.all isNameChar then
      some (String.ofList name, value)
    else none
  | _ => none

def outsideValue (t : Text) : Value :=
  ofInput (((stringBody (t.length + 2) []
    (t.flatMap (fun c => if c == '"' then ['\\', '"'] else [c]) ++ ['"'])).map Prod.fst).getD t)

def openMain : Nat → Run Bool
  | 0 => return false
  | fuel + 1 => do
    let s ← get
    let count := toInt (← global "ARGC").toNumber
    if count ≤ (s.operand : Int) then
      if s.isFed then return false
      else do
        modify fun s => { s with isFed := true, main := some { descriptor := 0 } }
        return true
    else
      let arguments ← table (← tableOf "ARGV")
      modify fun s => { s with operand := s.operand + 1 }
      match arguments.get? (Text.ofNat s.operand) with
      | none => openMain fuel
      | some v => do
        let t ← toText v
        if t.isEmpty then openMain fuel
        else
          match assignment? t with
          | some (name, value) => do
            setVariable name (outsideValue value)
            openMain fuel
          | none => do
            setGlobal "FILENAME" (.text t)
            setGlobal "FNR" (.number 0.0)
            if t = ['-'] || t = "/dev/stdin".toList then do
              modify fun s => { s with isFed := true, main := some { descriptor := 0 } }
              return true
            else
              match ← lift (Work.ask (.open_ t)) with
              | .ok descriptor => do
                modify fun s => { s with isFed := true, main := some { descriptor } }
                return true
              | .error cause =>
                giveUp ("cannot open \"".toList ++ t ++ "\" (".toList ++ reason cause ++ [')'])

def nextRecord : Nat → Run (Option Text)
  | 0 => return none
  | fuel + 1 => do
    match (← get).main with
    | none => if ← openMain Work.readLimit then nextRecord fuel else return none
    | some r => do
      let e ← endingFor (← globalText "RS")
      match ← lift (takeRecord e Work.readLimit r) with
      | .error cause => giveUp ("read error (".toList ++ reason cause ++ [')'])
      | .ok (r, some t) => do
        modify fun s => { s with main := some r }
        bump "NR"
        bump "FNR"
        return some t
      | .ok (r, none) => do
        if r.descriptor ≠ 0 then lift (Work.close r.descriptor)
        modify fun s => { s with main := none }
        nextRecord fuel

def leaveFile : Run Unit := do
  match (← get).main with
  | some r => do
    if r.descriptor ≠ 0 then lift (Work.close r.descriptor)
    modify fun s => { s with main := none }
  | none => return ()

/-! ### Random numbers -/

/-- The last thirty-four numbers of a sequence that starts from a seed, the last one first. -/
def seeded (seed : Nat) : List Nat :=
  let seed := if seed = 0 then 1 else seed
  let first := (List.range 30).foldl (fun list _ =>
    match list with
    | r :: _ => (16807 * r) % 2147483647 :: list
    | [] => []) [seed]
  let start := (List.range 3).foldl (fun list _ => (list.getD 30 0) :: list) first
  (List.range 310).foldl (fun list _ => draw list) start
where
  draw (list : List Nat) : List Nat :=
    (((list.getD 2 0) + (list.getD 30 0)) % 4294967296 :: list).take 34

def drawn (list : List Nat) : Float × List Nat :=
  let list := seeded.draw list
  (Float.ofNat ((list.headD 0) / 2) / 2147483647.0, list)

end Awk

end Tool

end Proctor
