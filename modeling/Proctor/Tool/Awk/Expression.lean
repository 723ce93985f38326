import Proctor.Tool.Awk.Calculation

/-!
# Expressions of pattern programs

The value of an expression is worked out from the values of its parts, whatever gives those: what an
expression does is told apart from how deep expressions go.
-/

set_option autoImplicit false

namespace Proctor

namespace Tool

open Shell

namespace Awk

structure Below where
  program : Program
  value : Expr → Run Value
  run : Statement → Run Flow

/-- Lets time go by now and then. The longer a program runs, the longer it rests. -/
def rest : Run Unit := do
  let s ← get
  set { s with steps := s.steps + 1 }
  if s.steps % 512 = 511 then lift (Work.rest (s.steps / 512)) else pure ()

def keyOf (values : List Value) : Run (Text × Bool) := do
  match values with
  | [.number f] => return (← toText (.number f), false)
  | [v] => return (← toText v, true)
  | values => do
    let separator ← globalText "SUBSEP"
    return ((← values.mapM toText).intersperse separator |>.flatten, true)

/-- An element of an array, which is there from now on. -/
def element (number : Nat) (key : Text) (asText : Bool) : Run Value := do
  match (← table number).get? key with
  | some v => return v
  | none => do
    alterTable number fun t => t.insert asText key .nothing
    return .nothing

def functionNamed (p : Program) (name : String) : Option Function :=
  p.functions.find? fun f => f.name = name

def left : Run Flow := do
  match (← get).leaving with
  | none => return .go
  | some flow => do
    modify fun s => { s with leaving := none }
    return flow

def bare : Expr → Expr
  | .group [e] => bare e
  | e => e

section Parts

variable (b : Below)

def valuesOf : List Expr → Run (List Value)
  | [] => return []
  | e :: rest => do
    let v ← b.value e
    return v :: (← valuesOf rest)

def textOf (e : Expr) : Run Text := do toText (← b.value e)

def amountOf (e : Expr) : Run Float := do return (← b.value e).toNumber

def sought (e : Expr) : Run Regex := do
  match bare e with
  | .regex r => return r
  | e => do regexFor (← textOf b e)

/-! ### Places -/

def getPlace (place : Place) : Run Value := do
  match place with
  | .name s => variable_ s
  | .field e => do field (← fieldIndex (← b.value e))
  | .element array keys => do
    let values ← valuesOf b keys
    let (key, asText) ← keyOf values
    element (← tableOf array) key asText

def setPlace (place : Place) (v : Value) : Run Unit := do
  match place with
  | .name s => setVariable s v
  | .field e => do
    let n ← fieldIndex (← b.value e)
    setField n v
  | .element array keys => do
    let values ← valuesOf b keys
    let (key, asText) ← keyOf values
    let number ← tableOf array
    alterTable number fun t => t.insert asText key v

/-! ### Functions of the program -/

def bind (arrays : List String) : List String → List Expr → Run (List (String × Slot))
  | [], _ => return []
  | parameter :: parameters, arguments => do
    let slot ←
      match arguments with
      | .get (.name s) :: _ =>
        if arrays.contains parameter then do pure (Slot.table (← tableOf s))
        else do pure (Slot.value (← variable_ s))
      | e :: _ => do pure (Slot.value (← b.value e))
      | [] =>
        if arrays.contains parameter then do pure (Slot.table (← newTable))
        else pure (Slot.value .nothing)
    return (parameter, slot) :: (← bind arrays parameters arguments.tail)

def call (name : String) (arguments : List Expr) : Run Value := do
  match functionNamed b.program name with
  | none => return .nothing
  | some f => do
    rest
    let slots ← bind b f.arrays f.parameters arguments
    let before := (← get).frame
    modify fun s => { s with frame := slots }
    let flow ← b.run f.body
    modify fun s => { s with frame := before }
    match flow with
    | .return_ v => return v
    | .exit => do
      modify fun s => { s with leaving := some .exit }
      return .nothing
    | .next => do
      modify fun s => { s with leaving := some .next }
      return .nothing
    | _ => return .nothing

/-! ### Functions that are built in -/

def lengthOf (arguments : List Expr) : Run Value := do
  match arguments with
  | [] => return Value.ofNat (← record).length
  | [.get (.name s)] => do
    let isArray := match (← get).frame.lookup s with
      | some (.table _) => true
      | some (.value _) => false
      | none => b.program.arrays.contains s
    if isArray then return Value.ofNat (← table (← tableOf s)).size
    else return Value.ofNat (← toText (← variable_ s)).length
  | e :: _ => return Value.ofNat (← textOf b e).length

def splitInto (e : Expr) (array : String) (more : List Expr) : Run Value := do
  let t ← textOf b e
  let separator ←
    match more with
    | [.regex r] => pure (Separator.fitting r)
    | [e] => do separatorFor (← textOf b e)
    | _ => do separatorFor (← globalText "FS")
  let parts := cut separator t
  let number ← tableOf array
  let filled := parts.zipIdx.foldl (fun (t : Table) (x : Text × Nat) =>
    t.insert false (Text.ofNat (x.2 + 1)) (ofInput x.1)) {}
  setTable number filled
  return Value.ofNat parts.length

def locate (e pattern : Expr) : Run Value := do
  let t ← textOf b e
  let r ← sought b pattern
  let (start, length) : Float × Float := match r.search {} none t with
    | some fit => (Float.ofNat (fit.before.length + 1), Float.ofNat fit.text.length)
    | none => (0.0, -1.0)
  setGlobal "RSTART" (.number start)
  setGlobal "RLENGTH" (.number length)
  return .number start

def replace (all : Bool) (pattern by_ : Expr) (places : List Expr) : Run Value := do
  let r ← sought b pattern
  let by_ ← textOf b by_
  let place : Place := match places with
    | [.get place] => place
    | _ => .field (.number 0.0)
  let t ←
    match places with
    | [] => record
    | e :: _ => textOf b e
  let (parts, n) := substitute r all by_ (t.length + 2) none false t [] 0
  let isPlace := match places with
    | [] => true
    | [.get _] => true
    | _ => false
  if 0 < n && isPlace then setPlace b place (.text parts.reverse.flatten)
  return Value.ofNat n

def draw : Run Value := do
  let s ← get
  let sequence := if s.random.isEmpty then seeded (toInt s.seed.toNumber).natAbs else s.random
  let (f, sequence) := drawn sequence
  set { s with random := sequence }
  return .number f

def restart (arguments : List Expr) : Run Value := do
  let before := (← get).seed
  let v ←
    match arguments with
    | e :: _ => b.value e
    | [] => do pure (Value.ofNat ((← lift Work.files).now / 1000000000))
  modify fun s => { s with seed := v, random := seeded (toInt v.toNumber).natAbs }
  return before

def runCommand (command : Text) : Run Value := do
  flushAll
  match ← lift (Work.run (← shellCall command)) with
  | .ok status => return statusValue (some status)
  | .error _ => return .number 127.0

def numeric? (name : String) : Option (Float → Float) :=
  match name with
  | "sin" => some Float.sin
  | "cos" => some Float.cos
  | "exp" => some Float.exp
  | "log" => some Float.log
  | "sqrt" => some Float.sqrt
  | "int" => some truncated
  | _ => none

def builtin (name : String) (arguments : List Expr) : Run Value := do
  match name, arguments with
  | "length", es => lengthOf b es
  | "substr", [e, start] => do
    let t ← textOf b e
    return .text (part t (← amountOf b start) none)
  | "substr", [e, start, count] => do
    let t ← textOf b e
    let m ← amountOf b start
    return .text (part t m (some (← amountOf b count)))
  | "index", [e, wanted] => do
    let t ← textOf b e
    let wanted ← textOf b wanted
    return Value.ofNat (indexOf wanted 1 t)
  | "split", e :: .get (.name array) :: more => splitInto b e array more
  | "match", [e, pattern] => locate b e pattern
  | "sub", pattern :: by_ :: places => replace b false pattern by_ places
  | "gsub", pattern :: by_ :: places => replace b true pattern by_ places
  | "sprintf", es => do return .text (← layOut "sprintf" (← valuesOf b es))
  | "atan2", [y, x] => do
    let y ← amountOf b y
    return .number (Float.atan2 y (← amountOf b x))
  | "rand", _ => draw
  | "srand", es => restart b es
  | "tolower", [e] => return .text ((← textOf b e).map Char.toLower)
  | "toupper", [e] => return .text ((← textOf b e).map Char.toUpper)
  | "system", [e] => do runCommand (← textOf b e)
  | "close", [e] => do closeNamed (← textOf b e)
  | "fflush", _ => do
    flushAll
    return .number 0.0
  | name, [e] =>
    match numeric? name with
    | some f => return .number (f (← amountOf b e))
    | none => return .nothing
  | _, _ => return .nothing

/-! ### Reading -/

def keep (place : Option Place) (t : Text) : Run Unit :=
  match place with
  | some place => setPlace b place (ofInput t)
  | none => setRecord t

def getline (origin : Origin) (source : Option Expr) (place : Option Place) : Run Value := do
  match origin, source with
  | .main, _ => do
    match ← nextRecord Work.readLimit with
    | none => return .number 0.0
    | some t => do
      keep b place t
      return .number 1.0
  | _, none => return .number 0.0
  | origin, some e => do
    let name ← textOf b e
    let reader ←
      match (← get).readers.lookup name with
      | some r => pure (some r)
      | none => openReader (origin == .command) name
    match reader with
    | none => return .number (-1.0)
    | some r => do
      let ending ← endingFor (← globalText "RS")
      match ← lift (takeRecord ending Work.readLimit r) with
      | .error _ => return .number (-1.0)
      | .ok (r, t) => do
        modify fun s =>
          { s with readers := (name, r) :: s.readers.filter fun x => x.1 ≠ name }
        match t with
        | none => return .number 0.0
        | some t => do
          if origin == .command then bump "NR"
          keep b place t
          return .number 1.0

/-! ### Values -/

def valueOf (e : Expr) : Run Value := do
  match e with
  | .number f => return .number f
  | .text t => return .text t
  | .regex r => return Value.ofBool (r.isIn {} (← record))
  | .get place => getPlace b place
  | .assign place none e => do
    let v ← b.value e
    setPlace b place v
    return v
  | .assign place (some op) e => do
    let y ← b.value e
    let x ← getPlace b place
    let v := Value.number (calculate op x.toNumber y.toNumber)
    setPlace b place v
    return v
  | .step place up first => do
    let x := (← getPlace b place).toNumber
    let y := if up then x + 1.0 else x - 1.0
    setPlace b place (.number y)
    return .number (if first then y else x)
  | .negative e => return .number (-(← b.value e).toNumber)
  | .positive e => return .number (← b.value e).toNumber
  | .not e => return Value.ofBool !(← b.value e).isTrue
  | .arithmetic op e f => do
    let x ← b.value e
    let y ← b.value f
    return .number (calculate op x.toNumber y.toNumber)
  | .join e f => do
    let x ← b.value e
    let y ← b.value f
    return .text ((← toText x) ++ (← toText y))
  | .compare op e f => do
    let x ← b.value e
    let y ← b.value f
    return Value.ofBool (holds op (before (← globalText "CONVFMT") x y))
  | .fits negated e f => do
    let t ← textOf b e
    let r ← sought b f
    return Value.ofBool (r.isIn {} t != negated)
  | .and e f => do
    let x ← b.value e
    if !x.isTrue then return Value.ofBool false
    else return Value.ofBool (← b.value f).isTrue
  | .or e f => do
    let x ← b.value e
    if x.isTrue then return Value.ofBool true
    else return Value.ofBool (← b.value f).isTrue
  | .choice c e f => do
    let x ← b.value c
    if x.isTrue then b.value e else b.value f
  | .isIn keys array => do
    let values ← valuesOf b keys
    let (key, _) ← keyOf values
    return Value.ofBool ((← table (← tableOf array)).get? key).isSome
  | .group [e] => b.value e
  | .group es => do
    let values ← valuesOf b es
    let (key, _) ← keyOf values
    return .text key
  | .call name arguments => call b name arguments
  | .builtin name arguments => builtin b name arguments
  | .getline origin source place => getline b origin source place

end Parts

end Awk

end Tool

end Proctor
