import Proctor.Tool.Awk.Expression

/-!
# Statements of pattern programs

A statement is done with the values of its expressions and the statements in it. Expressions and
statements go down into each other up to a depth.
-/

set_option autoImplicit false

namespace Proctor

namespace Tool

open Shell

namespace Awk

section Parts

variable (b : Below)

def output (target : Target) (t : Text) : Run Unit := do
  match target with
  | .output => lift (Work.say t)
  | .file e => do printTo false false (← textOf b e) t
  | .append e => do printTo true false (← textOf b e) t
  | .command e => do printTo false true (← textOf b e) t

def runAll : List Statement → Run Flow
  | [] => return .go
  | s :: rest => do
    match ← b.run s with
    | .go => runAll rest
    | flow => return flow

def stepLimit : Nat := 1000000000

/-- Does a statement as long as a condition holds, with another one after it every time. -/
def loop (condition : Option Expr) (afterwards : Option Statement) (s : Statement) :
    Nat → Run Flow
  | 0 => return .exit
  | fuel + 1 => do
    rest
    let x ← match condition with
      | some c => b.value c
      | none => pure (Value.ofBool true)
    if !x.isTrue then left
    else
      let again : Run Flow := do
        let flow ← match afterwards with
          | some s => b.run s
          | none => pure .go
        match flow with
        | .go => loop condition afterwards s fuel
        | flow => return flow
      match ← b.run s with
      | .break_ => return .go
      | .go => again
      | .continue_ => again
      | flow => return flow

def loopKeys (name : String) (s : Statement) : List Text → Run Flow
  | [] => return .go
  | key :: keys => do
    rest
    setVariable name (.text key)
    match ← b.run s with
    | .break_ => return .go
    | .go => loopKeys name s keys
    | .continue_ => loopKeys name s keys
    | flow => return flow

def printedLine (es : List Expr) : Run Text := do
  let values ← valuesOf b es
  let t ←
    match values with
    | [] => record
    | values => do
      let format ← globalText "OFMT"
      let separator ← globalText "OFS"
      pure ((values.map (Value.toText format)).intersperse separator |>.flatten)
  return t ++ (← globalText "ORS")

def perform (s : Statement) : Run Flow := do
  match s with
  | .expr e => do
    let _ ← b.value e
    left
  | .print es target => do
    output b target (← printedLine b es)
    left
  | .printf es target => do
    output b target (← layOut "printf" (← valuesOf b es))
    left
  | .block ss => runAll b ss
  | .choice c yes no => do
    let x ← b.value c
    if x.isTrue then b.run yes
    else
      match no with
      | some s => b.run s
      | none => left
  | .while_ c s => loop b (some c) none s stepLimit
  | .doWhile s c => do
    match ← b.run s with
    | .go => loop b (some c) none s stepLimit
    | .continue_ => loop b (some c) none s stepLimit
    | .break_ => return .go
    | flow => return flow
  | .for_ first c afterwards s => do
    let flow ← match first with
      | some first => b.run first
      | none => pure .go
    match flow with
    | .go => loop b c afterwards s stepLimit
    | flow => return flow
  | .forKeys key array s => do
    let keys := (← table (← tableOf array)).keys
    loopKeys b key s keys
  | .break_ => return .break_
  | .continue_ => return .continue_
  | .next => return .next
  | .nextFile => return .nextFile
  | .exit e => do
    match e with
    | some e => do
      let n := toInt (← b.value e).toNumber
      modify fun s => { s with status := (n % 256).toNat }
    | none => pure ()
    return .exit
  | .return_ e => do
    match e with
    | some e => return .return_ (← b.value e)
    | none => return .return_ .nothing
  | .delete array keys => do
    let values ← valuesOf b keys
    let (key, _) ← keyOf values
    let number ← tableOf array
    alterTable number fun t => t.erase key
    return .go
  | .clear array => do
    setTable (← tableOf array) {}
    return .go

end Parts

def overflow {α : Type} : Run α := fun _ _ _ _ => .die 11

mutual

def eval (p : Program) : Nat → Expr → Run Value
  | 0, _ => overflow
  | depth + 1, e => valueOf ⟨p, eval p depth, exec p depth⟩ e

def exec (p : Program) : Nat → Statement → Run Flow
  | 0, _ => overflow
  | depth + 1, s => perform ⟨p, eval p depth, exec p depth⟩ s

end

def depthLimit : Nat := 200000

end Awk

end Tool

end Proctor
