import Proctor.Tool.Awk.Machine

/-!
# What pattern programs work with

Numbers are worked out, texts are taken apart, and fits in a text are replaced.
-/

set_option autoImplicit false

namespace Proctor

namespace Tool

open Shell

namespace Awk

def remainder (a b : Float) : Float :=
  match quantityOf a, quantityOf b with
  | .finite negative x, .finite _ y =>
    if y.mantissa = 0 then 0.0 / 0.0
    else
      let (p, q) := x.ratio
      let (r, s) := y.ratio
      match Binary.ofRatio (p * s % (r * q)) (q * s) with
      | some b => numberOf (.finite negative b)
      | none => 0.0
  | .finite .., .infinite _ => a
  | _, _ => 0.0 / 0.0

def calculate (op : Arithmetic) (a b : Float) : Float :=
  match op with
  | .plus => a + b
  | .minus => a - b
  | .times => a * b
  | .over_ => a / b
  | .rest => remainder a b
  | .power => Float.pow a b

def holds (op : Comparison) (o : Ordering) : Bool :=
  match op with
  | .less => o == .lt
  | .lessOrSame => o != .gt
  | .same => o == .eq
  | .different => o != .eq
  | .more => o == .gt
  | .moreOrSame => o != .lt

def truncated (f : Float) : Float := if f < 0.0 then f.ceil else f.floor

def part (t : Text) (start : Float) (count : Option Float) : Text :=
  let first := start.round
  let last := match count with
    | some n => if n.isNaN then first else (start + n).round
    | none => Float.ofNat (t.length + 1)
  let low := if first < 1.0 then 1 else first.toUInt64.toNat
  let high := if last < 1.0 then 1 else (if Float.ofNat (t.length + 1) < last then t.length + 1
    else last.toUInt64.toNat)
  (t.drop (low - 1)).take (high - low)

def indexOf (wanted : Text) : Nat → Text → Nat
  | n, [] => if wanted.isEmpty then n else 0
  | n, c :: rest => if wanted.isPrefixOf (c :: rest) then n else indexOf wanted (n + 1) rest

def replacement (fit : Text) : Text → Text
  | '\\' :: '\\' :: '&' :: rest => '\\' :: fit ++ replacement fit rest
  | '\\' :: '&' :: rest => '&' :: replacement fit rest
  | '&' :: rest => fit ++ replacement fit rest
  | c :: rest => c :: replacement fit rest
  | [] => []

/-- Replaces fits, the first or all of them: the parts, last part first, and how many there were. -/
def substitute (r : Regex) (all : Bool) (by_ : Text) :
    Nat → Option Char → Bool → Text → List Text → Nat → List Text × Nat
  | 0, _, _, t, done, n => (t :: done, n)
  | fuel + 1, before, isAfter, t, done, n =>
    match r.search {} before t with
    | none => (t :: done, n)
    | some fit =>
      let done := fit.before :: done
      let last := fit.text.getLast?.or (fit.before.getLast?.or before)
      if fit.text.isEmpty && fit.before.isEmpty && isAfter then
        match fit.after with
        | [] => (done, n)
        | c :: rest => substitute r all by_ fuel (some c) false rest ([c] :: done) n
      else
        let done := replacement fit.text by_ :: done
        if !all then (fit.after :: done, n + 1)
        else if fit.text.isEmpty then
          match fit.after with
          | [] => (done, n + 1)
          | c :: rest => substitute r all by_ fuel (some c) false rest ([c] :: done) (n + 1)
        else substitute r all by_ fuel last true fit.after done (n + 1)

def layOut (function : String) (values : List Value) : Run Text := do
  match values with
  | [] => return []
  | format :: values => do
    let t ← toText format
    let convert ← globalText "CONVFMT"
    match formatted (t.length + 8) convert t values with
    | .ok shown => return shown
    | .error message =>
      fatal (message ++ function.toList ++ "(\"".toList ++ t ++ "\")".toList)

end Awk

end Tool

end Proctor
