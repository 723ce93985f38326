import Std.Data.HashMap

/-!
# Lines of two files side by side

Two lists of lines are aligned. As many lines as can be are kept, and the others are missing from
one of the two lists. The search goes on from both ends until it meets in the middle, and then on
both sides of that place. Runs of changed lines are moved down as far as they can be.
-/

set_option autoImplicit false

namespace Proctor

namespace Tool

namespace Alignment

structure Marks where
  first : Array Bool
  second : Array Bool
  deriving Inhabited

structure Change where
  first : Nat
  deleted : Nat
  second : Nat
  inserted : Nat
  deriving DecidableEq, Repr, Inhabited

structure Window where
  xLow : Nat
  xHigh : Nat
  yLow : Nat
  yHigh : Nat
  deriving DecidableEq, Repr, Inhabited

section Search

variable (xs ys : Array Nat)

def alike (x y : Int) : Bool :=
  0 ≤ x && 0 ≤ y && xs[x.toNat]? == ys[y.toNat]?

def down (w : Window) : Nat → Int → Int → Int
  | 0, x, _ => x
  | fuel + 1, x, y =>
    if x < w.xHigh && y < w.yHigh && alike xs ys x y then down w fuel (x + 1) (y + 1) else x

def up (w : Window) : Nat → Int → Int → Int
  | 0, x, _ => x
  | fuel + 1, x, y =>
    if w.xLow < x && w.yLow < y && alike xs ys (x - 1) (y - 1) then up w fuel (x - 1) (y - 1)
    else x

/-- How far a search has come on the diagonals from a lowest to a highest. -/
structure Front where
  reach : Array Int
  low : Int
  high : Int
  /-- The place of the diagonal through the start. -/
  base : Nat
  deriving Inhabited

def Front.get (f : Front) (d : Int) : Int := f.reach[(d + f.base).toNat]?.getD 0

def Front.put (f : Front) (d x : Int) : Front :=
  { f with reach := f.reach.setIfInBounds (d + f.base).toNat x }

def Front.widen (f : Front) (least most unset : Int) : Front :=
  let f :=
    if least < f.low then { f.put (f.low - 2) unset with low := f.low - 1 }
    else { f with low := f.low + 1 }
  if f.high < most then { f.put (f.high + 2) unset with high := f.high + 1 }
  else { f with high := f.high - 1 }

def Front.covers (f : Front) (d : Int) : Bool := f.low ≤ d && d ≤ f.high

def span : Nat := xs.size + ys.size + 2

def searchDown (w : Window) (odd : Bool) (back : Front) :
    Nat → Int → Front → Front × Option (Nat × Nat)
  | 0, _, f => (f, none)
  | fuel + 1, d, f =>
    if d < f.low then (f, none)
    else
      let below := f.get (d - 1)
      let above := f.get (d + 1)
      let start := if below < above then above else below + 1
      let x := down xs ys w (span xs ys) start (start - d)
      let f := f.put d x
      if odd && back.covers d && back.get d ≤ x then (f, some (x.toNat, (x - d).toNat))
      else searchDown w odd back fuel (d - 2) f

def searchUp (w : Window) (odd : Bool) (ahead : Front) :
    Nat → Int → Front → Front × Option (Nat × Nat)
  | 0, _, f => (f, none)
  | fuel + 1, d, f =>
    if d < f.low then (f, none)
    else
      let below := f.get (d - 1)
      let above := f.get (d + 1)
      let start := if below < above then below else above - 1
      let x := up xs ys w (span xs ys) start (start - d)
      let f := f.put d x
      if !odd && ahead.covers d && x ≤ ahead.get d then (f, some (x.toNat, (x - d).toNat))
      else searchUp w odd ahead fuel (d - 2) f

def search (w : Window) (odd : Bool) : Nat → Front → Front → Nat × Nat
  | 0, _, _ => (w.xHigh, w.yLow)
  | fuel + 1, ahead, back =>
    let least : Int := (w.xLow : Int) - w.yHigh
    let most : Int := (w.xHigh : Int) - w.yLow
    let ahead := ahead.widen least most (-1)
    match searchDown xs ys w odd back (span xs ys) ahead.high ahead with
    | (_, some place) => place
    | (ahead, none) =>
      let back := back.widen least most (2 * span xs ys : Nat)
      match searchUp xs ys w odd ahead (span xs ys) back.high back with
      | (_, some place) => place
      | (back, none) => search w odd fuel ahead back

def middle (w : Window) : Nat × Nat :=
  let empty : Array Int := Array.replicate (span xs ys + 2) 0
  let base := ys.size + 1
  let start : Int := (w.xLow : Int) - w.yLow
  let stop : Int := (w.xHigh : Int) - w.yHigh
  let ahead : Front := ⟨empty, start, start, base⟩
  let back : Front := ⟨empty, stop, stop, base⟩
  search xs ys w ((start - stop) % 2 ≠ 0) (span xs ys) (ahead.put start w.xLow)
    (back.put stop w.xHigh)

def markAll (a : Array Bool) (low high : Nat) : Array Bool :=
  (List.range' low (high - low)).foldl (fun a i => a.setIfInBounds i true) a

def compare : Nat → Window → Marks → Marks
  | 0, _, m => m
  | fuel + 1, w, m =>
    let x := (down xs ys w (span xs ys) w.xLow w.yLow).toNat
    let w := { w with xLow := x, yLow := w.yLow + (x - w.xLow) }
    let x := (up xs ys w (span xs ys) w.xHigh w.yHigh).toNat
    let w := { w with xHigh := x, yHigh := w.yHigh - (w.xHigh - x) }
    if w.xLow = w.xHigh then { m with second := markAll m.second w.yLow w.yHigh }
    else if w.yLow = w.yHigh then { m with first := markAll m.first w.xLow w.xHigh }
    else
      let (x, y) := middle xs ys w
      let m := compare fuel { w with xHigh := x, yHigh := y } m
      compare fuel { w with xLow := x, yLow := y } m

end Search

/-! ### Runs of changed lines -/

structure Run where
  own : Array Bool
  start : Nat
  stop : Nat
  /-- The place in the other list. -/
  other : Nat
  /-- The last place where the run stands at changed lines of the other list. -/
  level : Option Nat := none
  deriving Inhabited

def isMarked (a : Array Bool) (i : Nat) : Bool := a[i]?.getD false

def runStart (a : Array Bool) : Nat → Nat
  | 0 => 0
  | i + 1 => if isMarked a i then runStart a i else i + 1

def runStop (a : Array Bool) : Nat → Nat → Nat
  | 0, i => i
  | fuel + 1, i => if isMarked a i then runStop a fuel (i + 1) else i

def lineBefore (a : Array Bool) : Nat → Nat
  | 0 => 0
  | i + 1 => if isMarked a i then lineBefore a i else i

section Moving

variable (lines : Array Nat) (other : Array Bool)

def Run.moveUp : Nat → Run → Run
  | 0, r => r
  | fuel + 1, r =>
    if 0 < r.start && lines[r.start - 1]? == lines[r.stop - 1]? then
      let own := (r.own.setIfInBounds (r.start - 1) true).setIfInBounds (r.stop - 1) false
      moveUp fuel
        { r with own
                 start := runStart own (r.start - 1)
                 stop := r.stop - 1
                 other := lineBefore other r.other }
    else r

def Run.moveDown : Nat → Run → Run
  | 0, r => r
  | fuel + 1, r =>
    if r.stop < lines.size && lines[r.start]? == lines[r.stop]? then
      let own := (r.own.setIfInBounds r.start false).setIfInBounds r.stop true
      let stop := runStop own own.size (r.stop + 1)
      let place := runStop other other.size (r.other + 1)
      moveDown fuel
        { own
          start := r.start + 1
          stop
          other := place
          level := if r.other + 1 < place then some stop else r.level }
    else r

/-- Moves a run up and then down, until it no longer grows. -/
def Run.settle : Nat → Run → Run
  | 0, r => r
  | fuel + 1, r =>
    let up := r.moveUp lines other lines.size
    let isLevel := 0 < up.other && isMarked other (up.other - 1)
    let up := { up with level := if isLevel then some up.stop else none }
    let down := up.moveDown lines other lines.size
    if down.stop - down.start = r.stop - r.start then down else settle fuel down

def Run.toLevel (level : Nat) : Nat → Run → Run
  | 0, r => r
  | fuel + 1, r =>
    if level < r.stop then
      toLevel level fuel
        { r with own := (r.own.setIfInBounds (r.start - 1) true).setIfInBounds (r.stop - 1) false
                 start := r.start - 1
                 stop := r.stop - 1
                 other := lineBefore other r.other }
    else r

def moveRuns : Nat → Nat → Nat → Array Bool → Array Bool
  | 0, _, _, own => own
  | fuel + 1, i, j, own =>
    if lines.size ≤ i then own
    else if !isMarked own i then
      moveRuns fuel (i + 1) (runStop other other.size j + 1) own
    else
      let r : Run :=
        { own, start := i, stop := runStop own own.size i, other := runStop other other.size j }
      let r := r.settle lines other lines.size
      let r := match r.level with
        | some level => r.toLevel other level lines.size
        | none => r
      moveRuns fuel r.stop r.other r.own

end Moving

/-! ### Changes -/

def changes (m : Marks) : Nat → Nat → Nat → List Change
  | 0, _, _ => []
  | fuel + 1, x, y =>
    if m.first.size ≤ x && m.second.size ≤ y then []
    else
      let x' := runStop m.first m.first.size x
      let y' := runStop m.second m.second.size y
      let rest := changes m fuel (x' + 1) (y' + 1)
      if x' = x && y' = y then rest else ⟨x, x' - x, y, y' - y⟩ :: rest

def classes {α : Type} [BEq α] [Hashable α] (known : Std.HashMap α Nat) (lines : List α) :
    Std.HashMap α Nat × Array Nat :=
  lines.foldl
    (fun (known, numbers) line =>
      match known[line]? with
      | some n => (known, numbers.push n)
      | none => (known.insert line known.size, numbers.push known.size))
    (known, #[])

def shared (lines others : Array Nat) : Array Nat :=
  let there : Std.HashMap Nat Unit := others.foldl (fun m n => m.insert n ()) ∅
  (Array.range lines.size).filter fun i => there.contains (lines[i]?.getD 0)

/-- Marks for all lines from those for the shared lines. The lines that are not shared are
changed. -/
def spread (size : Nat) (places : Array Nat) (marks : Array Bool) : Array Bool :=
  (List.range places.size).foldl
    (fun a i => a.setIfInBounds (places[i]?.getD size) (isMarked marks i))
    (Array.replicate size true)

def between {α : Type} [BEq α] [Hashable α] (first second : List α) : List Change :=
  let (known, xs) := classes ∅ first
  let ys := (classes known second).2
  let xPlaces := shared xs ys
  let yPlaces := shared ys xs
  let xKept := xPlaces.map fun i => xs[i]?.getD 0
  let yKept := yPlaces.map fun i => ys[i]?.getD 0
  let none (n : Nat) : Array Bool := Array.replicate n false
  let m := compare xKept yKept (xKept.size + yKept.size + 1) ⟨0, xKept.size, 0, yKept.size⟩
    ⟨none xKept.size, none yKept.size⟩
  let m : Marks := ⟨spread xs.size xPlaces m.first, spread ys.size yPlaces m.second⟩
  let first := moveRuns xs m.second (xs.size + 1) 0 0 m.first
  let second := moveRuns ys first (ys.size + 1) 0 0 m.second
  changes ⟨first, second⟩ (xs.size + ys.size + 1) 0 0

end Alignment

end Tool

end Proctor
