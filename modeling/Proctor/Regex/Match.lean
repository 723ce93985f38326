import Proctor.Shell.Text

/-!
# Where a regular expression fits

Of all the places where an expression fits, the leftmost counts, and there the longest fit. Among
fits of one length, those count in which the parts that come first are longest. From one place, the
places where a fit may end are kept in order, the farthest first, and one of a kind.
-/

set_option autoImplicit false

namespace Proctor

open Shell

inductive Assertion where
  | lineStart
  | lineEnd
  | textStart
  | textEnd
  | wordStart
  | wordEnd
  | wordEdge
  | noWordEdge
  deriving DecidableEq, Repr, Inhabited

inductive Regex where
  | empty
  | char (c : Char)
  | any
  | among (negated : Bool) (ranges : List (Char × Char))
  | sequence (a b : Regex)
  | alternative (a b : Regex)
  | repeated (a : Regex) (least : Nat) (most : Option Nat)
  | group (number : Nat) (a : Regex)
  | reference (number : Nat)
  | assertion (a : Assertion)
  deriving Repr, Inhabited

namespace Regex

structure Manner where
  /-- Capitals and small letters are the same. -/
  foldsCase : Bool := false
  /-- A text has lines, and each of them starts and ends. -/
  hasLines : Bool := false

structure Part where
  number : Nat
  text : Text
  deriving DecidableEq, Repr

structure Cursor where
  position : Nat
  before : Option Char
  rest : Text
  groups : List Part := []
  deriving DecidableEq, Repr

def isWordChar (c : Char) : Bool := c.isAlphanum || c == '_'

def Cursor.skip (c : Cursor) : Nat → Cursor
  | 0 => c
  | n + 1 =>
    match c.rest with
    | [] => c
    | x :: rest => Cursor.skip { c with position := c.position + 1, before := some x, rest } n

def inRanges (ranges : List (Char × Char)) (c : Char) : Bool :=
  ranges.any fun (low, high) => low ≤ c && c ≤ high

def isAmong (m : Manner) (ranges : List (Char × Char)) (c : Char) : Bool :=
  inRanges ranges c ||
    (m.foldsCase && (inRanges ranges c.toLower || inRanges ranges c.toUpper))

def isSame (m : Manner) (a b : Char) : Bool :=
  a == b || (m.foldsCase && a.toLower == b.toLower)

def startsWith (m : Manner) : Text → Text → Bool
  | [], _ => true
  | _, [] => false
  | a :: start, b :: rest => isSame m a b && startsWith m start rest

def holds (m : Manner) (a : Assertion) (c : Cursor) : Bool :=
  let wordBefore := (c.before.map isWordChar).getD false
  let wordAfter := (c.rest.head?.map isWordChar).getD false
  match a with
  | .textStart => c.before.isNone
  | .textEnd => c.rest.isEmpty
  | .lineStart => c.before.isNone || (m.hasLines && c.before == some '\n')
  | .lineEnd => c.rest.isEmpty || (m.hasLines && c.rest.head? == some '\n')
  | .wordStart => !wordBefore && wordAfter
  | .wordEnd => wordBefore && !wordAfter
  | .wordEdge => wordBefore != wordAfter
  | .noWordEdge => wordBefore == wordAfter

def hasReference : Regex → Bool
  | .reference _ => true
  | .sequence a b => a.hasReference || b.hasReference
  | .alternative a b => a.hasReference || b.hasReference
  | .repeated a _ _ => a.hasReference
  | .group _ a => a.hasReference
  | _ => false

/-- Cursors in order, the farthest first, and the first of each kind. The groups count only where
something may refer to them. -/
def settled (exact : Bool) (cursors : List Cursor) : List Cursor :=
  match cursors with
  | [] => []
  | [c] => [c]
  | _ =>
    thin [] (cursors.mergeSort fun a b => b.position ≤ a.position)
where
  thin (seen : List Cursor) : List Cursor → List Cursor
    | [] => []
    | c :: rest =>
      let seen := seen.filter fun d => d.position = c.position
      if seen.any fun d => !exact || d.groups = c.groups then thin seen rest
      else c :: thin (c :: seen) rest

def steps (f : Cursor → List Cursor) (exact : Bool) : Nat → List Cursor → List Cursor
  | 0, cursors => cursors
  | n + 1, cursors =>
    if cursors.isEmpty then [] else steps f exact n (settled exact (cursors.flatMap f))

def closure (f : Cursor → List Cursor) (exact : Bool) : Nat → List Cursor → List Cursor →
    List Cursor
  | 0, _, found => found
  | n + 1, fresh, found =>
    let isKnown (c : Cursor) : Bool :=
      found.any fun d => d.position = c.position && (!exact || d.groups = c.groups)
    let next := (settled exact (fresh.flatMap f)).filter fun c => !isKnown c
    if next.isEmpty then found else closure f exact n next (found ++ next)

def single? (m : Manner) : Regex → Option (Char → Bool)
  | .char x => some (isSame m x)
  | .any => some fun _ => true
  | .among negated ranges => some fun c => isAmong m ranges c != negated
  | _ => none

/-- The places after one accepted character after another, up to a number of them, the farthest
first; those before the least number are left out. -/
def run (accepts : Char → Bool) : Nat → Nat → Cursor → List Cursor → List Cursor
  | 0, least, c, passed => if least = 0 then c :: passed else passed
  | n + 1, least, c, passed =>
    let passed := if least = 0 then c :: passed else passed
    match c.rest with
    | x :: _ => if accepts x then run accepts n (least - 1) (c.skip 1) passed else passed
    | [] => passed

/-- The places where a fit that starts at a cursor may end, the farthest first. -/
def ends (m : Manner) (exact : Bool) : Regex → Cursor → List Cursor
  | .empty, c => [c]
  | .char x, c =>
    match c.rest with
    | y :: _ => if isSame m x y then [c.skip 1] else []
    | [] => []
  | .any, c => if c.rest.isEmpty then [] else [c.skip 1]
  | .among negated ranges, c =>
    match c.rest with
    | y :: _ => if isAmong m ranges y != negated then [c.skip 1] else []
    | [] => []
  | .sequence a b, c => settled exact ((ends m exact a c).flatMap (ends m exact b))
  | .alternative a b, c => settled exact (ends m exact a c ++ ends m exact b c)
  | .repeated a least most, c =>
    let limit := c.rest.length + 1
    match single? m a with
    | some accepts => run accepts (min (most.getD limit) limit) least c []
    | none =>
      let f := ends m exact a
      let first := steps f exact least [c]
      let limit := min ((most.map (· - least)).getD limit) limit
      settled exact (closure f exact limit first first)
  | .group number a, c =>
    (ends m exact a c).map fun d =>
      { d with groups := ⟨number, c.rest.take (d.position - c.position)⟩ ::
          d.groups.filter fun p => p.number ≠ number }
  | .reference number, c =>
    match c.groups.find? fun p => p.number = number with
    | none => []
    | some p => if startsWith m p.text c.rest then [c.skip p.text.length] else []
  | .assertion a, c => if holds m a c then [c] else []

/-! ### Searching -/

def mayBeEmpty : Regex → Bool
  | .empty => true
  | .char _ => false
  | .any => false
  | .among .. => false
  | .sequence a b => a.mayBeEmpty && b.mayBeEmpty
  | .alternative a b => a.mayBeEmpty || b.mayBeEmpty
  | .repeated a least _ => least = 0 || a.mayBeEmpty
  | .group _ a => a.mayBeEmpty
  | .reference _ => true
  | .assertion _ => true

def mayStart (m : Manner) : Regex → Char → Bool
  | .empty, _ => false
  | .char x, c => isSame m x c
  | .any, _ => true
  | .among negated ranges, c => isAmong m ranges c != negated
  | .sequence a b, c => mayStart m a c || (a.mayBeEmpty && mayStart m b c)
  | .alternative a b, c => mayStart m a c || mayStart m b c
  | .repeated a _ _, c => mayStart m a c
  | .group _ a, c => mayStart m a c
  | .reference _, _ => true
  | .assertion _, _ => false

structure Fit where
  before : Text
  text : Text
  after : Text
  groups : List Part := []
  deriving Repr

def Fit.group (f : Fit) (number : Nat) : Text :=
  if number = 0 then f.text
  else ((f.groups.find? fun p => p.number = number).map Part.text).getD []

def fitAt (r : Regex) (m : Manner) (exact : Bool) (c : Cursor) : Option Fit :=
  (ends m exact r c).head?.map fun d =>
    { before := [], text := c.rest.take (d.position - c.position), after := d.rest
      groups := d.groups }

def searchFrom (r : Regex) (m : Manner) (exact isEmptiable : Bool) :
    Nat → Text → Cursor → Option Fit
  | 0, _, _ => none
  | fuel + 1, passed, c =>
    let here : Option Fit :=
      if isEmptiable || (c.rest.head?.map fun x => mayStart m r x).getD false then
        r.fitAt m exact c
      else none
    match here, c.rest with
    | some f, _ => some { f with before := passed.reverse }
    | none, [] => none
    | none, x :: _ => searchFrom r m exact isEmptiable fuel (x :: passed) (c.skip 1)

def search (r : Regex) (m : Manner) (before : Option Char) (t : Text) : Option Fit :=
  r.searchFrom m r.hasReference r.mayBeEmpty (t.length + 1) [] { position := 0, before, rest := t }

def isIn (r : Regex) (m : Manner) (t : Text) : Bool := (r.search m none t).isSome

def atStart (r : Regex) (m : Manner) (t : Text) : Option Fit :=
  r.fitAt m r.hasReference { position := 0, before := none, rest := t }

def literal : Text → Regex
  | [] => .empty
  | [c] => .char c
  | c :: rest => .sequence (.char c) (literal rest)

end Regex

end Proctor
