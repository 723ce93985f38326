import Proctor.Tool.Lines

/-!
# Words in an order that is given by pairs

The first word of a pair comes before the second. Words before which nothing must come are printed
first, in the order of the alphabet. Where words come before each other in a ring, the ring is
reported and one pair of it is left out.
-/

set_option autoImplicit false

namespace Proctor

namespace Tool

open Shell

namespace Precedence

/-- A word with the words that come after it, the pair read last first, and the number of words that
must come before it. -/
structure Item where
  word : Text
  before : Nat := 0
  after : List Nat := []
  isPrinted : Bool := false
  /-- The next word on the way back that is searched for a ring. -/
  link : Option Nat := none
  deriving Inhabited

abbrev Items := Array Item

namespace Items

def at_ (items : Items) (i : Nat) : Item := items[i]?.getD default

def update (items : Items) (i : Nat) (f : Item → Item) : Items :=
  items.setIfInBounds i (f (items.at_ i))

def relate (items : Items) (i j : Nat) : Items :=
  if i = j then items
  else
    (items.update j fun k => { k with before := k.before + 1 }).update i fun k =>
      { k with after := j :: k.after }

def release (items : Items) (i : Nat) : Items × List Nat :=
  (items.at_ i).after.foldl
    (fun (items, ready) j =>
      let items := Items.update items j fun k => { k with before := k.before - 1 }
      (items, if (Items.at_ items j).before = 0 then ready ++ [j] else ready))
    (items.update i fun k => { k with isPrinted := true }, [])

def print : Nat → Items → List Nat → Work Items
  | 0, items, _ => return items
  | _, items, [] => return items
  | fuel + 1, items, i :: queue => do
    Work.say ((items.at_ i).word ++ ['\n'])
    let (items, ready) := items.release i
    print fuel items (queue ++ ready)

def ringFrom (items : Items) (last : Nat) : Nat → Nat → List Nat
  | 0, _ => []
  | fuel + 1, i =>
    if i = last then [i]
    else
      match (items.at_ i).link with
      | some next => i :: ringFrom items last fuel next
      | none => [i]

/-- Goes through the words once. The way back to a word grows until a word is met twice, which
closes a ring. -/
def wayBack : Items → Option Nat → List Nat → Items × Option Nat × Option (Nat × Nat)
  | items, loop, [] => (items, loop, none)
  | items, loop, k :: rest =>
    let item := items.at_ k
    if item.before = 0 then wayBack items loop rest
    else
      match loop with
      | none => wayBack items (some k) rest
      | some l =>
        if !item.after.contains l then wayBack items loop rest
        else if item.link.isSome then (items, loop, some (k, l))
        else wayBack (items.update k fun i => { i with link := some l }) (some k) rest

def ring : Nat → Items → Option Nat → Items × List Nat
  | 0, items, _ => (items, [])
  | fuel + 1, items, loop =>
    match wayBack items loop (List.range items.size) with
    | (items, _, some (k, l)) =>
      let words := ringFrom items k items.size l
      let items : Items := items.map fun i => { i with link := none }
      let items := items.update l fun i => { i with before := i.before - 1 }
      (items.update k fun i => { i with after := i.after.erase l }, words)
    | (items, loop, none) => ring fuel items loop

def printAll (source : Text) : Nat → Items → Bool → Work Bool
  | 0, _, isFine => return isFine
  | fuel + 1, items, isFine => do
    let ready := (List.range items.size).filter fun i =>
      (items.at_ i).before = 0 && !(items.at_ i).isPrinted
    let items ← items.print items.size ready
    if items.all (·.isPrinted) then
      return isFine
    else
      Work.mutter (nameOf source ++ ": input contains a loop:".toList)
      let (items, words) := items.ring (items.size + 1) none
      for i in words do
        Work.mutter (items.at_ i).word
      printAll source fuel items false

end Items

def isBlank (c : Char) : Bool := c == ' ' || c == '\t' || c == '\n'

def wordsOf : Nat → Text → List Text
  | 0, _ => []
  | fuel + 1, t =>
    match t.dropWhile isBlank with
    | [] => []
    | t => t.takeWhile (fun c => !isBlank c) :: wordsOf fuel (t.dropWhile fun c => !isBlank c)

def distinct : List Text → List Text
  | a :: b :: rest => if a = b then distinct (b :: rest) else a :: distinct (b :: rest)
  | words => words

def relateAll (names : List Text) : Items → List Text → Items
  | items, a :: b :: rest =>
    relateAll names (items.relate (names.findIdx (· = a)) (names.findIdx (· = b))) rest
  | items, _ => items

def tsort : Work Nat := do
  let a ← Work.arguments { letters := "", names := Plain.helpOptions }
  if let some extra := a.operands[1]? then
    Work.misuse 1 ("extra operand ".toList ++ quoted extra)
  let source := a.operands.headD ['-']
  match ← Work.readSource source with
  | .error cause => Work.fail 1 (nameOf source ++ ": ".toList ++ reason cause)
  | .ok t =>
    let words := wordsOf (t.length + 1) t
    if words.length % 2 = 1 then
      Work.fail 1 (nameOf source ++ ": input contains an odd number of tokens".toList)
    else do
      let names := distinct (words.mergeSort fun a b => !decide (b < a))
      let items := relateAll names (names.map fun word => { word }).toArray words
      let isFine ← items.printAll source (words.length + 1) true
      return if isFine then 0 else 1

/-! ### Factors -/

def factorsFrom : Nat → Nat → Nat → List Nat
  | 0, _, n => [n]
  | fuel + 1, d, n =>
    if n < 2 then []
    else if n < d * d then [n]
    else if n % d = 0 then d :: factorsFrom fuel d (n / d)
    else factorsFrom fuel (if d = 2 then 3 else d + 2) n

def factorLimit : Nat := 20000000

def showFactors (exponents : Bool) (n : Nat) : Text :=
  let factors := factorsFrom factorLimit 2 n
  let shown (group : List Nat) : Text :=
    ' ' :: Text.ofNat (group.headD 0) ++
      (if 1 < group.length then '^' :: Text.ofNat group.length else [])
  Text.ofNat n ++ [':'] ++
    (if exponents then (factors.splitBy (· == ·)).flatMap shown
    else factors.flatMap fun f => ' ' :: Text.ofNat f) ++ ['\n']

def factor : Work Nat := do
  let a ← Work.arguments
    { letters := "h", names := [⟨"exponents", "h", .nothing⟩] ++ Plain.helpOptions }
  let words ←
    if a.operands.isEmpty then do
      match ← Work.input with
      | .ok t => pure (wordsOf (t.length + 1) t)
      | .error cause => Work.fail 1 ("error reading input: ".toList ++ reason cause)
    else pure a.operands
  Manage.forEach words fun word => do
    let digits := match word.dropWhile (· == ' ') with
      | '+' :: rest => rest
      | rest => rest
    match Text.decimal? digits with
    | some n => do
      Work.say (showFactors (a.has "h") n)
      return true
    | none => do
      Work.complain (quoted word ++ " is not a valid positive integer".toList)
      return false

end Precedence

end Tool

end Proctor
