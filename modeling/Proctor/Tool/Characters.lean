import Proctor.Shell.Pattern
import Proctor.Tool.Passing

/-!
# Replacing characters

Characters of one set are replaced by those of another, deleted, or squeezed into one where they
come in a row. Sets are written with ranges, classes and escapes.
-/

set_option autoImplicit false

namespace Proctor

namespace Tool

open Shell

namespace Characters

open Plain (helpOptions)

inductive Piece where
  | one (c : Char)
  | range (low high : Char)
  | class_ (name : String)
  | filling (c : Char) (count : Option Nat)

def escapedChar (t : Text) : Option (Char × Bool × Text) :=
  match t with
  | [] => none
  | '\\' :: rest =>
    let digits := (rest.take 3).takeWhile Escape.isOctal
    let digits := if 255 < digits.foldl (fun n c => n * 8 + Text.digitValue c) 0 then digits.take 2
      else digits
    if !digits.isEmpty then some (Escape.octal digits, true, rest.drop digits.length)
    else
      match rest with
      | [] => some ('\\', true, [])
      | c :: rest => some ((Escape.letter? c).getD c, true, rest)
  | c :: rest => some (c, false, rest)

def upTo (mark : Char) : Text → Option (Text × Text)
  | [] => none
  | c :: rest =>
    if c == mark && rest.head? == some ']' then some ([], rest.tail)
    else (upTo mark rest).map fun (name, left) => (c :: name, left)

def filling? (t : Text) : Option (Piece × Text) := do
  let (c, _, rest) ← escapedChar t
  match rest with
  | '*' :: rest =>
    let digits := rest.takeWhile Char.isDigit
    let left := rest.drop digits.length
    if left.head? == some ']' then
      let count :=
        if digits.head? == some '0' then
          some (digits.foldl (fun n c => n * 8 + Text.digitValue c) 0)
        else Text.decimal? digits
      return (.filling c (count.filter (· ≠ 0)), left.tail)
    else none
  | _ => none

def pieces : Nat → Text → Except Text (List Piece)
  | 0, _ => .ok []
  | _, [] => .ok []
  | fuel + 1, t => do
    let go (p : Piece) (rest : Text) : Except Text (List Piece) := do
      return p :: (← pieces fuel rest)
    let plain : Except Text (List Piece) := do
      match escapedChar t with
      | none => return []
      | some (c, _, rest) =>
        match rest with
        | '-' :: after =>
          match escapedChar after with
          | none => go (.one c) rest
          | some (d, _, left) =>
            if d < c then
              .error ("range-endpoints of ".toList ++ quoted (shown c ++ '-' :: shown d) ++
                " are in reverse collating sequence order".toList)
            else go (.range c d) left
        | _ => go (.one c) rest
    match t with
    | '[' :: ':' :: rest =>
      match upTo ':' rest with
      | some (name, left) =>
        if classRanges.any fun e => e.1.toList = name then go (.class_ (String.ofList name)) left
        else if name.isEmpty then .error "missing character class name '[::]'".toList
        else .error ("invalid character class ".toList ++ quoted name)
      | none => plain
    | '[' :: '=' :: rest =>
      match upTo '=' rest with
      | some ([c], left) => go (.one c) left
      | some (name, _) =>
        .error (name ++ ": equivalence class operand must be a single character".toList)
      | none => plain
    | '[' :: rest =>
      match filling? rest with
      | some (p, left) => go p left
      | none => plain
    | _ => plain
where
  shown (c : Char) : Text := if Quoting.isShown c then [c] else Quoting.escape c

def charsBetween (low high : Char) : Text :=
  (List.range (high.toNat + 1 - low.toNat)).map fun i => Char.ofNat (low.toNat + i)

def classChars (name : String) : Text :=
  let ranges := (classRanges.lookup name).getD []
  (charsBetween '\x00' '\xff').filter fun c => ranges.any fun (low, high) => low ≤ c && c ≤ high

def Piece.chars (filler : Nat) : Piece → Text
  | .one c => [c]
  | .range low high => charsBetween low high
  | .class_ name => classChars name
  | .filling c (some n) => List.replicate n c
  | .filling c none => List.replicate filler c

def charsOf (filler : Nat) (ps : List Piece) : Text := ps.flatMap (Piece.chars filler)

/-- Squeezes runs of some characters into one, given the character before. -/
def squeezed (set : Array Bool) : Option Char → Text → Text
  | _, [] => []
  | before, c :: rest =>
    if before == some c && set[c.toNat]?.getD false then squeezed set before rest
    else c :: squeezed set (some c) rest

def setOf (chars : Text) : Array Bool :=
  chars.foldl (fun set c => set.setIfInBounds c.toNat true) (Array.replicate 256 false)

def mapOf (pairs : List (Char × Char)) : Array Char :=
  pairs.foldl (fun map (c, d) => map.setIfInBounds c.toNat d)
    ((Array.range 256).map Char.ofNat)

def changeInput (f : Text → Text) (squeezes : Option (Array Bool)) : Nat → Option Char → Work Nat
  | 0, _ => return 0
  | fuel + 1, before => do
    match ← Work.readPart 0 with
    | .error cause => Work.fail 1 ("read error: ".toList ++ reason cause)
    | .ok [] => return 0
    | .ok t => do
      let t := f t
      let t := match squeezes with
        | none => t
        | some set => squeezed set before t
      Passing.put t
      changeInput f squeezes fuel (t.getLast?.or before)

def piecesFor (t : Text) : Work (List Piece) :=
  match pieces (t.length + 1) t with
  | .ok ps => pure ps
  | .error message => Work.fail 1 message

def tr : Work Nat := do
  let a ← Work.arguments
    { letters := "cCdst"
      names := [⟨"complement", "c", .nothing⟩, ⟨"delete", "d", .nothing⟩,
        ⟨"squeeze-repeats", "s", .nothing⟩, ⟨"truncate-set1", "t", .nothing⟩] ++ helpOptions
      optionsFirst := true }
  let deletes := a.has "d"
  let squeezes := a.has "s"
  let least := if deletes == squeezes then 2 else 1
  let most := if deletes && !squeezes then 1 else 2
  if a.operands.isEmpty then Work.misuse 1 "missing operand".toList
  if a.operands.length < least then
    Work.misuse 1 ("missing operand after ".toList ++ quoted (a.operands.headD []) ++
      (if deletes then "\nTwo strings must be given when both deleting and squeezing repeats."
       else "\nTwo strings must be given when translating.").toList)
  if let some extra := a.operands[most]? then
    Work.misuse 1 ("extra operand ".toList ++ quoted extra ++
      (if most = 1 then "\nOnly one string may be given when deleting without squeezing repeats."
       else "").toList)
  let first ← piecesFor (a.operands.headD [])
  let second ← piecesFor (a.operands[1]?.getD [])
  if first.any fun p => p matches .filling .. then
    Work.fail 1 "the [c*] repeat construct may not appear in string1".toList
  let complements := a.has "c" || a.has "C"
  let set1 := charsOf 0 first
  let set1 := if complements then (charsBetween '\x00' '\xff').filter fun c => !set1.contains c
    else set1
  let translates := !deletes && a.operands.length = 2
  if translates then do
    if second.any fun p => p matches .class_ "upper" | .class_ "lower" then
      if complements then
        Work.fail 1 ("when translating with complemented character classes,\nstring2 must map " ++
          "all characters in the domain to one").toList
    if second.any fun p =>
        match p with
        | .class_ name => name ≠ "upper" && name ≠ "lower"
        | _ => false then
      Work.fail 1 ("when translating, the only character classes that may appear in\n" ++
        "string2 are " ++
        "'upper' and 'lower'").toList
    let fixed := (charsOf 0 second).length
    let set2 := charsOf (set1.length - fixed) second
    if set2.isEmpty && !a.has "t" && !set1.isEmpty then
      Work.fail 1 "when not truncating set1, string2 must be non-empty".toList
    let set1 := if a.has "t" then set1.take set2.length else set1
    let set2' := set2 ++ List.replicate (set1.length - set2.length) (set2.getLastD '\x00')
    let map := mapOf (set1.zip set2')
    changeInput (fun t => t.map fun c => map[c.toNat]?.getD c)
      (if squeezes then some (setOf set2) else none) Work.readLimit none
  else
    let gone := setOf set1
    let set2 := charsOf 0 second
    if deletes then
      changeInput (fun t => t.filter fun c => !(gone[c.toNat]?.getD false))
        (if squeezes then some (setOf set2) else none) Work.readLimit none
    else changeInput id (some gone) Work.readLimit none

end Characters

end Tool

end Proctor
