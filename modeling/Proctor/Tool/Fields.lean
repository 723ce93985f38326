import Proctor.Tool.Lines

/-!
# Picking parts of lines

Characters are picked by their positions, and fields by their numbers between delimiters.
-/

set_option autoImplicit false

namespace Proctor

namespace Tool

open Shell

namespace Fields

open Plain (helpOptions)

/-- A range of positions, counted from one; without an end it goes on. -/
structure Range where
  low : Nat
  high : Option Nat
  deriving DecidableEq, Repr

def Range.has (r : Range) (n : Nat) : Bool :=
  r.low ≤ n && (r.high.map fun h => decide (n ≤ h)).getD true

def merged (ranges : List Range) : List Range :=
  go (ranges.mergeSort fun a b => a.low ≤ b.low)
where
  go : List Range → List Range
    | [] => []
    | r :: rest =>
      match go rest with
      | [] => [r]
      | s :: more =>
        match r.high with
        | none => [r]
        | some h =>
          if s.low ≤ h then
            { low := r.low, high := s.high.map (max h) } :: more
          else r :: s :: more

def others : Nat → List Range → List Range
  | start, [] => [⟨start, none⟩]
  | start, r :: rest =>
    let before := if start < r.low then [⟨start, some (r.low - 1)⟩] else []
    match r.high with
    | none => before
    | some h => before ++ others (max start (h + 1)) rest

def positionLimit : Nat := 18446744073709551614

def rangesOf (fields : Bool) (t : Text) : Work (List Range) := do
  let zero : String := if fields then "fields are numbered from 1"
    else "byte/character positions are numbered from 1"
  let number (piece : Text) : Work Nat :=
    match Text.decimal? piece with
    | none => Work.misuse 1 ((if fields then "invalid field value " else
        "invalid byte/character position ").toList ++ quoted piece)
    | some n =>
      if positionLimit < n then
        Work.misuse 1 ((if fields then "field number " else "byte/character offset ").toList ++
          quoted piece ++ " is too large".toList)
      else if n = 0 then Work.misuse 1 zero.toList
      else pure n
  let one (piece : Text) : Work Range :=
    match Text.cutAt (· == '-') piece with
    | ([], none) => Work.misuse 1 zero.toList
    | (n, none) => do
      let n ← number n
      return ⟨n, some n⟩
    | ([], some []) => Work.misuse 1 "invalid range with no endpoint: -".toList
    | (low, some []) => do return ⟨← number low, none⟩
    | (low, some high) => do
      let low ← if low.isEmpty then pure 1 else number low
      let high ← number high
      if high < low then Work.misuse 1 "invalid decreasing range".toList
      else return ⟨low, some high⟩
  go one ((Text.split ',' t).flatMap fun p =>
    (Text.split ' ' p).flatMap fun p => Text.split '\t' p)
where
  go (one : Text → Work Range) : List Text → Work (List Range)
    | [] => return []
    | p :: rest => do
      let r ← one p
      return r :: (← go one rest)

def pickChars (ranges : List Range) (between : Text) (line : Text) : Text :=
  let parts := ranges.map fun r =>
    (line.drop (r.low - 1)).take ((r.high.map fun h => h + 1 - r.low).getD line.length)
  Plain.joined between (parts.filter fun p => !p.isEmpty)

/-- The fields of a line in some ranges; none if there is nothing to cut at. -/
def pickFields (ranges : List Range) (delimiter : Char) (between : Text) (line : Text) :
    Option Text :=
  if !line.contains delimiter then none
  else
    let fields := Text.split delimiter line
    some (Plain.joined between ((fields.zipIdx.filter fun (_, i) =>
      ranges.any fun r => r.has (i + 1)).map Prod.fst))

def cut : Work Nat := do
  let a ← Work.arguments
    { letters := "b:c:d:f:nsz"
      names := [⟨"bytes", "b", .something⟩, ⟨"characters", "c", .something⟩,
        ⟨"delimiter", "d", .something⟩, ⟨"fields", "f", .something⟩,
        ⟨"only-delimited", "s", .nothing⟩, ⟨"complement", "complement", .nothing⟩,
        ⟨"output-delimiter", "out", .something⟩, ⟨"zero-terminated", "z", .nothing⟩] ++
        helpOptions }
  let lists := a.options.filter fun o => ["b", "c", "f"].contains o.1
  let (key, list) ←
    match lists with
    | [] => Work.misuse 1 "you must specify a list of bytes, characters, or fields".toList
    | [l] => pure l
    | _ => Work.misuse 1 "only one list may be specified".toList
  let fields := key = "f"
  let ending := if a.has "z" then '\x00' else '\n'
  let delimiter : Char ←
    match a.get? "d" with
    | none => pure '\t'
    | some [] => pure '\x00'
    | some [c] => pure c
    | some _ => Work.misuse 1 "the delimiter must be a single character".toList
  if a.has "d" && !fields then
    Work.misuse 1 "an input delimiter may be specified only when operating on fields".toList
  if a.has "s" && !fields then
    Work.misuse 1 ("suppressing non-delimited lines makes sense\n\t" ++
      "only when operating on fields").toList
  let ranges ← rangesOf fields list
  let ranges := merged ranges
  let ranges := if a.has "complement" then others 1 ranges else ranges
  let between := (a.get? "out").getD (if fields then [delimiter] else [])
  let one (line : Text) : Option Text :=
    if fields then
      match pickFields ranges delimiter between line with
      | some t => some t
      | none => if a.has "s" then none else some line
    else some (pickChars ranges between line)
  Lines.mapSources a fun t =>
    (Lines.cut ending t).flatMap fun line =>
      let line := if line.getLast? == some ending then line.dropLast else line
      ((one line).map (· ++ [ending])).getD []

end Fields

end Tool

end Proctor
