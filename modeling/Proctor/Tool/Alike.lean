import Proctor.Tool.Sorting

/-!
# Lines that are alike

Lines next to each other that are alike are made one, and lines of two files in order are matched.
-/

set_option autoImplicit false

namespace Proctor

namespace Tool

open Shell

namespace Alike

open Plain (helpOptions)

/-! ### In one file -/

def runs (same : Text → Text → Bool) : List Text → List (List Text)
  | [] => []
  | line :: rest =>
    match runs same rest with
    | (next :: others) :: groups =>
      if same line next then (line :: next :: others) :: groups
      else [line] :: (next :: others) :: groups
    | groups => [line] :: groups

def compared (fields chars : Nat) (most : Option Nat) (line : Text) : Text :=
  let rest := (skipBlankFields fields line).drop chars
  match most with
  | none => rest
  | some n => rest.take n
where
  skipBlankFields : Nat → Text → Text
    | 0, t => t
    | n + 1, t =>
      skipBlankFields n ((t.dropWhile Sorting.isBlank).dropWhile fun c => !Sorting.isBlank c)

def uniq : Work Nat := do
  let q ← Work.request
  let given := q.arguments.map fun t =>
    match t with
    | '-' :: c :: rest => if c.isDigit then "-f".toList ++ c :: rest else t
    | '+' :: c :: rest => if c.isDigit then "-s".toList ++ c :: rest else t
    | _ => t
  let a ← Passing.readArguments
    { letters := "cdDf:is:uw:z"
      names := [⟨"count", "c", .nothing⟩, ⟨"repeated", "d", .nothing⟩,
        ⟨"all-repeated", "D", .maybe⟩, ⟨"skip-fields", "f", .something⟩,
        ⟨"group", "group", .maybe⟩, ⟨"ignore-case", "i", .nothing⟩,
        ⟨"skip-chars", "s", .something⟩, ⟨"unique", "u", .nothing⟩,
        ⟨"check-chars", "w", .something⟩, ⟨"zero-terminated", "z", .nothing⟩] ++ helpOptions } given
  let number (key what : String) : Work (Option Nat) :=
    match a.get? key with
    | none => pure none
    | some t =>
      match Text.decimal? t with
      | some n => pure (some n)
      | none => Work.fail 1 (t ++ ": invalid number of ".toList ++ what.toList)
  let fields ← number "f" "fields to skip"
  let chars ← number "s" "bytes to skip"
  let most ← number "w" "bytes to compare"
  if let some extra := a.operands[2]? then
    Work.misuse 1 ("extra operand ".toList ++ quoted extra)
  if a.has "c" && a.has "D" then
    Work.misuse 1 "printing all duplicated lines and repeat counts is meaningless".toList
  let source := a.operands.headD ['-']
  let ending := if a.has "z" then '\x00' else '\n'
  match ← Work.readSource source with
  | .error .isDirectory =>
    Work.fail 1 ("error reading ".toList ++ shellQuoted source ++ ": Is a directory".toList)
  | .error cause => Work.fail 1 (nameOf source ++ ": ".toList ++ reason cause)
  | .ok t => do
    let lines := (Lines.cut ending t).map fun l =>
      if l.getLast? == some ending then l.dropLast else l
    let view (line : Text) : Text :=
      let t := compared (fields.getD 0) (chars.getD 0) most line
      if a.has "i" then t.map Char.toLower else t
    let groups := runs (fun x y => view x = view y) lines
    let kept := groups.filter fun g =>
      if a.has "d" && a.has "u" then false
      else if a.has "d" || a.has "D" then 1 < g.length
      else if a.has "u" then g.length = 1
      else true
    let line (t : Text) : Text := t ++ [ending]
    let whole (g : List Text) : Text := g.flatMap line
    let text : Text :=
      if a.has "group" then
        match String.ofList ((a.get? "group").getD []) with
        | "prepend" => groups.flatMap fun g => line [] ++ whole g
        | "append" => groups.flatMap fun g => whole g ++ line []
        | "both" => line [] ++ Plain.joined (line []) (groups.map whole) ++ line []
        | _ => Plain.joined (line []) (groups.map whole)
      else if a.has "D" then
        match String.ofList ((a.get? "D").getD []) with
        | "prepend" => kept.flatMap fun g => line [] ++ whole g
        | "separate" => Plain.joined (line []) (kept.map whole)
        | _ => kept.flatMap whole
      else
        kept.flatMap fun g =>
          (if a.has "c" then Calendar.padded ' ' 7 (Text.ofNat g.length) ++ [' '] else []) ++
            line (g.headD [])
    match a.operands[1]? with
    | none => do
      Work.say text
      return 0
    | some ['-'] => do
      Work.say text
      return 0
    | some path => do
      match ← Work.change_ fun f => f.write (pathOf path) text.toBytes with
      | .ok () => return 0
      | .error cause => Work.fail 1 (nameOf path ++ ": ".toList ++ reason cause)

/-! ### Two files side by side -/

/-- A line that is in the first file, in the second, or in both; or a complaint about the order of
one of them. -/
inductive Shared where
  | first (line : Text)
  | second (line : Text)
  | both (line : Text)
  | disorder (file : Nat)

structure Reading where
  before : Option Text := none
  rest : List Text
  /-- It has been reported that the file is not in order. -/
  told : Bool := false

/-- Whether the next line and the one after it are out of order. At the end the last two lines are
looked at once more. -/
def Reading.isDisordered (r : Reading) : Bool :=
  match r.before, r.rest with
  | _, a :: b :: _ => b < a
  | some a, [b] => b < a
  | _, _ => false

def Reading.advance (checks : Bool) (r : Reading) : Reading × Bool :=
  let isBad := checks && !r.told && r.isDisordered
  ({ before := r.rest.head?, rest := r.rest.tail, told := r.told || isBad }, isBad)

/-- Compares two files line by line. The order of a file counts once a line is in one file only. -/
def shared (always : Bool) : Nat → Bool → Reading → Reading → List Shared
  | 0, _, _, _ => []
  | fuel + 1, apart, xs, ys =>
    let step (apart : Bool) (first second : Bool) (item : Shared) : List Shared :=
      let (xs, bad1) := if first then xs.advance (always || apart) else (xs, false)
      let (ys, bad2) := if second then ys.advance (always || apart) else (ys, false)
      item :: (if bad1 then [.disorder 1] else []) ++ (if bad2 then [.disorder 2] else []) ++
        shared always fuel apart xs ys
    match xs.rest, ys.rest with
    | [], [] => []
    | x :: _, [] => step true true false (.first x)
    | [], y :: _ => step true false true (.second y)
    | x :: _, y :: _ =>
      if x = y then step apart true true (.both x)
      else if x < y then step true true false (.first x)
      else step true false true (.second y)

def tellShared (a : Arguments) (between : Text) (ending : Char) (fatal : Bool) :
    List Shared → Bool → Work Bool
  | [], isFine => return isFine
  | item :: rest, isFine => do
    let column (n : Nat) : Text :=
      ((["1", "2"].take (n - 1)).filter fun k => !a.has k).flatMap fun _ => between
    let show_ (n : Nat) (line : Text) : Work Unit :=
      if a.has (toString n) then pure () else Work.say (column n ++ line ++ [ending])
    match item with
    | .first line => do
      show_ 1 line
      tellShared a between ending fatal rest isFine
    | .second line => do
      show_ 2 line
      tellShared a between ending fatal rest isFine
    | .both line => do
      show_ 3 line
      tellShared a between ending fatal rest isFine
    | .disorder n => do
      if a.has "nocheck" then tellShared a between ending fatal rest isFine
      else do
        Work.complain ("file ".toList ++ Text.ofNat n ++ " is not in sorted order".toList)
        if fatal then Work.exit 1 else tellShared a between ending fatal rest false

def twoOperands (a : Arguments) : Work (Text × Text) :=
  match a.operands with
  | [] => Work.misuse 1 "missing operand".toList
  | [x] => Work.misuse 1 ("missing operand after ".toList ++ quoted x)
  | [x, y] => pure (x, y)
  | _ :: _ :: extra :: _ => Work.misuse 1 ("extra operand ".toList ++ quoted extra)

def readLines (ending : Char) (operand : Text) : Work (List Text) := do
  match ← Work.readSource operand with
  | .ok t => return (Lines.cut ending t).map fun l =>
      if l.getLast? == some ending then l.dropLast else l
  | .error cause => Work.fail 1 (nameOf operand ++ ": ".toList ++ reason cause)

def comm : Work Nat := do
  let a ← Work.arguments
    { letters := "123z"
      names := [⟨"check-order", "check", .nothing⟩, ⟨"nocheck-order", "nocheck", .nothing⟩,
        ⟨"output-delimiter", "out", .something⟩, ⟨"total", "total", .nothing⟩,
        ⟨"zero-terminated", "z", .nothing⟩] ++ helpOptions }
  let (x, y) ← twoOperands a
  let ending := if a.has "z" then '\x00' else '\n'
  let between := (a.get? "out").getD ['\t']
  let xs ← readLines ending x
  let ys ← readLines ending y
  let items :=
    shared (a.has "check") (xs.length + ys.length + 1) false { rest := xs } { rest := ys }
  let isFine ← tellShared a between ending (a.has "check") items true
  if a.has "total" then do
    let count (p : Shared → Bool) : Text := Text.ofNat (items.filter p).length
    Work.say (Plain.joined between
      [count fun i => i matches .first _, count fun i => i matches .second _,
       count fun i => i matches .both _, "total".toList] ++ [ending])
  if isFine then return 0
  else do
    Work.complain "input is not in sorted order".toList
    return 1

/-! ### Joining -/

structure Joining where
  separator : Option Char := none
  folds : Bool := false
  field1 : Nat := 1
  field2 : Nat := 1
  filler : Text := []
  /-- Fields to show: the file, or none for the common one, and the number. -/
  shown : Option (List (Nat × Nat)) := none
  /-- Shows as many fields of each line as the first lines have. -/
  counts : Option (Nat × Nat) := none

def fieldsOf (j : Joining) (line : Text) : List Text :=
  match j.separator with
  | some c => Text.split c line
  | none => (line.splitBy (fun a b => Sorting.isBlank a == Sorting.isBlank b)).filter fun w =>
      (w.head?.map fun c => !Sorting.isBlank c).getD false

def joinKey (j : Joining) (field : Nat) (line : Text) : Text :=
  let t := (fieldsOf j line)[field - 1]?.getD []
  if j.folds then t.map Char.toLower else t

def joinedLine (j : Joining) (x y : Option Text) : Text :=
  let between : Text := match j.separator with
    | some c => [c]
    | none => [' ']
  let fx := (x.map (fieldsOf j)).getD []
  let fy := (y.map (fieldsOf j)).getD []
  let common := if x.isSome then fx[j.field1 - 1]?.getD [] else fy[j.field2 - 1]?.getD []
  let pick (fields : List Text) (n : Nat) : Text :=
    match fields[n - 1]? with
    | some [] => j.filler
    | some t => t
    | none => j.filler
  let without (fields : List Text) (n : Nat) : List Text :=
    (fields.zipIdx.filter fun (_, i) => i + 1 ≠ n).map Prod.fst
  match j.shown, j.counts with
  | some shown, _ =>
    Plain.joined between (shown.map fun (file, n) =>
      if file = 0 then (if common.isEmpty then j.filler else common)
      else pick (if file = 1 then fx else fy) n)
  | none, some (n1, n2) =>
    let all (fields : List Text) (field count : Nat) : List Text :=
      ((List.range count).filter fun i => i + 1 ≠ field).map fun i => pick fields (i + 1)
    Plain.joined between (common :: all fx j.field1 n1 ++ all fy j.field2 n2)
  | none, none =>
    Plain.joined between (common :: without fx j.field1 ++ without fy j.field2)

def sameKey (j : Joining) (field : Nat) (key : Text) (lines : List Text) : List Text :=
  lines.takeWhile fun l => joinKey j field l = key

inductive Joined where
  | pair (x y : Text)
  | alone (file : Nat) (line : Text)

def joinLines (j : Joining) : Nat → List Text → List Text → List Joined
  | 0, _, _ => []
  | _, [], [] => []
  | _, xs, [] => xs.map (.alone 1)
  | _, [], ys => ys.map (.alone 2)
  | fuel + 1, x :: xs, y :: ys =>
    let kx := joinKey j j.field1 x
    let ky := joinKey j j.field2 y
    if kx < ky then .alone 1 x :: joinLines j fuel xs (y :: ys)
    else if ky < kx then .alone 2 y :: joinLines j fuel (x :: xs) ys
    else
      let gx := sameKey j j.field1 kx (x :: xs)
      let gy := sameKey j j.field2 ky (y :: ys)
      (gx.flatMap fun a => gy.map fun b => .pair a b) ++
        joinLines j fuel ((x :: xs).drop gx.length) ((y :: ys).drop gy.length)

def unsorted? (j : Joining) (field : Nat) : Nat → List Text → Option (Nat × Text)
  | n, a :: b :: rest =>
    if joinKey j field b < joinKey j field a then some (n + 1, b)
    else unsorted? j field (n + 1) (b :: rest)
  | _, _ => none

def joinField (t : Text) : Work Nat :=
  match Text.decimal? t with
  | some (n + 1) => pure (n + 1)
  | _ => Work.fail 1 ("invalid field number: ".toList ++ quoted t)

def shownFields : List Text → Work (List (Nat × Nat))
  | [] => return []
  | ['0'] :: rest => do return (0, 0) :: (← shownFields rest)
  | t :: rest => do
    match Text.cutAt (· == '.') t with
    | (file, some n) =>
      if file ≠ ['1'] && file ≠ ['2'] then
        Work.fail 1 ("invalid file number in field spec: ".toList ++ quoted t)
      else do
        let n ← joinField n
        return (if file = ['1'] then 1 else 2, n) :: (← shownFields rest)
    | _ => Work.fail 1 ("invalid field specifier: ".toList ++ quoted t)

def join : Work Nat := do
  let a ← Work.arguments
    { letters := "a:e:i1:2:j:o:t:v:z"
      names := [⟨"ignore-case", "i", .nothing⟩, ⟨"check-order", "check", .nothing⟩,
        ⟨"nocheck-order", "nocheck", .nothing⟩, ⟨"header", "header", .nothing⟩,
        ⟨"zero-terminated", "z", .nothing⟩] ++ helpOptions }
  let both ← (a.get? "j").mapM joinField
  let field1 ← (a.get? "1").mapM joinField
  let field2 ← (a.get? "2").mapM joinField
  let files := a.getAll "a" ++ a.getAll "v"
  for t in files do
    if t ≠ ['1'] && t ≠ ['2'] then Work.fail 1 ("invalid field number: ".toList ++ quoted t)
  let auto := a.get? "o" == some "auto".toList
  let shown ←
    if auto || !a.has "o" then pure none
    else do
      let parts := ((a.getAll "o").flatMap fun t => (Text.split ',' t).flatMap (Text.split ' '))
      pure (some (← shownFields (parts.filter fun p => !p.isEmpty)))
  let separator : Option Char ←
    match a.get? "t" with
    | none => pure none
    | some [] => pure (some '\n')
    | some [c] => pure (some c)
    | some ['\\', '0'] => pure (some '\x00')
    | some t => Work.fail 1 ("multi-character tab ".toList ++ quoted t)
  let (x, y) ← twoOperands a
  let ending := if a.has "z" then '\x00' else '\n'
  let xs ← readLines ending x
  let ys ← readLines ending y
  let j : Joining :=
    { separator, folds := a.has "i", field1 := field1.getD (both.getD 1)
      field2 := field2.getD (both.getD 1), filler := (a.get? "e").getD [], shown }
  let j := if auto then
      { j with counts := some ((xs.head?.map fun l => (fieldsOf j l).length).getD 0,
          (ys.head?.map fun l => (fieldsOf j l).length).getD 0) }
    else j
  let header : Text :=
    if a.has "header" && (!xs.isEmpty || !ys.isEmpty) then
      joinedLine j xs.head? ys.head? ++ [ending]
    else []
  let skip := if a.has "header" then 1 else 0
  let xs := xs.drop skip
  let ys := ys.drop skip
  let items := joinLines j (xs.length + ys.length + 1) xs ys
  let alone (n : Nat) : Bool := files.contains (Text.ofNat n)
  let text := items.flatMap fun item =>
    match item with
    | .pair x y => if a.has "v" then [] else joinedLine j (some x) (some y) ++ [ending]
    | .alone 1 line => if alone 1 then joinedLine j (some line) none ++ [ending] else []
    | .alone _ line => if alone 2 then joinedLine j none (some line) ++ [ending] else []
  let hasAlone := items.any fun i => i matches .alone ..
  let faults := [(x, unsorted? j j.field1 (1 + skip) xs), (y, unsorted? j j.field2 (1 + skip) ys)]
  let isChecked := !a.has "nocheck" && (a.has "check" || hasAlone)
  match if isChecked then faults.find? fun f => f.2.isSome else none with
  | some (name, some (n, line)) => do
    if !a.has "check" then Work.say (header ++ text)
    Work.complain (name ++ ':' :: Text.ofNat n ++ ": is not sorted: ".toList ++ line)
    if !a.has "check" then Work.complain "input is not in sorted order".toList
    return 1
  | _ => do
    Work.say (header ++ text)
    return 0

end Alike

end Tool

end Proctor
