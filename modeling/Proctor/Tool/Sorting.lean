import Proctor.Tool.Lines

/-!
# Sorting lines

Lines are put in order by keys, which are parts of them, and by the whole line where the keys do not
tell. A key is compared as text, as a number in one of several notations, as a month or as a
version.
-/

set_option autoImplicit false

namespace Proctor

namespace Tool

open Shell

namespace Sorting

open Plain (helpOptions)

structure Comparison where
  blanks : Bool := false
  dictionary : Bool := false
  folds : Bool := false
  general : Bool := false
  human : Bool := false
  printable : Bool := false
  month : Bool := false
  numeric : Bool := false
  random : Bool := false
  reversed : Bool := false
  version : Bool := false

def Comparison.isPlain (c : Comparison) : Bool :=
  !(c.blanks || c.dictionary || c.folds || c.general || c.human || c.printable || c.month ||
    c.numeric || c.random || c.reversed || c.version)

def Comparison.with_ (c : Comparison) (letter : Char) : Option Comparison :=
  match letter with
  | 'b' => some { c with blanks := true }
  | 'd' => some { c with dictionary := true }
  | 'f' => some { c with folds := true }
  | 'g' => some { c with general := true }
  | 'h' => some { c with human := true }
  | 'i' => some { c with printable := true }
  | 'M' => some { c with month := true }
  | 'n' => some { c with numeric := true }
  | 'R' => some { c with random := true }
  | 'r' => some { c with reversed := true }
  | 'V' => some { c with version := true }
  | _ => none

structure Key where
  field : Nat
  offset : Nat := 0
  stop : Option (Nat × Nat) := none
  comparison : Comparison := {}
  /-- Blanks do not count at the end position. -/
  stopBlanks : Bool := false

def isBlank (c : Char) : Bool := c == ' ' || c == '\t' || c == '\n'

def blankField (t : Text) : Nat :=
  let blanks := t.takeWhile isBlank
  let word := (t.drop blanks.length).takeWhile fun c => !isBlank c
  blanks.length + word.length

def skipFields (separator : Option Char) : Nat → Nat → Text → Nat
  | 0, position, _ => position
  | _, position, [] => position
  | n + 1, position, t =>
    match separator with
    | some c =>
      let field := t.takeWhile (· ≠ c)
      skipFields separator n (position + min t.length (field.length + 1))
        (t.drop (field.length + 1))
    | none =>
      let k := blankField t
      skipFields separator n (position + k) (t.drop k)

def blanksAt (line : Text) (position : Nat) : Nat :=
  ((line.drop position).takeWhile isBlank).length

def keyText (separator : Option Char) (k : Key) (line : Text) : Text :=
  let start := skipFields separator k.field 0 line
  let start := if k.comparison.blanks then start + blanksAt line start else start
  let start := min line.length (start + k.offset)
  let stop := match k.stop with
    | none => line.length
    | some (field, 0) =>
      let full := skipFields separator field 0 line
      if separator.isSome && full < line.length then full - 1
      else if separator.isSome && 0 < full && (line.drop (full - 1)).head? == separator &&
          field ≤ (line.filter fun c => some c == separator).length then full - 1
      else full
    | some (field, offset) =>
      let base := skipFields separator (field - 1) 0 line
      let base := if k.stopBlanks then base + blanksAt line base else base
      min line.length (base + offset)
  (line.drop start).take (stop - start)

/-- The number that a text starts with: its sign, the digits before the point and those after. -/
structure Figure where
  negative : Bool := false
  whole : Nat := 0
  fraction : Text := []

def figureOf (t : Text) : Figure × Text :=
  let t := t.dropWhile isBlank
  let negative := t.head? == some '-'
  let t := if negative then t.tail else t
  let digits := t.takeWhile Char.isDigit
  let rest := t.drop digits.length
  let whole := digits.foldl (fun n c => n * 10 + Text.digitValue c) 0
  match rest with
  | '.' :: after =>
    let fraction := after.takeWhile Char.isDigit
    ({ negative, whole, fraction }, after.drop fraction.length)
  | _ => ({ negative, whole }, rest)

def scaled (places : Nat) (f : Figure) : Int :=
  let fraction := f.fraction ++ List.replicate (places - f.fraction.length) '0'
  let n := fraction.foldl (fun n c => n * 10 + Text.digitValue c) f.whole
  if f.negative then -(n : Int) else n

def compareFigures (a b : Figure) : Ordering :=
  let places := max a.fraction.length b.fraction.length
  compare (scaled places a) (scaled places b)

def compareTexts (a b : Text) : Ordering :=
  if a = b then .eq else if a < b then .lt else .gt

def monthOf (t : Text) : Nat :=
  let word := ((t.dropWhile isBlank).take 3).map Char.toLower
  ((Calendar.months.findIdx? fun m => (m.toList.take 3).map Char.toLower = word).map (· + 1)).getD 0

def unitRank (t : Text) : Nat :=
  match t with
  | c :: _ =>
    (("KMGTPEZYRQ".toList.findIdx? (· == (if c == 'k' then 'K' else c))).map (· + 1)).getD 0
  | [] => 0

def compareHuman (a b : Text) : Ordering :=
  let (x, restX) := figureOf a
  let (y, restY) := figureOf b
  let sign (f : Figure) : Int :=
    if f.whole = 0 && f.fraction.all (· == '0') then 0 else if f.negative then -1 else 1
  let rank (f : Figure) (rest : Text) : Int := sign f * (unitRank rest : Int)
  ((compare (sign x) (sign y)).then (compare (rank x restX) (rank y restY))).then
    (compareFigures x y)

def compareGeneral (a b : Text) : Ordering :=
  let value (t : Text) : Nat × Int × Nat :=
    match Quantity.read? t with
    | none => (0, 0, 1)
    | some found =>
      match found.value with
      | .notNumber _ => (1, 0, 1)
      | .infinite true => (2, 0, 1)
      | .infinite false => (4, 0, 1)
      | .finite negative size =>
        let (n, d) := size.ratio
        (3, if negative then -(n : Int) else n, d)
  let (i, m, p) := value a
  let (j, n, q) := value b
  (compare i j).then (compare (m * q) (n * p))

def versionRank (c : Option Char) : Int :=
  match c with
  | none => 0
  | some '~' => -1
  | some c => if c.isDigit then 0 else if c.isAlpha then c.toNat else c.toNat + 256

/-- Compares names with numbers in them, in which the numbers count as numbers. -/
def compareVersions : Nat → Text → Text → Ordering
  | 0, _, _ => .eq
  | _, [], [] => .eq
  | fuel + 1, a, b =>
    let isDigit (t : Text) : Bool := (t.head?.map Char.isDigit).getD true
    if !(isDigit a && isDigit b) then
      let plain (t : Text) : Option Char := t.head?.filter fun c => !c.isDigit
      let x := versionRank (plain a)
      let y := versionRank (plain b)
      if x ≠ y then compare x y
      else compareVersions fuel (if (plain a).isSome then a.tail else a)
        (if (plain b).isSome then b.tail else b)
    else
      let digits (t : Text) : Nat :=
        (t.takeWhile Char.isDigit).foldl (fun n c => n * 10 + Text.digitValue c) 0
      (compare (digits a) (digits b)).then
        (compareVersions fuel (a.dropWhile Char.isDigit) (b.dropWhile Char.isDigit))

def viewed (c : Comparison) (t : Text) : Text :=
  let t := if c.blanks then t.dropWhile isBlank else t
  let t := if c.dictionary then t.filter fun x => x.isAlphanum || isBlank x else t
  let t := if c.printable then t.filter Quoting.isShown else t
  if c.folds then t.map Char.toUpper else t

def compareBy (c : Comparison) (a b : Text) : Ordering :=
  let order :=
    if c.numeric then compareFigures (figureOf a).1 (figureOf b).1
    else if c.general then compareGeneral a b
    else if c.human then compareHuman a b
    else if c.month then compare (monthOf a) (monthOf b)
    else if c.version then compareVersions (a.length + b.length + 2) a b
    else compareTexts (viewed c a) (viewed c b)
  if c.reversed then order.swap else order

structure Scheme where
  keys : List Key
  usual : Comparison
  separator : Option Char
  stable : Bool
  unique : Bool

structure Row where
  line : Text
  texts : List Text

def rowOf (s : Scheme) (line : Text) : Row :=
  { line, texts := s.keys.map fun k => keyText s.separator k line }

def compareKeys : List Key → List Text → List Text → Ordering
  | k :: keys, a :: as, b :: bs =>
    (compareBy k.comparison a b).then (compareKeys keys as bs)
  | _, _, _ => .eq

def compareRows (s : Scheme) (a b : Row) : Ordering :=
  if s.keys.isEmpty then compareBy s.usual a.line b.line else compareKeys s.keys a.texts b.texts

def compareWhole (s : Scheme) (a b : Row) : Ordering :=
  let first := compareRows s a b
  if s.stable || s.unique then first
  else
    let last := compareTexts a.line b.line
    first.then (if s.usual.reversed then last.swap else last)

def positionIn (t : Text) : Option (Nat × Text) :=
  let digits := t.takeWhile Char.isDigit
  (Text.decimal? digits).map fun n => (n, t.drop digits.length)

def badKey (message : String) (t : Text) : Work Key :=
  Work.fail 2 (message.toList ++ ": invalid field specification ".toList ++ quoted t)

def letters : Comparison → Text → Comparison × Text
  | c, [] => (c, [])
  | c, x :: rest =>
    match c.with_ x with
    | some c => letters c rest
    | none => (c, x :: rest)

def keyOf (usual : Comparison) (t : Text) : Work Key := do
  let count (t : Text) : Text := "invalid count at start of ".toList ++ quoted t
  match positionIn t with
  | none => Work.fail 2 ("invalid number at field start: ".toList ++ count t)
  | some (0, _) => badKey "field number is zero" t
  | some (field, rest) =>
    let (offset, rest) : Option (Option Nat) × Text := match rest with
      | '.' :: after =>
        match positionIn after with
        | some (n, rest) => (some (some n), rest)
        | none => (some none, after)
      | _ => (none, rest)
    match offset with
    | some none => Work.fail 2 ("invalid number after '.': ".toList ++ count rest)
    | some (some 0) => badKey "character offset is zero" t
    | _ => do
      let startOffset := (((offset.getD none).getD 1) - 1)
      let (c, rest) := letters {} rest
      let finish (k : Key) : Key :=
        if k.comparison.isPlain && !k.stopBlanks then { k with comparison := usual } else k
      match rest with
      | [] => return finish { field := field - 1, offset := startOffset, comparison := c }
      | ',' :: rest =>
        match positionIn rest with
        | none => Work.fail 2 ("invalid number after ',': ".toList ++ count rest)
        | some (0, _) => badKey "field number is zero" t
        | some (stop, after) =>
          let (stopOffset, after) : Nat × Text := match after with
            | '.' :: more => (positionIn more).getD (0, more)
            | _ => (0, after)
          let (d, after) := letters {} after
          if !after.isEmpty then badKey "stray character in field spec" t
          else
            let both : Comparison :=
              { blanks := c.blanks, dictionary := c.dictionary || d.dictionary
                folds := c.folds || d.folds, general := c.general || d.general
                human := c.human || d.human, printable := c.printable || d.printable
                month := c.month || d.month, numeric := c.numeric || d.numeric
                random := c.random || d.random, reversed := c.reversed || d.reversed
                version := c.version || d.version }
            return finish
              { field := field - 1, offset := startOffset, comparison := both
                stop := some (stop, stopOffset)
                stopBlanks := d.blanks || (both.isPlain && usual.blanks) }
      | _ => badKey "stray character in field spec" t

def keysOf (usual : Comparison) : List Text → Work (List Key)
  | [] => return []
  | t :: rest => do
    let k ← keyOf usual t
    return k :: (← keysOf usual rest)

def readRows (ending : Char) : List Text → Work (List (List Text))
  | [] => return []
  | operand :: rest => do
    match ← Work.readSource operand with
    | .error .isDirectory =>
      Work.fail 2 ("read failed: ".toList ++ nameOf operand ++ ": Is a directory".toList)
    | .error cause =>
      Work.fail 2 ("cannot read: ".toList ++ nameOf operand ++ ": ".toList ++ reason cause)
    | .ok t => do
      let lines := (Lines.cut ending t).map fun l =>
        if l.getLast? == some ending then l.dropLast else l
      return lines :: (← readRows ending rest)

def disorder (s : Scheme) : Nat → List Row → Option (Nat × Row)
  | n, a :: b :: rest =>
    let order := compareWhole s a b
    if order = .gt || (s.unique && order = .eq) then some (n + 1, b)
    else disorder s (n + 1) (b :: rest)
  | _, _ => none

def withoutEqual (s : Scheme) : List Row → List Row
  | a :: b :: rest =>
    if compareRows s a b = .eq then withoutEqual s (a :: rest)
    else a :: withoutEqual s (b :: rest)
  | rows => rows
termination_by rows => rows.length

def modernKeys : List Text → List Text
  | [] => []
  | ('+' :: c :: rest) :: more =>
    if c.isDigit then
      let digits := c :: rest.takeWhile Char.isDigit
      let others := rest.dropWhile Char.isDigit
      ["-k".toList, Text.ofNat ((Text.decimal? digits).getD 0 + 1) ++ others] ++ modernKeys more
    else ('+' :: c :: rest) :: modernKeys more
  | t :: more => t :: modernKeys more

def sort : Work Nat := do
  Work.failingWith 2
  let q ← Work.request
  let usage : Usage :=
    { letters := "bcCdfghik:mMno:rRsS:t:T:uVy::z"
      names := [⟨"ignore-leading-blanks", "b", .nothing⟩, ⟨"dictionary-order", "d", .nothing⟩,
        ⟨"ignore-case", "f", .nothing⟩, ⟨"general-numeric-sort", "g", .nothing⟩,
        ⟨"human-numeric-sort", "h", .nothing⟩, ⟨"ignore-nonprinting", "i", .nothing⟩,
        ⟨"month-sort", "M", .nothing⟩, ⟨"numeric-sort", "n", .nothing⟩,
        ⟨"random-sort", "R", .nothing⟩, ⟨"reverse", "r", .nothing⟩, ⟨"version-sort", "V", .nothing⟩,
        ⟨"check", "c", .maybe⟩, ⟨"key", "k", .something⟩, ⟨"merge", "m", .nothing⟩,
        ⟨"output", "o", .something⟩, ⟨"stable", "s", .nothing⟩,
        ⟨"buffer-size", "S", .something⟩, ⟨"field-separator", "t", .something⟩,
        ⟨"temporary-directory", "T", .something⟩, ⟨"parallel", "parallel", .something⟩,
        ⟨"unique", "u", .nothing⟩, ⟨"zero-terminated", "z", .nothing⟩] ++ helpOptions }
  let given := modernKeys q.arguments
  let a ←
    match usage.read (given.length + 1) given with
    | .ok a => pure a
    | .error message => Work.misuse 2 message
  let usualWay := a.options.foldl (fun (c : Comparison) o =>
    match o.1.toList with
    | [letter] => (c.with_ letter).getD c
    | _ => c) {}
  let separator : Option Char ←
    match a.get? "t" with
    | none => pure none
    | some [] => Work.fail 2 "empty tab".toList
    | some [c] => pure (some c)
    | some ['\\', '0'] => pure (some '\x00')
    | some t => Work.fail 2 ("multi-character tab ".toList ++ quoted t)
  let keys ← keysOf usualWay (a.getAll "k")
  let s : Scheme :=
    { keys, usual := usualWay, separator, stable := a.has "s", unique := a.has "u" }
  let ending := if a.has "z" then '\x00' else '\n'
  let isQuiet := a.has "C" ||
    a.get? "c" == some "quiet".toList || a.get? "c" == some "silent".toList
  if a.has "c" || a.has "C" then do
    if let some extra := a.operands[1]? then
      Work.fail 2 ("extra operand ".toList ++ quoted extra ++ " not allowed with -c".toList)
    let lines ← readRows ending (a.sources.take 1)
    match disorder s 1 (lines.flatten.map (rowOf s)) with
    | none => return 0
    | some (n, row) => do
      if !isQuiet then
        Work.complain
          (a.sources.headD [] ++ ':' :: Text.ofNat n ++ ": disorder: ".toList ++ row.line)
      return 1
  else do
    let lines ← readRows ending a.sources
    let isBefore (x y : Row) : Bool := (compareWhole s x y).isLE
    let rows :=
      if a.has "m" then lines.foldl (fun rows more => rows.merge (more.map (rowOf s)) isBefore) []
      else (lines.flatten.map (rowOf s)).mergeSort isBefore
    let rows := if s.unique then withoutEqual s rows else rows
    let text : Text := rows.flatMap fun r => r.line ++ [ending]
    match a.get? "o" with
    | none => do
      Work.say text
      return 0
    | some path => do
      match ← Work.change_ fun f => f.write (pathOf path) text.toBytes with
      | .ok () => return 0
      | .error cause =>
        Work.fail 2 ("open failed: ".toList ++ nameOf path ++ ": ".toList ++ reason cause)

end Sorting

end Tool

end Proctor
