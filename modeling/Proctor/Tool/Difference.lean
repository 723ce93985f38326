import Proctor.Tool.Alignment
import Proctor.Tool.Listing
import Proctor.Tool.Lines

/-!
# What differs between files

Two files are compared byte by byte, up to the first difference or through to the end, or line by
line, with the changes that lead from the one to the other. Directories are compared name by name.
-/

set_option autoImplicit false

namespace Proctor

namespace Tool

open Shell

namespace Difference

open Manage (inside)
open Plain (helpOptions)

/-- Says what is wrong with how the tool was called, gives advice under the name of the tool too and
ends the tool. -/
def misuse {α : Type} (message : Text) : Work α := do
  let q ← Work.request
  Work.complain message
  Work.fail 2 ("Try '" ++ q.name ++ " --help' for more information.").toList

def readArguments (u : Usage) : Work Arguments := do
  let q ← Work.request
  match u.read (q.arguments.length + 1) q.arguments with
  | .ok a => return a
  | .error message => misuse message

def checkOperands (least most : Nat) (operands : List Text) : Work Unit := do
  let q ← Work.request
  if operands.length < least then
    misuse ("missing operand after ".toList ++ quoted (operands.getLast?.getD q.name.toList))
  if let some extra := operands[most]? then
    misuse ("extra operand ".toList ++ quoted extra)

def complainOf (path : Text) (cause : Cause) : Work Unit :=
  Work.complain (path ++ ": ".toList ++ reason cause)

/-! ### Byte by byte -/

def unequal : Nat → Text → Text → List (Nat × Char × Char)
  | n, a :: as, b :: bs =>
    if a == b then unequal (n + 1) as bs else (n, a, b) :: unequal (n + 1) as bs
  | _, _, _ => []

def lineEnds (t : Text) : Nat := t.countP (· == '\n')

def seen (c : Char) : Text := Passing.visible c

def octal (c : Char) : Text := Calendar.padded ' ' 3 (Nat.toDigits 8 c.toNat)

def skipped (option : String) (t : Text) : Work Nat :=
  match Manage.size? t with
  | some n => pure n
  | none => misuse ("invalid --".toList ++ option.toList ++ " value ".toList ++ quoted t)

def ending (all : Bool) (name before : Text) : Text :=
  if before.isEmpty then "EOF on ".toList ++ name ++ " which is empty".toList
  else
    "EOF on ".toList ++ name ++ " after byte ".toList ++ Text.ofNat before.length ++
      (if all then []
      else if before.getLast? == some '\n' then ", line ".toList ++ Text.ofNat (lineEnds before)
      else ", in line ".toList ++ Text.ofNat (lineEnds before + 1))

def cmp : Work Nat := do
  Work.failingWith 2
  let a ← readArguments
    { letters := "bci:ln:sv"
      names := [⟨"print-bytes", "b", .nothing⟩, ⟨"print-chars", "b", .nothing⟩,
        ⟨"ignore-initial", "i", .something⟩, ⟨"verbose", "l", .nothing⟩,
        ⟨"bytes", "n", .something⟩, ⟨"quiet", "s", .nothing⟩, ⟨"silent", "s", .nothing⟩] ++
        helpOptions }
  let (option1, option2) := match a.get? "i" with
    | none => (none, none)
    | some t =>
      match Text.cutAt (· == ':') t with
      | (t, none) => (some t, some t)
      | (t, some u) => (some t, some u)
  let skip1 ← (option1.orElse fun _ => a.operands[2]?).mapM (skipped "ignore-initial")
  let skip2 ← (option2.orElse fun _ => a.operands[3]?).mapM (skipped "ignore-initial")
  let most ← (a.get? "n").mapM (skipped "bytes")
  checkOperands 1 4 a.operands
  let shows := a.has "b" || a.has "c"
  let name1 := a.operands.headD ['-']
  let name2 := a.operands[1]?.getD ['-']
  let quiet := a.has "s"
  let side (name : Text) (skip : Option Nat) : Work Text := do
    match ← Work.readSource name with
    | .error cause => do
      unless quiet do complainOf name cause
      Work.exit 2
    | .ok t =>
      let t := t.drop (skip.getD 0)
      return match most with
        | none => t
        | some n => t.take n
  if name1 = name2 && skip1.getD 0 = skip2.getD 0 then
    return 0
  let t1 ← side name1 skip1
  let t2 ← side name2 skip2
  let differing := unequal 1 t1 t2
  let width := (Text.ofNat (max t1.length t2.length)).length
  if quiet then
    return if differing.isEmpty && t1.length = t2.length then 0 else 1
  if a.has "l" then
    for (n, c, d) in differing do
      let place := Calendar.padded ' ' width (Text.ofNat n) ++ [' ']
      let seen1 := seen c ++ List.replicate (4 - (seen c).length) ' '
      Work.say (place ++
        (if shows then octal c ++ [' '] ++ seen1 ++ [' '] ++ octal d ++ [' '] ++ seen d
        else octal c ++ [' '] ++ octal d) ++ ['\n'])
  else if let some (n, c, d) := differing.head? then
    Work.say (name1 ++ [' '] ++ name2 ++ " differ: ".toList ++
      (if shows then "byte ".toList else "char ".toList) ++ Text.ofNat n ++ ", line ".toList ++
      Text.ofNat (lineEnds (t1.take (n - 1)) + 1) ++
      (if shows then
        " is ".toList ++ octal c ++ [' '] ++ seen c ++ [' '] ++ octal d ++ [' '] ++ seen d
      else []) ++ ['\n'])
    return 1
  if t1.length = t2.length then
    return if differing.isEmpty then 0 else 1
  let (name, before) := if t1.length < t2.length then (name1, t1) else (name2, t2)
  Work.complain (ending (a.has "l") name before)
  return 1

/-! ### Line by line -/

inductive Shape where
  | normal
  | unified (context : Nat)
  | copied (context : Nat)
  | commands
  | brief
  deriving DecidableEq, Repr, Inhabited

inductive Blanks where
  | counted
  | trailing
  | amount
  | ignored
  deriving DecidableEq, Repr, Inhabited

structure Style where
  shape : Shape := .normal
  recursive : Bool := false
  /-- What is missing counts as empty. -/
  absent : Bool := false
  /-- Files that do not differ are mentioned. -/
  tells : Bool := false
  foldsCase : Bool := false
  blanks : Blanks := .counted
  /-- Changes of empty lines do not count. -/
  skipsEmpty : Bool := false
  /-- All files are taken to hold lines. -/
  asText : Bool := false
  labels : List Text := []
  excluded : List (List Matcher) := []
  /-- The options as they were given. -/
  command : Text := []
  deriving Inhabited

def Style.context (s : Style) : Nat :=
  match s.shape with
  | .unified n => n
  | .copied n => n
  | _ => 0

def isBlank (c : Char) : Bool := c == ' ' || ('\t' ≤ c && c ≤ '\r')

def squeezed : Bool → Text → Text
  | _, [] => []
  | inRun, c :: rest =>
    if isBlank c then
      if inRun then squeezed true rest else ' ' :: squeezed true rest
    else c :: squeezed false rest

def withoutTrailing (t : Text) : Text := (t.reverse.dropWhile isBlank).reverse

structure View where
  text : String
  isComplete : Bool
  deriving BEq, Hashable

def Style.view (s : Style) (line : Text) : View :=
  let (text, complete) := Lines.ended line
  let text := if s.foldsCase then text.map Char.toLower else text
  match s.blanks with
  | .counted => ⟨String.ofList text, complete⟩
  | .trailing => ⟨String.ofList (withoutTrailing text), true⟩
  | .amount => ⟨String.ofList (squeezed false (withoutTrailing text)), true⟩
  | .ignored => ⟨String.ofList (text.filter fun c => !isBlank c), true⟩

def commonStart : List Text → List Text → Nat
  | a :: as, b :: bs => if a = b then commonStart as bs + 1 else 0
  | _, _ => 0

/-- The changes between two lists of lines. Lines that are the same at both ends are left aside,
except as many as are shown. -/
def Style.changes (s : Style) (xs ys : List Text) : List Alignment.Change :=
  let start := commonStart xs ys - s.context
  let xs := xs.drop start
  let ys := ys.drop start
  let stop := commonStart xs.reverse ys.reverse - s.context
  let part (ls : List Text) : List View := (ls.take (ls.length - stop)).map s.view
  (Alignment.between (part xs) (part ys)).map fun c =>
    { c with first := c.first + start, second := c.second + start }

structure Comparison where
  xs : Array Text
  ys : Array Text

def linesOf (lines : Array Text) (start count : Nat) : List Text :=
  (lines.extract start (start + count)).toList

def Comparison.isIdle (p : Comparison) (s : Style) (c : Alignment.Change) : Bool :=
  s.skipsEmpty &&
    (linesOf p.xs c.first c.deleted ++ linesOf p.ys c.second c.inserted).all fun line =>
      (s.view line).text.isEmpty

def printed (sign : String) (line : Text) : Text :=
  sign.toList ++ line ++
    (if line.getLast? == some '\n' then [] else "\n\\ No newline at end of file\n".toList)

def printedAll (sign : String) (lines : List Text) : Text := lines.flatMap (printed sign)

def range (start count : Nat) : Text :=
  if 1 < count then Text.ofNat (start + 1) ++ [','] ++ Text.ofNat (start + count)
  else Text.ofNat (start + count)

def Comparison.normal (p : Comparison) (c : Alignment.Change) : Text :=
  let letter := if c.deleted = 0 then 'a' else if c.inserted = 0 then 'd' else 'c'
  range c.first c.deleted ++ [letter] ++ range c.second c.inserted ++ ['\n'] ++
    printedAll "< " (linesOf p.xs c.first c.deleted) ++
    (if letter == 'c' then "---\n".toList else []) ++
    printedAll "> " (linesOf p.ys c.second c.inserted)

/-- A change as a command that makes it, given that all changes below are made already. -/
def Comparison.command (p : Comparison) (c : Alignment.Change) : Text :=
  let letter := if c.deleted = 0 then 'a' else if c.inserted = 0 then 'd' else 'c'
  range c.first c.deleted ++ [letter, '\n'] ++
    (if c.inserted = 0 then []
    else (linesOf p.ys c.second c.inserted).flatten ++ ".\n".toList)

def grouped (p : Comparison) (s : Style) : List Alignment.Change → List (List Alignment.Change)
  | [] => []
  | c :: rest =>
    match grouped p s rest with
    | (d :: more) :: groups =>
      let limit := if p.isIdle s c || p.isIdle s d then s.context else 2 * s.context + 1
      if d.first - (c.first + c.deleted) < limit then (c :: d :: more) :: groups
      else [c] :: (d :: more) :: groups
    | groups => [c] :: groups

structure Hunk where
  changes : List Alignment.Change
  xStart : Nat
  xStop : Nat
  yStart : Nat
  yStop : Nat

def Comparison.hunk (p : Comparison) (context : Nat) (changes : List Alignment.Change) : Hunk :=
  let first : Alignment.Change := changes.headD default
  let last : Alignment.Change := changes.getLast?.getD default
  { changes
    xStart := first.first - context
    xStop := min p.xs.size (last.first + last.deleted + context)
    yStart := first.second - context
    yStop := min p.ys.size (last.second + last.inserted + context) }

def Comparison.unified (p : Comparison) (h : Hunk) : Text :=
  let span (start stop : Nat) : Text :=
    match stop - start with
    | 0 => Text.ofNat start ++ ",0".toList
    | 1 => Text.ofNat (start + 1)
    | n => Text.ofNat (start + 1) ++ [','] ++ Text.ofNat n
  let (x, body) := h.changes.foldl
    (fun (x, text) c =>
      (c.first + c.deleted,
        text ++ printedAll " " (linesOf p.xs x (c.first - x)) ++
          printedAll "-" (linesOf p.xs c.first c.deleted) ++
          printedAll "+" (linesOf p.ys c.second c.inserted)))
    (h.xStart, ([] : Text))
  "@@ -".toList ++ span h.xStart h.xStop ++ " +".toList ++ span h.yStart h.yStop ++
    " @@\n".toList ++ body ++ printedAll " " (linesOf p.xs x (h.xStop - x))

def side (lines : Array Text) (start stop : Nat) (runs : List (Nat × Nat × String)) : Text :=
  let (x, body) := runs.foldl
    (fun (x, text) (first, count, sign) =>
      (first + count,
        text ++ printedAll "  " (linesOf lines x (first - x)) ++
          printedAll sign (linesOf lines first count)))
    (start, ([] : Text))
  body ++ printedAll "  " (linesOf lines x (stop - x))

def Comparison.copied (p : Comparison) (h : Hunk) : Text :=
  let sign (c : Alignment.Change) (alone : String) : String :=
    if c.deleted = 0 || c.inserted = 0 then alone else "! "
  "***************\n*** ".toList ++ range h.xStart (h.xStop - h.xStart) ++ " ****\n".toList ++
    (if h.changes.all fun c => c.deleted = 0 then []
    else
      side p.xs h.xStart h.xStop (h.changes.map fun c => (c.first, c.deleted, sign c "- "))) ++
    "--- ".toList ++ range h.yStart (h.yStop - h.yStart) ++ " ----\n".toList ++
    (if h.changes.all fun c => c.inserted = 0 then []
    else
      side p.ys h.yStart h.yStop (h.changes.map fun c => (c.second, c.inserted, sign c "+ ")))

/-! ### Files -/

structure Side where
  name : Text
  content : Text
  time : Nat

def isBinary (t : Text) : Bool := t.contains '\x00'

def Style.heading (s : Style) (x y : Side) : Text :=
  let line (sign format : String) (side : Side) (label : Option Text) : Text :=
    sign.toList ++
      (match label with
      | some label => label
      | none => side.name ++ ['\t'] ++ Calendar.shown side.time format.toList) ++ ['\n']
  match s.shape with
  | .unified _ =>
    let format := "%Y-%m-%d %H:%M:%S.%N %z"
    line "--- " format x s.labels[0]? ++ line "+++ " format y s.labels[1]?
  | .copied _ =>
    let format := "%a %b %e %H:%M:%S %Y"
    line "*** " format x s.labels[0]? ++ line "--- " format y s.labels[1]?
  | _ => []

def compareTexts (s : Style) (among : Bool) (x y : Side) : Work Nat := do
  let named (before between after : String) : Text :=
    before.toList ++ (s.labels[0]?.getD x.name) ++ between.toList ++ (s.labels[1]?.getD y.name) ++
      after.toList ++ ['\n']
  let same : Work Nat := do
    if s.tells then Work.say (named "Files " " and " " are identical")
    return 0
  if x.content = y.content then
    same
  else if !s.asText && (isBinary x.content || isBinary y.content) then do
    Work.say (named (if s.shape = .brief then "Files " else "Binary files ") " and " " differ")
    return 1
  else
    let xs := Lines.cut '\n' x.content
    let ys := Lines.cut '\n' y.content
    let p : Comparison := ⟨xs.toArray, ys.toArray⟩
    let changes := s.changes xs ys
    if changes.all (p.isIdle s) then
      same
    else if s.shape = .brief then do
      Work.say (named "Files " " and " " differ")
      return 1
    else do
      if among then
        Work.say ("diff".toList ++ s.command ++ [' '] ++ x.name ++ [' '] ++ y.name ++ ['\n'])
      Work.say (s.heading x y)
      match s.shape with
      | .unified n =>
        for g in grouped p s changes do
          unless g.all (p.isIdle s) do Work.say (p.unified (p.hunk n g))
      | .copied n =>
        for g in grouped p s changes do
          unless g.all (p.isIdle s) do Work.say (p.copied (p.hunk n g))
      | .commands =>
        for c in changes.reverse do
          unless p.isIdle s c do Work.say (p.command c)
      | _ =>
        for c in changes do
          unless p.isIdle s c do Work.say (p.normal c)
      return 1

def sideAt (s : Style) (path : Text) : Work (Option Side) := do
  let f ← Work.files
  let time := match f.node (pathOf path) with
    | .ok n => n.changed
    | .error _ => 0
  match ← Work.readSource path with
  | .ok content => return some ⟨path, content, if path = ['-'] then f.now else time⟩
  | .error cause =>
    if s.absent && cause = .notFound then return some ⟨path, [], 0⟩
    else do
      complainOf path cause
      return none

def compareFiles (s : Style) (among : Bool) (p q : Text) : Work Nat := do
  match ← sideAt s p with
  | none => return 2
  | some x =>
    match ← sideAt s q with
    | none => return 2
    | some y => compareTexts s among x y

def namesIn (f : Files) (s : Style) (path : Text) : List Text :=
  match f.names (pathOf path) with
  | .ok names => (names.map Bytes.toText).filter fun name => !s.excluded.any (Matcher.fits · name)
  | .error _ => []

def compareDirectories (s : Style) : Nat → Text → Text → Work Nat
  | 0, _, _ => return 0
  | fuel + 1, p, q => do
    let f ← Work.files
    let first := namesIn f s p
    let second := namesIn f s q
    let names := (first ++ second.filter fun n => !first.contains n).mergeSort Listing.isBefore
    let isDirectory (t : Text) : Bool := f.isDirectory (pathOf t)
    names.foldlM
      (fun status name => do
        let x := inside p name
        let y := inside q name
        let only (where_ : Text) : Work Nat := do
          Work.say ("Only in ".toList ++ where_ ++ ": ".toList ++ name ++ ['\n'])
          return 1
        let result ←
          if !second.contains name && !(s.absent && (s.recursive || !isDirectory x)) then only p
          else if !first.contains name && !(s.absent && (s.recursive || !isDirectory y)) then only q
          else if (isDirectory x || !first.contains name) &&
              (isDirectory y || !second.contains name) then
            if s.recursive then compareDirectories s fuel x y
            else do
              Work.say ("Common subdirectories: ".toList ++ x ++ " and ".toList ++ y ++ ['\n'])
              pure 0
          else if first.contains name && second.contains name &&
              isDirectory x != isDirectory y then do
            let kind (t : Text) : Text :=
              match f.node (pathOf t) with
              | .ok n => (Listing.kindName n).toList
              | .error _ => []
            Work.say ("File ".toList ++ x ++ " is a ".toList ++ kind x ++ " while file ".toList ++
              y ++ " is a ".toList ++ kind y ++ ['\n'])
            pure 1
          else compareFiles s true x y
        return max status result)
      0

def usage : Usage :=
  { letters := "abBcC:dEeiNqrsTtuU:wx:yZ"
    names := [⟨"text", "a", .nothing⟩, ⟨"ignore-space-change", "b", .nothing⟩,
      ⟨"ignore-blank-lines", "B", .nothing⟩, ⟨"context", "context", .maybe⟩,
      ⟨"minimal", "d", .nothing⟩, ⟨"ignore-tab-expansion", "E", .nothing⟩,
      ⟨"ed", "e", .nothing⟩, ⟨"ignore-case", "i", .nothing⟩, ⟨"label", "label", .something⟩,
      ⟨"new-file", "N", .nothing⟩, ⟨"normal", "normal", .nothing⟩, ⟨"brief", "q", .nothing⟩,
      ⟨"recursive", "r", .nothing⟩, ⟨"report-identical-files", "s", .nothing⟩,
      ⟨"unified", "unified", .maybe⟩, ⟨"ignore-all-space", "w", .nothing⟩,
      ⟨"exclude", "x", .something⟩, ⟨"ignore-trailing-space", "Z", .nothing⟩,
      ⟨"strip-trailing-cr", "strip-trailing-cr", .nothing⟩,
      ⟨"speed-large-files", "speed-large-files", .nothing⟩] ++ helpOptions }

def contextOf (a : Arguments) (keys : List String) : Work (Option Nat) :=
  a.options.foldlM
    (fun found (key, value) =>
      if !keys.contains key then return found
      else if value.isEmpty then return some (max (found.getD 0) 3)
      else
        match Text.decimal? value with
        | some n => return some (max (found.getD 0) n)
        | none => misuse ("invalid context length ".toList ++ quoted value))
    none

def optionText (given : List Text) : Text :=
  (given.takeWhile (· ≠ "--".toList)).flatMap fun t =>
    match t with
    | '-' :: _ :: _ => ' ' :: nameOf t
    | _ => []

def styleOf (a : Arguments) (given : List Text) : Work Style := do
  let unified ← contextOf a ["u", "U", "unified"]
  let copied ← contextOf a ["c", "C", "context"]
  let shapes := (unified.map Shape.unified).toList ++ (copied.map Shape.copied).toList ++
    (if a.has "e" then [.commands] else []) ++ (if a.has "normal" then [.normal] else [])
  if 1 < shapes.length then
    misuse "conflicting output style options".toList
  return {
    shape := if a.has "q" then .brief else shapes.headD .normal
    recursive := a.has "r"
    absent := a.has "N"
    tells := a.has "s"
    foldsCase := a.has "i"
    blanks :=
      if a.has "w" then .ignored else if a.has "b" then .amount
      else if a.has "Z" then .trailing else .counted
    skipsEmpty := a.has "B"
    asText := a.has "a"
    labels := a.getAll "label"
    excluded := (a.getAll "x").map Matcher.ofText
    command := optionText given }

def diff : Work Nat := do
  Work.failingWith 2
  let q ← Work.request
  let a ← readArguments usage
  let s ← styleOf a q.arguments
  checkOperands 2 2 a.operands
  let x := a.operands.headD []
  let y := a.operands[1]?.getD []
  let f ← Work.files
  let isDirectory (t : Text) : Bool := t ≠ ['-'] && f.isDirectory (pathOf t)
  let isPresent (t : Text) : Bool := t = ['-'] || f.isPresent (pathOf t)
  if x = y && isPresent x then
    if s.tells && !isDirectory x then
      Work.say ("Files ".toList ++ x ++ " and ".toList ++ y ++ " are identical\n".toList)
    return 0
  let missing := [x, y].filter fun t => !isPresent t
  if !missing.isEmpty && (!s.absent || missing.length = 2) then
    for t in missing do
      match f.node (pathOf t) with
      | .ok _ => pure ()
      | .error cause => complainOf t cause
    return 2
  if (isDirectory x || !isPresent x) && (isDirectory y || !isPresent y) then
    compareDirectories s 64 x y
  else if isDirectory x then
    compareFiles s false (inside x (Plain.lastPart y)) y
  else if isDirectory y then
    compareFiles s false x (inside y (Plain.lastPart x))
  else
    compareFiles s false x y

end Difference

end Tool

end Proctor
