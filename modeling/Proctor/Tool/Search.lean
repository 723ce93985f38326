import Proctor.Regex.Read
import Proctor.Tool.Passing

/-!
# Searching lines

Lines in which one of some expressions fits are shown, or counted, or named by their files. Lines
are looked at as they come, so that a search may end before its input does.
-/

set_option autoImplicit false

namespace Proctor

namespace Tool

open Shell

namespace Search

open Plain (helpOptions)

structure Query where
  regexes : List Regex
  manner : Regex.Manner := {}
  /-- A fit has no letters next to it. -/
  words : Bool := false
  /-- A fit is a whole line. -/
  whole : Bool := false
  inverted : Bool := false

/-- Of two fits, the one that starts first, or else the longer one. -/
def better (a b : Option Regex.Fit) : Option Regex.Fit :=
  match a, b with
  | none, b => b
  | a, none => a
  | some x, some y =>
    if y.before.length < x.before.length ||
        (y.before.length = x.before.length && x.text.length < y.text.length) then some y
    else some x

def wordAt (m : Regex.Manner) (c : Regex.Cursor) (r : Regex) : Option Regex.Fit :=
  let isLetter (x : Option Char) : Bool := (x.map Regex.isWordChar).getD false
  if isLetter c.before then none
  else
    ((Regex.ends m r.hasReference r c).find? fun d => !isLetter d.rest.head?).map fun d =>
      { before := [], text := c.rest.take (d.position - c.position), after := d.rest }

def searchWord (q : Query) : Nat → Text → Regex.Cursor → Option Regex.Fit
  | 0, _, _ => none
  | fuel + 1, passed, c =>
    match (q.regexes.map (wordAt q.manner c)).foldl better none, c.rest with
    | some f, _ => some { f with before := passed.reverse }
    | none, [] => none
    | none, x :: _ => searchWord q fuel (x :: passed) (c.skip 1)

def firstFit (q : Query) (before : Option Char) (t : Text) : Option Regex.Fit :=
  if q.whole then
    if before.isSome then none
    else
      let c : Regex.Cursor := { position := 0, before, rest := t }
      if q.regexes.any fun r =>
          (Regex.ends q.manner r.hasReference r c).any fun d => d.rest.isEmpty then
        some { before := [], text := t, after := [] }
      else none
  else if q.words then searchWord q (t.length + 1) [] { position := 0, before, rest := t }
  else (q.regexes.map fun r => r.search q.manner before t).foldl better none

def isSelected (q : Query) (line : Text) : Bool := (firstFit q none line).isSome != q.inverted

def allFits (q : Query) : Nat → Nat → Option Char → Text → List (Nat × Text)
  | 0, _, _, _ => []
  | fuel + 1, offset, before, t =>
    match firstFit q before t with
    | none => []
    | some f =>
      let start := offset + f.before.length
      if f.text.isEmpty then
        match f.after with
        | [] => []
        | c :: rest => allFits q fuel (start + 1) (some c) rest
      else
        (start, f.text) ::
          allFits q fuel (start + f.text.length) (f.text.getLast?.or before) f.after

inductive Shows where
  | lines
  | fits
  | count
  | filesWith
  | filesWithout
  | nothing
  deriving DecidableEq, Repr

structure Style where
  shows : Shows := .lines
  named : Bool := false
  numbered : Bool := false
  offsets : Bool := false
  most : Option Nat := none
  before : Nat := 0
  after : Nat := 0
  separator : Option Text := some "--".toList
  ending : Char := '\n'
  nulNames : Bool := false
  quiet : Bool := false
  asText : Bool := false
  label : Text := "(standard input)".toList
  skipsDirectories : Bool := false

structure State where
  number : Nat := 0
  offset : Nat := 0
  /-- Lines before, which may be shown with the next one found, the last one first. -/
  earlier : List (Nat × Nat × Text) := []
  /-- Lines that are still to be shown after one that was found. -/
  later : Nat := 0
  lastShown : Nat := 0
  count : Nat := 0
  isBinary : Bool := false
  done : Bool := false

def shownLine (s : Style) (name : Text) (sign : Char) (number offset : Nat) (line : Text) : Text :=
  (if s.named then name ++ (if s.nulNames then ['\x00'] else [sign]) else []) ++
    (if s.numbered then Text.ofNat number ++ [sign] else []) ++
    (if s.offsets then Text.ofNat offset ++ [sign] else []) ++ line ++ [s.ending]

def showFound (s : Style) (q : Query) (name : Text) (st : State) (line : Text) : State × Text :=
  let number := st.number + 1
  if s.shows = .fits then
    let fits := if q.inverted then [] else allFits q (line.length + 2) 0 none line
    ({ st with lastShown := number },
      fits.flatMap fun (o, t) => shownLine s name ':' number (st.offset + o) t)
  else
    let context := (st.earlier.take s.before).reverse.filter fun (n, _, _) => st.lastShown < n
    let start := (context.head?.map fun c => c.1).getD number
    let isApart := (0 < s.before || 0 < s.after) && 0 < st.lastShown && st.lastShown + 1 < start
    let gap : Text := if isApart then (s.separator.map (· ++ ['\n'])).getD [] else []
    ({ st with lastShown := number, later := s.after },
      gap ++ (context.flatMap fun (n, o, l) => shownLine s name '-' n o l) ++
        shownLine s name ':' number st.offset line)

def lookAt (s : Style) (q : Query) (name : Text) (st : State) (line : Text) : State × Text :=
  let go (st : State) (text : Text) : State × Text :=
    ({ st with
      number := st.number + 1
      offset := st.offset + line.length + 1
      earlier := ((st.number + 1, st.offset, line) :: st.earlier).take s.before }, text)
  let isFull := (s.most.map fun m => decide (m ≤ st.count)).getD false
  if isFull then
    if st.later = 0 then ({ st with done := true }, [])
    else
      go { st with later := st.later - 1, lastShown := st.number + 1 }
        (shownLine s name '-' (st.number + 1) st.offset line)
  else if isSelected q line then
    let st := { st with count := st.count + 1 }
    match s.shows with
    | .count => go st []
    | .filesWith => ({ st with done := true }, [])
    | .filesWithout => ({ st with done := true }, [])
    | .nothing => ({ st with done := true }, [])
    | _ =>
      if st.isBinary then
        ({ st with done := true }, "grep: ".toList ++ name ++ ": binary file matches\n".toList)
      else
        let (st, text) := showFound s q name st line
        go st text
  else if 0 < st.later && s.shows = .lines then
    go { st with later := st.later - 1, lastShown := st.number + 1 }
      (shownLine s name '-' (st.number + 1) st.offset line)
  else go st []

/-- Looks at lines until there is no need to go on: the state, what is shown, and the lines left. -/
def lookThrough (s : Style) (q : Query) (name : Text) : State → List Text → List Text →
    State × List Text × List Text
  | st, shown, [] => (st, shown, [])
  | st, shown, line :: rest =>
    if st.done then (st, shown, line :: rest)
    else
      let (next, text) := lookAt s q name st line
      if next.done && text.isEmpty && next.count = st.count then (next, shown, line :: rest)
      else lookThrough s q name next (text :: shown) rest

def wholeLines (ending : Char) (t : Text) : List Text × Text :=
  let parts := Text.split ending t
  (parts.dropLast, parts.getLastD [])

def searchDescriptor (s : Style) (q : Query) (name : Text) (descriptor : Nat) :
    Nat → State → Text → Work (Except Cause State)
  | 0, st, _ => return .ok st
  | fuel + 1, st, carry => do
    match ← Work.readPart descriptor with
    | .error cause => return .error cause
    | .ok [] =>
      if carry.isEmpty then return .ok st
      else do
        let (st, shown, _) := lookThrough s q name st [] [carry]
        Work.say shown.reverse.flatten
        return .ok st
    | .ok t => do
      let isBinary := st.isBinary || (!s.asText && s.ending = '\n' && t.contains '\x00')
      let (lines, left) := wholeLines s.ending (carry ++ t)
      let (st, shown, unread) := lookThrough s q name { st with isBinary } [] lines
      Work.say shown.reverse.flatten
      if st.done then do
        if s.most.isSome && descriptor = 0 then
          Work.giveBack 0 ((unread.map fun l => l.length + 1).foldl (· + ·) 0 + left.length)
        return .ok st
      else searchDescriptor s q name descriptor fuel st left

structure Result where
  isFound : Bool := false
  isFaulty : Bool := false

def summary (s : Style) (name : Text) (st : State) : Text :=
  let stop : Text := if s.nulNames then ['\x00'] else ['\n']
  match s.shows with
  | .count =>
    (if s.named then name ++ (if s.nulNames then ['\x00'] else [':']) else []) ++
      Text.ofNat st.count ++ ['\n']
  | .filesWith => if 0 < st.count then name ++ stop else []
  | .filesWithout => if st.count = 0 then name ++ stop else []
  | _ => []

def isOutput (descriptor : Nat) : Work Bool := do
  match ← Work.look 1, ← Work.look descriptor with
  | .node out _, .node source _ => do
    let f ← Work.files
    return out = source && (f.get source).isRegular
  | _, _ => return false

def searchFile (s : Style) (q : Query) (operand : Text) (r : Result) : Work Result := do
  let isInput := operand = ['-']
  let name := if isInput then s.label else operand
  match ← Passing.openSource operand with
  | .error cause => do
    if !s.quiet then Work.complain (operand ++ ": ".toList ++ reason cause)
    return { r with isFaulty := true }
  | .ok descriptor => do
    if (s.shows = .lines || s.shows = .fits) && (← isOutput descriptor) then do
      if !s.quiet then Work.complain (name ++ ": input file is also the output".toList)
      Passing.closeSource operand descriptor
      return { r with isFaulty := true }
    else do
      let result ←
        if s.most == some 0 then pure (.ok {})
        else searchDescriptor s q name descriptor Work.readLimit {} []
      Passing.closeSource operand descriptor
      match result with
      | .error cause => do
        if cause = .isDirectory && s.skipsDirectories then return r
        else do
          if !s.quiet then Work.complain (name ++ ": ".toList ++ reason cause)
          return { r with isFaulty := true }
      | .ok st => do
        Work.say (summary s name st)
        if s.shows = .nothing && 0 < st.count then Work.exit 0
        return { r with isFound := r.isFound || 0 < st.count }

/-! ### Trees -/

structure Walk where
  included : List Text := []
  excluded : List Text := []
  excludedDirectories : List Text := []
  followsLinks : Bool := false

def fitsAny (patterns : List Text) (name : Text) : Bool :=
  patterns.any fun p => Matcher.fits (Matcher.ofText p) name

def isWanted (w : Walk) (path : Text) : Bool :=
  let name := Plain.lastPart path
  (w.included.isEmpty || fitsAny w.included name) && !fitsAny w.excluded name

def filesBelow (w : Walk) (f : Files) : Nat → Bool → Text → List Text
  | 0, _, _ => []
  | fuel + 1, isOperand, path =>
    match f.nodeItself (pathOf path) with
    | .error _ => if isOperand then [path] else []
    | .ok n =>
      let n := if n.isLink && (isOperand || w.followsLinks) then
        ((f.node (pathOf path)).toOption).getD n else n
      if n.isDirectory then
        if !isOperand && fitsAny w.excludedDirectories (Plain.lastPart path) then []
        else
          (n.entries.map fun e => Manage.inside path e.1.toText).flatMap
            (filesBelow w f fuel false)
      else if n.isRegular && isWanted w path then [path]
      else if isOperand && !n.isRegular then [path]
      else []

/-! ### The tool -/

def usageAdvice {α : Type} (message : Option Text) : Work α := do
  let q ← Work.request
  let _ ← Work.writeTo 2
    ((message.map fun m => q.name.toList ++ ": ".toList ++ m ++ ['\n']).getD [] ++
      ("Usage: " ++ q.name ++ " [OPTION]... PATTERNS [FILE]...\nTry '" ++ q.name ++
        " --help' for more information.\n").toList)
  Work.exit 2

def usage : Usage :=
  { letters := "0123456789abcd:e:f:hilm:noqrsuvwxyzA:B:C:D:EFGHILPRTUVZ"
    names := [⟨"after-context", "A", .something⟩, ⟨"basic-regexp", "G", .nothing⟩,
      ⟨"before-context", "B", .something⟩, ⟨"binary-files", "binary", .something⟩,
      ⟨"byte-offset", "b", .nothing⟩, ⟨"context", "C", .something⟩, ⟨"color", "color", .maybe⟩,
      ⟨"colour", "color", .maybe⟩, ⟨"count", "c", .nothing⟩, ⟨"devices", "D", .something⟩,
      ⟨"directories", "d", .something⟩, ⟨"exclude", "exclude", .something⟩,
      ⟨"exclude-dir", "exclude-dir", .something⟩, ⟨"exclude-from", "exclude-from", .something⟩,
      ⟨"extended-regexp", "E", .nothing⟩, ⟨"file", "f", .something⟩,
      ⟨"files-with-matches", "l", .nothing⟩, ⟨"files-without-match", "L", .nothing⟩,
      ⟨"fixed-strings", "F", .nothing⟩, ⟨"group-separator", "separator", .something⟩,
      ⟨"no-group-separator", "no-separator", .nothing⟩, ⟨"ignore-case", "i", .nothing⟩,
      ⟨"no-ignore-case", "no-i", .nothing⟩, ⟨"include", "include", .something⟩,
      ⟨"initial-tab", "T", .nothing⟩, ⟨"invert-match", "v", .nothing⟩,
      ⟨"label", "label", .something⟩,
      ⟨"line-buffered", "buffered", .nothing⟩, ⟨"line-number", "n", .nothing⟩,
      ⟨"line-regexp", "x", .nothing⟩, ⟨"max-count", "m", .something⟩,
      ⟨"no-filename", "h", .nothing⟩, ⟨"no-messages", "s", .nothing⟩, ⟨"null", "Z", .nothing⟩,
      ⟨"null-data", "z", .nothing⟩, ⟨"only-matching", "o", .nothing⟩,
      ⟨"perl-regexp", "P", .nothing⟩, ⟨"quiet", "q", .nothing⟩, ⟨"recursive", "r", .nothing⟩,
      ⟨"dereference-recursive", "R", .nothing⟩, ⟨"regexp", "e", .something⟩,
      ⟨"silent", "q", .nothing⟩, ⟨"text", "a", .nothing⟩, ⟨"with-filename", "H", .nothing⟩,
      ⟨"word-regexp", "w", .nothing⟩] ++ helpOptions }

def patternsOf (a : Arguments) : Work (List Text × List Text) := do
  if a.has "e" || a.has "f" then do
    let fromFiles ← files (a.getAll "f")
    return ((a.getAll "e").flatMap (Text.split '\n') ++ fromFiles, a.operands)
  else
    match a.operands with
    | [] => usageAdvice none
    | pattern :: rest => return (Text.split '\n' pattern, rest)
where
  files : List Text → Work (List Text)
    | [] => return []
    | path :: rest => do
      match ← Work.readSource path with
      | .error cause => Work.fail 2 (path ++ ": ".toList ++ reason cause)
      | .ok t => return Text.lines t ++ (← files rest)

def regexesOf (extended fixed : Bool) : List Text → Work (List Regex)
  | [] => return []
  | p :: rest => do
    if fixed then return Regex.literal p :: (← regexesOf extended fixed rest)
    else
      match Regex.read { extended, lenient := true } p with
      | .error message => Work.fail 2 message.toList
      | .ok e => do
        for w in e.warnings do
          Work.complain ("warning: " ++ w).toList
        return e.regex :: (← regexesOf extended fixed rest)

def contextBoth (a : Arguments) : Option Text :=
  (a.options.foldl
    (fun ((found, digits) : Option Text × Text) (key, value) =>
      match key.toList with
      | ['C'] => (some value, [])
      | [c] => if c.isDigit then (some (digits ++ [c]), digits ++ [c]) else (found, [])
      | _ => (found, []))
    (none, [])).1

def contextLength (a : Arguments) (key : String) : Work Nat :=
  match (a.get? key).or (contextBoth a) with
  | none => pure 0
  | some t =>
    match Text.decimal? t with
    | some n => pure n
    | none => Work.fail 2 (t ++ ": invalid context length argument".toList)

def searchAll (s : Style) (q : Query) : List Text → Result → Work Result
  | [], r => return r
  | operand :: rest, r => do
    let r ← searchFile s q operand r
    searchAll s q rest r

def work (usual : String) : Work Nat := do
  Work.failingWith 2
  let request ← Work.request
  let given := request.arguments
  let a ←
    match usage.read (given.length + 1) given with
    | .ok a => pure a
    | .error message => usageAdvice (some message)
  let spellings := (if usual = "G" then [] else [usual]) ++
    ((a.options.map Prod.fst).filter fun k => ["E", "F", "G", "P"].contains k)
  if spellings.any fun k => some k ≠ spellings.head? then
    Work.fail 2 "conflicting matchers specified".toList
  let most ←
    match a.get? "m" with
    | none => pure none
    | some t =>
      match Text.integer? t with
      | some n => pure (if n < 0 then none else some n.toNat)
      | none => Work.fail 2 "invalid max count".toList
  let before ← contextLength a "B"
  let after ← contextLength a "A"
  let (patterns, operands) ← patternsOf a
  let spelling := spellings.headD usual
  let regexes ← regexesOf (spelling = "E" || spelling = "P") (spelling = "F") patterns
  let isDeep := a.has "r" || a.has "R" || a.get? "d" == some "recurse".toList
  let folds := a.lastOf ["i", "y", "no-i"] == some "i" || a.lastOf ["i", "y", "no-i"] == some "y"
  let q : Query :=
    { regexes, manner := { foldsCase := folds }, words := a.has "w" && !a.has "x"
      whole := a.has "x", inverted := a.has "v" }
  let shows : Shows :=
    if a.has "q" then .nothing
    else
      match a.lastOf ["l", "L"] with
      | some "l" => .filesWith
      | some _ => .filesWithout
      | none => if a.has "c" then .count else if a.has "o" then .fits else .lines
  let f ← Work.files
  let walk : Walk :=
    { included := a.getAll "include", excluded := a.getAll "exclude"
      excludedDirectories := a.getAll "exclude-dir", followsLinks := a.has "R" }
  let sources : List Text :=
    if isDeep then
      if operands.isEmpty then
        (filesBelow walk f (f.nodes.size + 1) true ['.']).map fun p => p.drop 2
      else operands.flatMap fun o =>
        if o = ['-'] then [o] else filesBelow walk f (f.nodes.size + 1) true o
    else if operands.isEmpty then [['-']]
    else operands
  let named := match a.lastOf ["H", "h"] with
    | some "H" => true
    | some _ => false
    | none =>
      if isDeep then
        operands.isEmpty || 1 < operands.length || operands.any fun o => f.isDirectory (pathOf o)
      else 1 < operands.length
  let s : Style :=
    { shows, named, numbered := a.has "n", offsets := a.has "b", most, before, after
      separator := if a.has "no-separator" then none
        else some ((a.get? "separator").getD "--".toList)
      ending := if a.has "z" then '\x00' else '\n', nulNames := a.has "Z", quiet := a.has "s"
      asText := a.has "a" || a.get? "binary" == some "text".toList
      label := (a.get? "label").getD "(standard input)".toList
      skipsDirectories := a.get? "d" == some "skip".toList }
  let r ← searchAll s q sources {}
  return if r.isFaulty then 2 else if r.isFound then 0 else 1

def grep : Work Nat := work "G"

def egrep : Work Nat := work "E"

def fgrep : Work Nat := work "F"

end Search

end Tool

end Proctor
