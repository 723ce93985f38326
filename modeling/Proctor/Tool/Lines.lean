import Proctor.Regex.Read
import Proctor.Tool.Listing
import Proctor.Tool.Passing

/-!
# Tools that work on lines

They read all of their sources and write the lines turned round, counted, numbered, folded or put
side by side.
-/

set_option autoImplicit false

namespace Proctor

namespace Tool

open Shell

namespace Lines

open Plain (helpOptions)

def cut (ending : Char) (t : Text) : List Text :=
  go [] t
where
  go : Text → Text → List Text
    | [], [] => []
    | part, [] => [part.reverse]
    | part, c :: rest =>
      if c == ending then (c :: part).reverse :: go [] rest else go (c :: part) rest

def ended (line : Text) : Text × Bool :=
  if line.getLast? == some '\n' then (line.dropLast, true) else (line, false)

def readOr (complaint : Text → Cause → Work Unit) (operand : Text) : Work (Option Text) := do
  match ← Work.readSource operand with
  | .ok t => return some t
  | .error cause => do
    complaint operand cause
    return none

def usual (operand : Text) (cause : Cause) : Work Unit :=
  Work.complain (nameOf operand ++ ": ".toList ++ reason cause)

def mapSources (a : Arguments) (f : Text → Text) : Work Nat :=
  Manage.forEach a.sources fun operand => do
    match ← readOr usual operand with
    | some t => do
      Work.say (f t)
      return true
    | none => return false

/-! ### Turning round -/

def parts (separator : Text) (before : Bool) : Nat → Text → Text → List Text
  | 0, part, _ => [part.reverse]
  | _, part, [] => if part.isEmpty then [] else [part.reverse]
  | fuel + 1, part, c :: rest =>
    if !separator.isEmpty && separator.isPrefixOf (c :: rest) then
      let left := (c :: rest).drop separator.length
      if before then
        (if part.isEmpty then [] else [part.reverse]) ++
          parts separator before fuel separator.reverse left
      else (separator.reverse ++ part).reverse :: parts separator before fuel [] left
    else parts separator before fuel (c :: part) rest

def tac : Work Nat := do
  let a ← Work.arguments
    { letters := "brs:"
      names := [⟨"before", "b", .nothing⟩, ⟨"regex", "r", .nothing⟩,
        ⟨"separator", "s", .something⟩] ++ helpOptions }
  let separator := (a.get? "s").getD ['\n']
  Manage.forEach a.sources fun operand => do
    let complaint (operand : Text) (cause : Cause) : Work Unit :=
      if cause = .isDirectory then
        Work.mutter (nameOf operand ++ ": read error: Invalid argument".toList)
      else
        Work.mutter ("failed to open ".toList ++ shellQuoted operand ++ " for reading: ".toList ++
        reason cause)
    match ← readOr complaint operand with
    | some t => do
      Work.say (parts separator (a.has "b") (t.length + 1) [] t).reverse.flatten
      return true
    | none => return false

def rev : Work Nat := do
  let a ← Work.arguments { letters := "", names := helpOptions }
  Manage.forEach a.sources fun operand => do
    let complaint (operand : Text) (cause : Cause) : Work Unit :=
      Work.mutter ("cannot open ".toList ++ operand ++ ": ".toList ++ reason cause)
    match ← readOr complaint operand with
    | some t => do
      Work.say ((cut '\n' t).flatMap fun line =>
        let (text, hasEnd) := ended line
        text.reverse ++ (if hasEnd then ['\n'] else []))
      return true
    | none => return false

/-! ### Counting -/

structure Count where
  lines : Nat := 0
  words : Nat := 0
  bytes : Nat := 0
  widest : Nat := 0
  inWord : Bool := false
  column : Nat := 0

def Count.step (n : Count) (c : Char) : Count :=
  let n := { n with bytes := n.bytes + 1 }
  let apart (n : Count) : Count :=
    { n with words := if n.inWord then n.words + 1 else n.words, inWord := false }
  match c with
  | '\n' => apart { n with lines := n.lines + 1, widest := max n.widest n.column, column := 0 }
  | '\r' => apart { n with widest := max n.widest n.column, column := 0 }
  | '\x0c' => apart { n with widest := max n.widest n.column, column := 0 }
  | '\t' => apart { n with column := n.column + 8 - n.column % 8 }
  | ' ' => apart { n with column := n.column + 1 }
  | '\x0b' => apart n
  | c => if Quoting.isShown c then { n with inWord := true, column := n.column + 1 } else n

def countOf (t : Text) : Count :=
  let n := t.foldl Count.step {}
  { n with words := if n.inWord then n.words + 1 else n.words, widest := max n.widest n.column }

def Count.add (a b : Count) : Count :=
  { lines := a.lines + b.lines, words := a.words + b.words, bytes := a.bytes + b.bytes
    widest := max a.widest b.widest }

def countLine (keys : List String) (width : Nat) (n : Count) (name : Text) : Text :=
  let number (key : String) : Nat :=
    if key = "l" then n.lines
    else if key = "w" then n.words
    else if key = "L" then n.widest
    else n.bytes
  Plain.joined [' '] (keys.map fun k => Calendar.padded ' ' width (Text.ofNat (number k))) ++
    (if name.isEmpty then [] else ' ' :: name) ++ ['\n']

def countWidth (operands : List Text) : Work Nat := do
  let f ← Work.files
  let input ← Work.look 0
  let nodes : List (Option Node) := operands.filterMap fun operand =>
    if operand = ['-'] then
      match input with
      | .node number _ => some (some (f.get number))
      | .pipe => some none
      | .closed => none
    else (f.node (pathOf operand)).toOption.map some
  let isOdd := nodes.any fun n => (n.map fun n => !n.isRegular).getD true
  let total := (nodes.filterMap id).foldl
    (fun sum n => if n.isRegular then sum + n.size else sum) 0
  return max (Text.ofNat total).length (if isOdd then 7 else 1)

def countAll (keys : List String) (width : Nat) (lines : Bool) :
    List (Text × Text) → Count → Nat → Work (Count × Nat)
  | [], total, status => return (total, status)
  | (operand, name) :: rest, total, status => do
    if operand.isEmpty then do
      Work.complain "invalid zero-length file name".toList
      countAll keys width lines rest total 1
    else
      match ← Work.readSource operand with
      | .error cause => do
        usual operand cause
        if cause = .isDirectory && lines then Work.say (countLine keys width {} name)
        countAll keys width lines rest total 1
      | .ok t => do
        let n := countOf t
        if lines then Work.say (countLine keys width n name)
        countAll keys width lines rest (total.add n) status

def wc : Work Nat := do
  let a ← Work.arguments
    { letters := "clmwL"
      names := [⟨"bytes", "c", .nothing⟩, ⟨"chars", "m", .nothing⟩, ⟨"lines", "l", .nothing⟩,
        ⟨"words", "w", .nothing⟩, ⟨"max-line-length", "L", .nothing⟩,
        ⟨"files0-from", "files", .something⟩, ⟨"total", "total", .something⟩] ++ helpOptions }
  let listed ←
    match a.get? "files" with
    | none => pure none
    | some source => do
      match ← Work.readSource source with
      | .ok t => pure (some ((cut '\x00' t).map fun p =>
          if p.getLast? == some '\x00' then p.dropLast else p))
      | .error cause =>
        Work.fail 1 ("cannot open ".toList ++ shellQuoted source ++ " for reading: ".toList ++
          reason cause)
  let asked := ["l", "w", "m", "c", "L"].filter a.has
  let keys := if asked.isEmpty then ["l", "w", "c"] else asked
  let pairs : List (Text × Text) :=
    match listed with
    | some names => names.map fun n => (n, n)
    | none =>
      if a.operands.isEmpty then [(['-'], [])]
      else a.operands.map fun o => (o, nameOf o)
  let width ←
    if pairs.length = 1 && keys.length = 1 then pure 1 else countWidth (pairs.map Prod.fst)
  let summary := (a.get? "total").getD "auto".toList
  let (total, status) ← countAll keys width (summary ≠ "only".toList) pairs {} 0
  let isShown := summary = "always".toList || summary = "only".toList ||
    (summary ≠ "never".toList && 1 < pairs.length)
  if isShown then
    Work.say (countLine keys (if summary = "only".toList then 1 else width) total
      (if summary = "only".toList then [] else "total".toList))
  return status

/-! ### Numbering -/

inductive Numbered where
  | all
  | text
  | none
  | fitting (r : Regex)

structure Numbering where
  header : Numbered := .none
  body : Numbered := .text
  footer : Numbered := .none
  delimiter : Text := ['\\', ':']
  step : Int := 1
  start : Int := 1
  separator : Text := ['\t']
  width : Nat := 6
  format : Text := "rn".toList
  blanks : Nat := 1
  keeps : Bool := false

structure Numbers where
  next : Int
  blanks : Nat := 0
  section_ : Numbered

def numberText (n : Numbering) (value : Int) : Text :=
  let digits := Text.ofInt value
  if n.format = "ln".toList then Listing.left n.width digits
  else if n.format = "rz".toList then
    match digits with
    | '-' :: digits => '-' :: Calendar.padded '0' (n.width - 1) digits
    | digits => Calendar.padded '0' n.width digits
  else Listing.right n.width digits

def sectionOf (n : Numbering) (line : Text) : Option Numbered :=
  if n.delimiter.isEmpty then none
  else if line = n.delimiter ++ n.delimiter ++ n.delimiter then some n.header
  else if line = n.delimiter ++ n.delimiter then some n.body
  else if line = n.delimiter then some n.footer
  else none

def numberLine (n : Numbering) (s : Numbers) (line : Text) : Numbers × Text :=
  match sectionOf n line with
  | some section_ =>
    ({ next := if n.keeps then s.next else n.start, section_ }, ['\n'])
  | none =>
    let (counts, blanks) : Bool × Nat :=
      match s.section_ with
      | .all =>
        if !line.isEmpty || n.blanks ≤ 1 then (true, 0)
        else if s.blanks + 1 = n.blanks then (true, 0)
        else (false, s.blanks + 1)
      | .text => (!line.isEmpty, 0)
      | .none => (false, 0)
      | .fitting r => (r.isIn {} line, 0)
    if counts then
      ({ s with next := s.next + n.step, blanks },
        numberText n s.next ++ n.separator ++ line ++ ['\n'])
    else
      ({ s with blanks },
        List.replicate (n.width + n.separator.length) ' ' ++ line ++ ['\n'])

def numberLines (n : Numbering) (s : Numbers) (lines : List Text) : Numbers × List Text :=
  lines.foldl (fun (s, shown) line =>
    let (s, text) := numberLine n s line
    (s, text :: shown)) (s, [])

def numberedBy (what : String) (t : Text) : Work Numbered :=
  match t with
  | ['a'] => pure .all
  | ['t'] => pure .text
  | ['n'] => pure .none
  | 'p' :: expression =>
    match Regex.read { extended := false } expression with
    | .ok e => pure (.fitting e.regex)
    | .error message => Work.fail 1 message.toList
  | _ => Work.misuse 1 ("invalid ".toList ++ what.toList ++ " numbering style: ".toList ++ quoted t)

def nlAll (n : Numbering) : List Text → Numbers → Nat → Work Nat
  | [], _, status => return status
  | operand :: rest, s, status => do
    match ← readOr usual operand with
    | none => nlAll n rest s 1
    | some t => do
      let (s, shown) := numberLines n s (Text.lines t)
      Work.say shown.reverse.flatten
      nlAll n rest s status

def nl : Work Nat := do
  let a ← Work.arguments
    { letters := "b:d:f:h:i:l:n:ps:v:w:"
      names := [⟨"body-numbering", "b", .something⟩, ⟨"section-delimiter", "d", .something⟩,
        ⟨"footer-numbering", "f", .something⟩, ⟨"header-numbering", "h", .something⟩,
        ⟨"line-increment", "i", .something⟩, ⟨"join-blank-lines", "l", .something⟩,
        ⟨"number-format", "n", .something⟩, ⟨"no-renumber", "p", .nothing⟩,
        ⟨"number-separator", "s", .something⟩, ⟨"starting-line-number", "v", .something⟩,
        ⟨"number-width", "w", .something⟩] ++ helpOptions }
  let style (key what : String) (usual : Numbered) : Work Numbered :=
    match a.get? key with
    | none => pure usual
    | some t => numberedBy what t
  let number (key what : String) (usual : Int) (least : Option Int) : Work Int :=
    match a.get? key with
    | none => pure usual
    | some t =>
      match Text.integer? t with
      | none => Work.fail 1 ("invalid ".toList ++ what.toList ++ ": ".toList ++ quoted t)
      | some n =>
        if (least.map fun l => decide (n < l)).getD false then
          Work.fail 1 ("invalid ".toList ++ what.toList ++ ": ".toList ++ quoted t ++
            ": Numerical result out of range".toList)
        else pure n
  let header ← style "h" "header" .none
  let body ← style "b" "body" .text
  let footer ← style "f" "footer" .none
  let start ← number "v" "starting line number" 1 none
  let step ← number "i" "line number increment" 1 none
  let blanks ← number "l" "line number of blank lines" 1 (some 1)
  let width ← number "w" "line number field width" 6 (some 1)
  let format := (a.get? "n").getD "rn".toList
  if !(["ln", "rn", "rz"].contains (String.ofList format)) then
    Work.misuse 1 ("invalid line numbering format: ".toList ++ quoted format)
  let delimiter : Text := match a.get? "d" with
    | some [c] => [c, ':']
    | some t => t
    | none => ['\\', ':']
  let n : Numbering :=
    { header, body, footer, start, step, blanks := blanks.toNat, width := width.toNat, format
      delimiter, separator := (a.get? "s").getD ['\t'], keeps := a.has "p" }
  nlAll n a.sources { next := n.start, section_ := n.body } 0

/-! ### Folding -/

def columnAfter (bytes : Bool) (column : Nat) (c : Char) : Nat :=
  if bytes then column + 1
  else if c == '\x08' then column - 1
  else if c == '\r' then 0
  else if c == '\t' then column + 8 - column % 8
  else column + 1

def widthOf (bytes : Bool) (t : Text) : Nat := t.foldl (columnAfter bytes) 0

def foldLine (bytes spaces : Bool) (width : Nat) : Nat → Text → Nat → Text → Text
  | 0, present, _, rest => present.reverse ++ rest
  | _, present, _, [] => present.reverse
  | fuel + 1, present, column, c :: rest =>
    let after := columnAfter bytes column c
    if c == '\n' then (c :: present).reverse ++ foldLine bytes spaces width fuel [] 0 rest
    else if after ≤ width || present.isEmpty then
      foldLine bytes spaces width fuel (c :: present) after rest
    else
      let kept := present.takeWhile fun d => d ≠ ' ' && d ≠ '\t'
      if spaces && kept.length < present.length then
        let line := (present.drop kept.length).reverse
        line ++
          '\n' :: foldLine bytes spaces width fuel kept (widthOf bytes kept.reverse) (c :: rest)
      else present.reverse ++ '\n' :: foldLine bytes spaces width fuel [] 0 (c :: rest)

def fold : Work Nat := do
  let q ← Work.request
  let given := q.arguments.map fun t =>
    match t with
    | '-' :: c :: rest => if c.isDigit then "-w".toList ++ c :: rest else t
    | _ => t
  let a ← Passing.readArguments
    { letters := "bsw:"
      names := [⟨"bytes", "b", .nothing⟩, ⟨"spaces", "s", .nothing⟩, ⟨"width", "w", .something⟩] ++
        helpOptions } given
  let width ←
    match a.get? "w" with
    | none => pure 80
    | some t =>
      match Text.decimal? t with
      | none => Work.fail 1 ("invalid number of columns: ".toList ++ quoted t)
      | some 0 => Work.fail 1 ("invalid number of columns: ".toList ++ quoted t ++
          ": Numerical result out of range".toList)
      | some n => pure n
  mapSources a fun t => foldLine (a.has "b") (a.has "s") width (3 * t.length + 3) [] 0 t

/-! ### Tabs -/

structure Stops where
  listed : List Nat := []
  every : Option Nat := none
  /-- Counts from the last of the listed columns. -/
  relative : Bool := false

def Stops.next? (s : Stops) (column : Nat) : Option Nat :=
  match s.listed.find? (column < ·), s.every with
  | some stop, _ => some stop
  | none, some n =>
    let base := if s.relative then s.listed.getLastD 0 else 0
    some (base + ((column - base) / n + 1) * n)
  | none, none => none

def stopsOf (t : Text) : Work Stops := do
  let pieces := ((Text.split ',' t).flatMap (Text.split ' ')).filter fun p => !p.isEmpty
  go pieces { every := none }
where
  go : List Text → Stops → Work Stops
    | [], s =>
      match s.listed, s.every with
      | [n], none => pure { every := some n }
      | [], none => pure { every := some 8 }
      | _, _ => pure s
    | p :: rest, s => do
      let (mark, digits) : Option Char × Text := match p with
        | '/' :: digits => (some '/', digits)
        | '+' :: digits => (some '+', digits)
        | digits => (none, digits)
      match Text.decimal? digits with
      | none => Work.fail 1 ("tab size contains invalid character(s): ".toList ++ quoted digits)
      | some n =>
        if n = 0 then Work.fail 1 "tab size cannot be 0".toList
        else if mark.isSome then
          go rest { s with every := some n, relative := mark == some '+' }
        else if n ≤ s.listed.getLastD 0 then Work.fail 1 "tab sizes must be ascending".toList
        else go rest { s with listed := s.listed ++ [n] }

def expanded (s : Stops) (initial : Bool) : Nat → Bool → Text → Text
  | _, _, [] => []
  | column, isStart, c :: rest =>
    if c == '\n' then c :: expanded s initial 0 true rest
    else if c == '\t' && (isStart || !initial) then
      let stop := (s.next? column).getD (column + 1)
      List.replicate (stop - column) ' ' ++ expanded s initial stop isStart rest
    else
      let isStart := isStart && (c == ' ' || c == '\t')
      let column := if c == '\x08' then column - 1 else column + 1
      c :: expanded s initial column isStart rest

/-- A text with tabs in the place of blanks, given blanks that wait, the column where they start,
and the present column. -/
def unexpanded (s : Stops) (all : Bool) : Nat → Text → Nat → Bool → Text → Text
  | 0, _, _, _, rest => rest
  | _, blanks, _, _, [] => blanks.reverse
  | fuel + 1, blanks, column, converts, c :: rest =>
    if c == '\n' then blanks.reverse ++ c :: unexpanded s all fuel [] 0 true rest
    else if converts && (c == ' ' || c == '\t') then
      match s.next? column with
      | none => blanks.reverse ++ c :: unexpanded s all fuel [] (column + 1) false rest
      | some stop =>
        if c == '\t' then '\t' :: unexpanded s all fuel [] stop converts rest
        else if column + 1 = stop then
          if blanks.isEmpty && rest.head? != some ' ' && rest.head? != some '\t' then
            c :: unexpanded s all fuel [] stop converts rest
          else '\t' :: unexpanded s all fuel [] stop converts rest
        else unexpanded s all fuel (c :: blanks) (column + 1) converts rest
    else
      let column := if c == '\x08' then column - 1 else column + 1
      blanks.reverse ++ c :: unexpanded s all fuel [] column (converts && all) rest

def tabArguments (given : List Text) : List Text :=
  given.map fun t =>
    match t with
    | '-' :: c :: rest => if c.isDigit then "-t".toList ++ c :: rest else t
    | _ => t

def expand : Work Nat := do
  let q ← Work.request
  let a ← Passing.readArguments
    { letters := "it:"
      names := [⟨"initial", "i", .nothing⟩, ⟨"tabs", "t", .something⟩] ++ helpOptions }
    (tabArguments q.arguments)
  let s ← stopsOf ((a.get? "t").getD [])
  mapSources a (expanded s (a.has "i") 0 true)

def unexpand : Work Nat := do
  let q ← Work.request
  let a ← Passing.readArguments
    { letters := "at:"
      names := [⟨"all", "a", .nothing⟩, ⟨"first-only", "first", .nothing⟩,
        ⟨"tabs", "t", .something⟩] ++ helpOptions }
    (tabArguments q.arguments)
  let s ← stopsOf ((a.get? "t").getD [])
  let all := (a.has "a" || a.has "t") && !a.has "first"
  mapSources a fun t => unexpanded s all (t.length + 1) [] 0 true t

/-! ### Side by side -/

def delimiters : Text → List Text
  | [] => []
  | '\\' :: '0' :: rest => [] :: delimiters rest
  | '\\' :: 'n' :: rest => ['\n'] :: delimiters rest
  | '\\' :: 't' :: rest => ['\t'] :: delimiters rest
  | '\\' :: c :: rest => [c] :: delimiters rest
  | c :: rest => [c] :: delimiters rest

def delimiterAt (ds : List Text) (i : Nat) : Text :=
  if ds.isEmpty then [] else ds[i % ds.length]?.getD []

def pasted (ds : List Text) (parts : List Text) : Text :=
  (parts.zipIdx.map fun (p, i) => (if i = 0 then [] else delimiterAt ds (i - 1)) ++ p).flatten

def sideBySide (ds : List Text) (ending : Char) : Nat → List (List Text) → Text
  | 0, _ => []
  | fuel + 1, columns =>
    if columns.all List.isEmpty then []
    else
      pasted ds (columns.map fun c => c.headD []) ++
        ending :: sideBySide ds ending fuel (columns.map List.tail)

/-- The columns; those that are read from the input take its lines in turn. -/
def columnsOf (contents : List (Option Text)) (input : List Text) (ending : Char) :
    List (List Text) :=
  let count := (contents.filter Option.isNone).length
  let plain (t : Text) : List Text := (cut ending t).map fun l =>
    if l.getLast? == some ending then l.dropLast else l
  let dealt (k : Nat) : List Text :=
    (input.zipIdx.filter fun (_, i) => i % count = k).map Prod.fst
  (contents.foldl (fun (columns, k) c =>
    match c with
    | some t => (columns ++ [plain t], k)
    | none => (columns ++ [dealt k], k + 1)) (([] : List (List Text)), 0)).1

def readColumns : List Text → Work (Option (List (Option Text)))
  | [] => return some []
  | ['-'] :: rest => do
    return (← readColumns rest).map (none :: ·)
  | operand :: rest => do
    match ← readOr usual operand with
    | none => return none
    | some t => return (← readColumns rest).map (some t :: ·)

def paste : Work Nat := do
  let a ← Work.arguments
    { letters := "d:sz"
      names := [⟨"delimiters", "d", .something⟩, ⟨"serial", "s", .nothing⟩,
        ⟨"zero-terminated", "z", .nothing⟩] ++ helpOptions }
  let ds := delimiters ((a.get? "d").getD ['\t'])
  let ending := if a.has "z" then '\x00' else '\n'
  let plain (t : Text) : List Text := (cut ending t).map fun l =>
    if l.getLast? == some ending then l.dropLast else l
  if a.has "s" then
    Manage.forEach a.sources fun operand => do
      match ← readOr usual operand with
      | some t => do
        Work.say (pasted ds (plain t) ++ [ending])
        return true
      | none => return false
  else do
    let input ←
      if a.sources.contains ['-'] then do
        match ← Work.input with
        | .ok t => pure (plain t)
        | .error _ => pure []
      else pure []
    match ← readColumns a.sources with
    | none => return 1
    | some contents => do
      let columns := columnsOf contents input ending
      let longest := (columns.map List.length).foldl max 0
      Work.say (sideBySide ds ending (longest + 1) columns)
      return 0

/-! ### Into pieces -/

def chunks (n : Nat) : Nat → Text → List Text
  | 0, _ => []
  | _, [] => []
  | fuel + 1, t => t.take n :: chunks n fuel (t.drop n)

def lineChunks (n : Nat) : Nat → List Text → List Text
  | 0, _ => []
  | _, [] => []
  | fuel + 1, lines => (lines.take n).flatten :: lineChunks n fuel (lines.drop n)

def fitting (n : Nat) : Nat → Text → List Text → List Text
  | 0, present, _ => [present]
  | _, present, [] => if present.isEmpty then [] else [present]
  | fuel + 1, present, line :: rest =>
    if present.length + line.length ≤ n then fitting n fuel (present ++ line) rest
    else if !present.isEmpty then present :: fitting n fuel [] (line :: rest)
    else line.take n :: fitting n fuel [] (line.drop n :: rest)

def suffixDigits (base : Nat) : Nat → Nat → Text
  | 0, _ => []
  | width + 1, n =>
    let d := n % base
    let c := if base = 26 then Char.ofNat ('a'.toNat + d)
      else if d < 10 then Char.ofNat ('0'.toNat + d) else Char.ofNat ('a'.toNat + d - 10)
    c :: suffixDigits base width (n / base)

def equalChunks (count : Nat) (t : Text) : List Text :=
  let size := t.length / count
  let rest := t.length % count
  ((List.range count).foldl (fun (pieces, t) i =>
    let n := if i < rest then size + 1 else size
    (pieces ++ [t.take n], t.drop n)) (([] : List Text), t)).1

def equalLineChunks (count : Nat) (t : Text) : List Text :=
  let size := t.length / count
  let bounds := (List.range count).map fun i => if i + 1 = count then t.length else (i + 1) * size
  let lines := cut '\n' t
  let starts := (lines.foldl (fun (sum, starts) l => (sum + l.length, starts ++ [sum]))
    (0, ([] : List Nat))).2
  (bounds.zipIdx.map fun (bound, i) =>
    let low := if i = 0 then 0 else bounds[i - 1]?.getD 0
    ((lines.zip starts).filter fun (_, s) => low ≤ s && s < bound).flatMap Prod.fst)

def piecesOf (a : Arguments) (t : Text) : Work (List Text) := do
  let number (what : String) (text : Text) : Work Nat :=
    match Manage.size? text with
    | none => Work.fail 1 ("invalid number of ".toList ++ what.toList ++ ": ".toList ++ quoted text)
    | some 0 =>
      Work.fail 1 ("invalid number of ".toList ++ what.toList ++ ": ".toList ++ quoted text)
    | some n => pure n
  match a.lastOf ["b", "C", "l", "n"] with
  | some "b" => do
    let n ← number "bytes" ((a.get? "b").getD [])
    return chunks n (t.length + 1) t
  | some "C" => do
    let n ← number "bytes" ((a.get? "C").getD [])
    return fitting n (2 * t.length + 2) [] (cut '\n' t)
  | some "n" => do
    let text := (a.get? "n").getD []
    match Text.split '/' text with
    | [k] => do return equalChunks (← number "chunks" k) t
    | [['l'], k] => do return equalLineChunks (← number "chunks" k) t
    | [i, k] => do
      let count ← number "chunks" k
      let index ← number "chunks" i
      Work.say ((equalChunks count t)[index - 1]?.getD [])
      Work.exit 0
    | _ => Work.fail 1 ("invalid number of chunks: ".toList ++ quoted text)
  | _ => do
    let n ← number "lines" ((a.get? "l").getD "1000".toList)
    return lineChunks n (t.length + 1) (cut '\n' t)

def writePieces (name : Nat → Text) (tells : Bool) : Nat → List Text → Work Nat
  | _, [] => return 0
  | i, piece :: rest => do
    if tells then Work.say ("creating file ".toList ++ shellQuoted (name i) ++ ['\n'])
    match ← Work.change_ fun f => f.write (pathOf (name i)) piece.toBytes with
    | .ok () => writePieces name tells (i + 1) rest
    | .error cause => Work.fail 1 (nameOf (name i) ++ ": ".toList ++ reason cause)

def split : Work Nat := do
  let q ← Work.request
  let given := q.arguments.map fun t =>
    match t with
    | '-' :: c :: rest => if c.isDigit then "-l".toList ++ c :: rest else t
    | _ => t
  let a ← Passing.readArguments
    { letters := "a:b:C:del:n:t:ux"
      names := [⟨"suffix-length", "a", .something⟩, ⟨"additional-suffix", "add", .something⟩,
        ⟨"bytes", "b", .something⟩, ⟨"line-bytes", "C", .something⟩,
        ⟨"numeric-suffixes", "d", .maybe⟩, ⟨"hex-suffixes", "x", .maybe⟩,
        ⟨"elide-empty-files", "e", .nothing⟩, ⟨"lines", "l", .something⟩,
        ⟨"number", "n", .something⟩, ⟨"separator", "t", .something⟩, ⟨"unbuffered", "u", .nothing⟩,
        ⟨"verbose", "verbose", .nothing⟩] ++ helpOptions } given
  if let some extra := a.operands[2]? then
    Work.misuse 1 ("extra operand ".toList ++ quoted extra)
  let source := a.operands.headD ['-']
  let start := a.operands[1]?.getD ['x']
  match ← Work.readSource source with
  | .error cause =>
    Work.fail 1 ("cannot open ".toList ++ shellQuoted source ++ " for reading: ".toList ++
      reason cause)
  | .ok t => do
    let pieces ← piecesOf a t
    let pieces := if a.has "e" then pieces.filter fun p => !p.isEmpty else pieces
    let base := if a.has "x" then 16 else if a.has "d" then 10 else 26
    let first := ((a.get? "d").bind Text.decimal?).getD 0
    let width := ((a.get? "a").bind Text.decimal?).getD
      (if pieces.length ≤ base * base then 2
      else if pieces.length ≤ base * base * base then 3
      else 4)
    if pieces.length + first > (List.range width).foldl (fun n _ => n * base) 1 then
      Work.fail 1 "output file suffixes exhausted".toList
    let name (i : Nat) : Text :=
      start ++ (suffixDigits base width (i + first)).reverse ++ (a.get? "add").getD []
    writePieces name (a.has "verbose") 0 pieces

end Lines

end Tool

end Proctor
