import Proctor.Shell.Pattern
import Proctor.Tool.Canonical
import Proctor.Tool.Manage

/-!
# Tools that show what files there are

Names are listed in order, one on a line unless columns are asked for. Of a file, its mode, size,
owner and time can be told.
-/

set_option autoImplicit false

namespace Proctor

namespace Tool

open Shell

namespace Listing

open Manage (cannot inside)
open Plain (helpOptions joined)

def kindLetter (n : Node) : Char :=
  match n.body with
  | .directory .. => 'd'
  | .link _ => 'l'
  | .pipe => 'p'
  | .device _ => 'c'
  | .descriptor _ => 'l'
  | _ => '-'

def modeLetters (n : Node) : Text := kindLetter n :: Permission.letters n.mode

def blocks (n : Node) : Nat :=
  match n.body with
  | .link _ => 0
  | .device _ => 0
  | .descriptor _ => 0
  | .pipe => 0
  | _ => (n.size + 4095) / 4096 * 4

/-- The number of names of a node; a directory has those of the directories in it too. -/
def linkCount (f : Files) (number : Nat) : Nat :=
  let n := f.get number
  if n.isDirectory then 2 + (n.entries.filter fun e => (f.get e.2).isDirectory).length
  else f.countNames number

/-! ### Lists of names -/

structure Entry where
  name : Text
  number : Nat
  node : Node
  /-- What a link leads to, if it leads anywhere. -/
  leads : Option Node := none

inductive Order where
  | name
  | size
  | time
  | none
  | extension
  deriving DecidableEq, Repr

inductive Shape where
  | lines
  | long
  | commas
  | columns
  | rows
  deriving DecidableEq, Repr

structure Style where
  all : Bool := false
  almost : Bool := false
  backups : Bool := true
  hidden : List Text := []
  itself : Bool := false
  recursive : Bool := false
  order : Order := .name
  reversed : Bool := false
  shape : Shape := .lines
  slashes : Bool := false
  marks : Bool := false
  numbers : Bool := false
  sizes : Bool := false
  follows : Bool := false
  followsOperands : Bool := false
  double : Bool := false
  escaped : Bool := false
  questions : Bool := false
  owner : Bool := true
  group : Bool := true
  numeric : Bool := false
  human : Bool := false
  width : Nat := 80

def isBefore (a b : Text) : Bool := !decide (b < a)

def extension (t : Text) : Text :=
  match t.reverse.dropWhile (· ≠ '.') with
  | [] => []
  | _ => (t.reverse.takeWhile (· ≠ '.')).reverse

def ordered (s : Style) (entries : List Entry) : List Entry :=
  let byName (a b : Entry) : Bool := isBefore a.name b.name
  let sorted := match s.order with
    | .none => entries
    | .name => entries.mergeSort byName
    | .size => entries.mergeSort fun a b =>
        if a.node.size = b.node.size then byName a b else b.node.size < a.node.size
    | .time => entries.mergeSort fun a b =>
        if a.node.changed = b.node.changed then byName a b else b.node.changed < a.node.changed
    | .extension => entries.mergeSort fun a b =>
        if extension a.name = extension b.name then byName a b
        else isBefore (extension a.name) (extension b.name)
  if s.reversed then sorted.reverse else sorted

def mark (s : Style) (e : Entry) : Text :=
  if e.node.isDirectory then (if s.slashes || s.marks then ['/'] else [])
  else if !s.marks then []
  else
    match e.node.body with
    | .link _ => if s.shape = .long then [] else ['@']
    | .pipe => ['|']
    | _ => if e.node.isRegular && Nat.land e.node.mode 0o111 ≠ 0 then ['*'] else []

def shownName (s : Style) (t : Text) : Text :=
  let escape (extra : List Char) : Text := t.flatMap fun c =>
    if extra.contains c || c == '\\' then ['\\', c]
    else if Quoting.isShown c then [c] else Quoting.escape c
  if s.double then '"' :: escape ['"'] ++ ['"']
  else if s.escaped then escape [' ']
  else if s.questions then t.map fun c => if Quoting.isShown c then c else '?'
  else t

def left (width : Nat) (t : Text) : Text := t ++ List.replicate (width - t.length) ' '
def right (width : Nat) (t : Text) : Text := List.replicate (width - t.length) ' ' ++ t

def widest (ts : List Text) : Nat := (ts.map List.length).foldl max 0

def humanSize (n : Nat) : Text :=
  go 6 n n ["", "K", "M", "G", "T", "P"]
where
  go : Nat → Nat → Nat → List String → Text
    | 0, n, _, _ => Text.ofNat n
    | _, n, _, [] => Text.ofNat n
    | fuel + 1, n, exact, unit :: units =>
      if n < 1024 then
        if unit.isEmpty || 10 ≤ n then Text.ofNat n ++ unit.toList
        else
          let tenths := (exact * 10 + 1023) / 1024
          if tenths < 100 then
            Text.ofNat (tenths / 10) ++ '.' :: Text.ofNat (tenths % 10) ++ unit.toList
          else Text.ofNat ((tenths + 9) / 10) ++ unit.toList
      else go fuel ((n + 1023) / 1024) n units

def sizeText (s : Style) (n : Nat) : Text := if s.human then humanSize n else Text.ofNat n

def fronts (s : Style) (entries : List Entry) : List Text :=
  let numbers := entries.map fun e => if s.numbers then Text.ofNat e.number else []
  let sizes := entries.map fun e =>
    if s.sizes then
      (if s.human then humanSize (blocks e.node * 1024) else Text.ofNat (blocks e.node))
    else []
  let numberWidth := widest numbers
  let sizeWidth := widest sizes
  numbers.zipWith (fun n z =>
    (if s.numbers then right numberWidth n ++ [' '] else []) ++
    (if s.sizes then right sizeWidth z ++ [' '] else [])) sizes

def gap : Nat → Nat → Nat → Text
  | 0, _, _ => []
  | fuel + 1, start, stop =>
    if stop ≤ start then []
    else if (start + 1) / 8 < stop / 8 then '\t' :: gap fuel (start + 8 - start % 8) stop
    else ' ' :: gap fuel (start + 1) stop

def columnWidths (s : Style) (lengths : List Nat) (count : Nat) : Option (List Nat) :=
  let total := lengths.length
  let height := (total + count - 1) / count
  let column (i : Nat) : Nat := if s.shape = .rows then i % count else i / height
  let widths := (List.range count).map fun c =>
    (lengths.zipIdx.filterMap fun (n, i) =>
      if column i = c then some (n + (if c + 1 = count then 0 else 2)) else none).foldl max 3
  if widths.foldl (· + ·) 0 < s.width then some widths else none

def inColumns (s : Style) (names : List Text) : Text :=
  let lengths := names.map List.length
  let most := max 1 (min names.length (s.width / 3))
  let widths := ((List.range most).reverse.findSome? fun i => columnWidths s lengths (i + 1)).getD
    [0]
  let count := widths.length
  let height := (names.length + count - 1) / count
  let starts := widths.foldl
    (fun (sum, starts) w => (sum + w, starts ++ [sum])) (0, ([] : List Nat))
  let line (r : Nat) : List Text :=
    (List.range count).filterMap fun c =>
      names[if s.shape = .rows then r * count + c else c * height + r]?
  let render (parts : List Text) : Text :=
    ((parts.zip starts.2).foldl (fun (column, text) (part, start) =>
      (start + part.length, text ++ gap (start + 1) column start ++ part)) (0, ([] : Text))).2
  if names.isEmpty then [] else unlines ((List.range height).map fun r => render (line r))

def timeText (now changed : Nat) : Text :=
  let isRecent := changed ≤ now && now - changed < 15778476 * Calendar.second
  Calendar.shown changed (if isRecent then "%b %e %H:%M" else "%b %e  %Y").toList

def inLong (s : Style) (f : Files) (entries : List Entry) : Text :=
  let counts := entries.map fun e => Text.ofNat (linkCount f e.number)
  let sizes := entries.map fun e => sizeText s e.node.size
  let countWidth := widest counts
  let sizeWidth := widest sizes
  let who : Text := if s.numeric then ['0'] else "root".toList
  let line (e : Entry) (front count size : Text) : Text :=
    let destination : Text :=
      match e.node.body with
      | .link target => " -> ".toList ++ shownName s target.bytes.toText ++
          ((e.leads.map fun n => mark { s with shape := .lines } { e with node := n }).getD [])
      | _ => []
    front ++ modeLetters e.node ++ [' '] ++ right countWidth count ++ [' '] ++
      (if s.owner then who ++ [' '] else []) ++ (if s.group then who ++ [' '] else []) ++
      right sizeWidth size ++ [' '] ++ timeText f.now e.node.changed ++ [' '] ++
      shownName s e.name ++ mark s e ++ destination
  let columns := (fronts s entries).zip (counts.zip sizes)
  unlines ((entries.zip columns).map fun (e, front, count, size) =>
    line e front count size)

def inCommas (s : Style) (names : List Text) : Text :=
  match names with
  | [] => []
  | first :: rest =>
    let (text, _) := rest.foldl (fun (text, column) name =>
      if column + name.length + 2 < s.width then
        (text ++ [',', ' '] ++ name, column + 2 + name.length)
      else (text ++ [',', '\n'] ++ name, name.length)) (first, first.length)
    text ++ ['\n']

def render (s : Style) (f : Files) (entries : List Entry) : Text :=
  let names := (entries.zip (fronts s entries)).map fun (e, front) =>
    front ++ shownName s e.name ++ mark s e
  match s.shape with
  | .lines => unlines names
  | .long => inLong s f entries
  | .commas => inCommas s names
  | .columns => inColumns s names
  | .rows => inColumns s names

def entryOf (s : Style) (f : Files) (name : Text) (follows : Bool) (path : Text) :
    Except Cause Entry := do
  let itself ← f.number false (pathOf path)
  let leads := (f.node (pathOf path)).toOption
  let number := if follows || s.follows then ((f.number true (pathOf path)).toOption).getD itself
    else itself
  return { name, number, node := f.get number, leads }

def isListed (s : Style) (name : Text) : Bool :=
  (s.all || s.almost || name.head? != some '.') &&
  (s.backups || name.getLast? != some '~') &&
  !(s.hidden.any fun p => Matcher.fits (Matcher.ofText p) name)

def entriesOf (s : Style) (f : Files) (path : Text) (number : Nat) : List Entry :=
  let n := f.get number
  let dots : List Entry :=
    if s.all then
      [{ name := ['.'], number, node := n },
       { name := ['.', '.'], number := f.above number, node := f.get (f.above number) }]
    else []
  let inner := n.entries.filterMap fun e =>
    let name := e.1.toText
    if isListed s name then
      some (((entryOf s f name false (inside path name)).toOption).getD
        { name, number := e.2, node := f.get e.2 })
    else none
  dots ++ inner

def directoryText (s : Style) (f : Files) (path : Text) (number : Nat) : Text × List Text :=
  let entries := ordered s (entriesOf s f path number)
  let total := (entries.map fun e => blocks e.node).foldl (· + ·) 0
  let summary : Text :=
    if s.shape = .long || s.sizes then
      "total ".toList ++ (if s.human then humanSize (total * 1024) else Text.ofNat total) ++ ['\n']
    else []
  let below := entries.filterMap fun e =>
    if e.node.isDirectory && e.name ≠ ['.'] && e.name ≠ ['.', '.'] then some (inside path e.name)
    else none
  (summary ++ render s f entries, below)

def listDirectories (s : Style) (headed : Bool) : Nat → Bool → Bool → Nat → List Text → Work Nat
  | 0, _, _, status, _ => return status
  | _, _, _, status, [] => return status
  | fuel + 1, isFirst, isOperand, status, path :: rest => do
    let f ← Work.files
    match f.number true (pathOf path) with
    | .error cause => do
      cannot "cannot open directory" path cause
      listDirectories s headed fuel isFirst isOperand (max status (if isOperand then 2 else 1)) rest
    | .ok number =>
      if !(f.get number).permits Mode.read then do
        cannot "cannot open directory" path .accessDenied
        listDirectories s headed fuel isFirst isOperand
          (max status (if isOperand then 2 else 1)) rest
      else do
        let (text, below) := directoryText s f path number
        let heading : Text :=
          if headed then
            (if isFirst then [] else ['\n']) ++ shownName s path ++ ":\n".toList
          else []
        Work.say (heading ++ text)
        let status ←
          if s.recursive then listDirectories s headed fuel false false status below
          else pure status
        listDirectories s headed fuel false isOperand status rest

def order? (t : Text) : Option Order :=
  match String.ofList t with
  | "size" => some .size
  | "time" => some .time
  | "none" => some .none
  | "extension" => some .extension
  | "name" => some .name
  | "version" => some .name
  | _ => none

def styleOf (a : Arguments) : Style :=
  let order : Order :=
    match a.lastOf ["S", "t", "U", "X", "v", "f", "sort"] with
    | some "S" => .size
    | some "t" => .time
    | some "U" => .none
    | some "f" => .none
    | some "X" => .extension
    | some "sort" => ((a.get? "sort").bind order?).getD .name
    | _ => .name
  let shape : Shape :=
    match a.lastOf ["l", "n", "g", "o", "m", "C", "x", "1"] with
    | some "m" => .commas
    | some "C" => .columns
    | some "x" => .rows
    | some "1" => if ["l", "n", "g", "o"].any a.has then .long else .lines
    | some _ => .long
    | none => .lines
  { all := a.lastOf ["a", "A", "f"] == some "a" || a.lastOf ["a", "A", "f"] == some "f"
    almost := a.has "A", backups := !a.has "B"
    hidden := a.getAll "I" ++ (if a.has "a" || a.has "A" then [] else a.getAll "hide")
    itself := a.has "d", recursive := a.has "R", order, reversed := a.has "r", shape
    slashes := a.has "p", marks := a.has "F", numbers := a.has "i", sizes := a.has "s"
    follows := a.has "L", followsOperands := a.has "H"
    double := a.lastOf ["Q", "b", "N"] == some "Q"
    escaped := a.lastOf ["Q", "b", "N"] == some "b", questions := a.has "q"
    owner := !a.has "g", group := !a.has "o" && !a.has "G", numeric := a.has "n"
    human := a.has "h", width := ((a.get? "w").bind Text.decimal?).getD 80 }

def present (s : Style) : List Text → Nat → Work (List Entry × Nat)
  | [], status => return ([], status)
  | path :: rest, status => do
    let f ← Work.files
    let usual := s.shape ≠ .long && !s.itself && !s.marks
    let toDirectory := (usual || s.followsOperands) && f.isDirectory (pathOf path)
    match entryOf s f path toDirectory path with
    | .error cause => do
      cannot "cannot access" path cause
      present s rest 2
    | .ok e => do
      let (others, status) ← present s rest status
      return (e :: others, status)

def ls : Work Nat := do
  let a ← Work.arguments
    { letters := "abcdfghiklmnopqrstuvw:xABCDFGHI:LNQRST:UXZ1"
      names := [⟨"all", "a", .nothing⟩, ⟨"almost-all", "A", .nothing⟩, ⟨"escape", "b", .nothing⟩,
        ⟨"ignore-backups", "B", .nothing⟩, ⟨"color", "color", .maybe⟩, ⟨"directory", "d", .nothing⟩,
        ⟨"classify", "F", .maybe⟩, ⟨"format", "format", .something⟩, ⟨"no-group", "G", .nothing⟩,
        ⟨"human-readable", "h", .nothing⟩, ⟨"si", "h", .nothing⟩, ⟨"dereference", "L", .nothing⟩,
        ⟨"dereference-command-line", "H", .nothing⟩, ⟨"hide", "hide", .something⟩,
        ⟨"ignore", "I", .something⟩, ⟨"inode", "i", .nothing⟩,
        ⟨"numeric-uid-gid", "n", .nothing⟩, ⟨"literal", "N", .nothing⟩,
        ⟨"hide-control-chars", "q", .nothing⟩, ⟨"quote-name", "Q", .nothing⟩,
        ⟨"reverse", "r", .nothing⟩, ⟨"recursive", "R", .nothing⟩, ⟨"size", "s", .nothing⟩,
        ⟨"sort", "sort", .something⟩, ⟨"time", "time", .something⟩, ⟨"width", "w", .something⟩,
        ⟨"full-time", "l", .nothing⟩, ⟨"group-directories-first", "gdf", .nothing⟩,
        ⟨"file-type", "p", .nothing⟩, ⟨"indicator-style", "is", .something⟩,
        ⟨"quoting-style", "qs", .something⟩, ⟨"time-style", "ts", .something⟩] ++ helpOptions } 2
  let s := styleOf a
  let operands := if a.operands.isEmpty then [['.']] else a.operands
  let (entries, status) ← present s operands 0
  let f ← Work.files
  let isOpened (e : Entry) : Bool := e.node.isDirectory && !s.itself
  let files := ordered s (entries.filter fun e => !isOpened e)
  let directories := (ordered s (entries.filter isOpened)).map Entry.name
  Work.say (render s f files)
  listDirectories s (s.recursive || 1 < operands.length) (f.nodes.size * 2 + operands.length + 2)
    files.isEmpty true status directories

/-! ### About one file -/

def kindName (n : Node) : String :=
  match n.body with
  | .directory .. => "directory"
  | .link _ => "symbolic link"
  | .pipe => "fifo"
  | .device _ => "character special file"
  | .descriptor _ => "symbolic link"
  | .file [] => "regular empty file"
  | _ => "regular file"

def kindNumber (n : Node) : Nat :=
  match n.body with
  | .directory .. => 0o040000
  | .link _ => 0o120000
  | .pipe => 0o010000
  | .device _ => 0o020000
  | .descriptor _ => 0o120000
  | _ => 0o100000

def field (f : Files) (path : Text) (number : Nat) (c : Char) : Text :=
  let n := f.get number
  let seconds := Text.ofNat (n.changed / Calendar.second)
  let date := Calendar.shown n.changed "%Y-%m-%d %H:%M:%S.%N %z".toList
  match c with
  | 'n' => path
  | 'N' =>
    match n.body with
    | .link target => shellQuoted path ++ " -> ".toList ++ shellQuoted target.bytes.toText
    | _ => shellQuoted path
  | 's' => Text.ofNat n.size
  | 'a' => Nat.toDigits 8 n.mode
  | 'A' => modeLetters n
  | 'f' => Nat.toDigits 16 (kindNumber n + n.mode)
  | 'F' => (kindName n).toList
  | 'h' => Text.ofNat (linkCount f number)
  | 'i' => Text.ofNat number
  | 'u' => ['0']
  | 'g' => ['0']
  | 'U' => "root".toList
  | 'G' => "root".toList
  | 'b' => Text.ofNat (blocks n * 2)
  | 'B' => "512".toList
  | 'o' => "4096".toList
  | 'd' => ['1']
  | 'D' => ['1']
  | 't' => ['0']
  | 'T' => ['0']
  | 'm' => ['/']
  | 'w' => ['-']
  | 'W' => ['0']
  | 'x' => date
  | 'y' => date
  | 'z' => date
  | 'X' => seconds
  | 'Y' => seconds
  | 'Z' => seconds
  | _ => ['?']

def filled (f : Files) (path : Text) (number : Nat) (escapes : Bool) : Nat → Text → Text
  | 0, _ => []
  | _, [] => []
  | fuel + 1, '%' :: rest =>
    let flags := rest.takeWhile fun c => "-0+ #'".toList.contains c
    let after := rest.drop flags.length
    let digits := after.takeWhile Char.isDigit
    match after.drop digits.length with
    | [] => '%' :: rest
    | '%' :: after => '%' :: filled f path number escapes fuel after
    | c :: after =>
      let width := (Text.decimal? digits).getD 0
      let text := field f path number c
      let text := if flags.contains '#' && c == 'a' then '0' :: text else text
      let text :=
        if flags.contains '-' then left width text
        else if flags.contains '0' then Calendar.padded '0' width text
        else right width text
      text ++ filled f path number escapes fuel after
  | fuel + 1, '\\' :: c :: rest =>
    if escapes then
      match Escape.letter? c with
      | some d => d :: filled f path number escapes fuel rest
      | none => '\\' :: filled f path number escapes fuel (c :: rest)
    else '\\' :: filled f path number escapes fuel (c :: rest)
  | fuel + 1, c :: rest => c :: filled f path number escapes fuel rest

def statFormat : Text :=
  ("  File: %N\n  Size: %-10s\tBlocks: %-10b IO Block: %-6o %F\n" ++
  "Device: 0,%d\tInode: %-11i Links: %h\n" ++
  "Access: (%04a/%10A)  Uid: (%5u/%8U)   Gid: (%5g/%8G)\n" ++
  "Access: %x\nModify: %y\nChange: %z\n" ++
  " Birth: %w").toList

def stat : Work Nat := do
  let a ← Work.arguments
    { letters := "c:fLt"
      names := [⟨"format", "c", .something⟩, ⟨"printf", "printf", .something⟩,
        ⟨"dereference", "L", .nothing⟩, ⟨"file-system", "f", .nothing⟩, ⟨"terse", "t", .nothing⟩,
        ⟨"cached", "cached", .something⟩] ++ helpOptions }
  if a.operands.isEmpty then Work.misuse 1 "missing operand".toList
  let (format, escapes, ends) : Text × Bool × Bool :=
    match a.lastOf ["c", "printf"] with
    | some "c" => ((a.get? "c").getD [], false, true)
    | some _ => ((a.get? "printf").getD [], true, false)
    | none =>
      if a.has "t" then ("%n %s %b %f %u %g %D %i %h %t %T %X %Y %Z %W %o".toList, false, true)
      else (statFormat, false, true)
  Manage.forEach a.operands fun path => do
    let f ← Work.files
    match f.number (a.has "L") (pathOf path) with
    | .ok number => do
      Work.say (filled f path number escapes (format.length + 1) format ++
        (if ends then ['\n'] else []))
      return true
    | .error cause => do
      Work.complain ((if a.has "f" then "cannot read file system information for "
        else "cannot statx ").toList ++ shellQuoted path ++ ": ".toList ++ reason cause)
      return false

/-! ### Where links lead -/

def readlink : Work Nat := do
  let a ← Work.arguments
    { letters := "efmnqsvz"
      names := [⟨"canonicalize", "f", .nothing⟩, ⟨"canonicalize-existing", "e", .nothing⟩,
        ⟨"canonicalize-missing", "m", .nothing⟩, ⟨"no-newline", "n", .nothing⟩,
        ⟨"quiet", "q", .nothing⟩, ⟨"silent", "s", .nothing⟩, ⟨"verbose", "v", .nothing⟩,
        ⟨"zero", "z", .nothing⟩] ++ helpOptions }
  if a.operands.isEmpty then Work.misuse 1 "missing operand".toList
  let many := 1 < a.operands.length
  if many && a.has "n" then Work.complain "ignoring --no-newline with multiple arguments".toList
  let stop : Text := if a.has "n" && !many then [] else if a.has "z" then ['\x00'] else ['\n']
  let presence : Option Presence :=
    (a.lastOf ["e", "f", "m"]).map fun key =>
      if key = "e" then .all else if key = "f" then .allButLast else .nothing
  let isLoud := a.lastOf ["v", "q", "s"] == some "v"
  Manage.forEach a.operands fun path => do
    let f ← Work.files
    let answer : Except Cause Text :=
      match presence with
      | some presence => (canonical f presence path).map Canonical.render
      | none => do
        let n ← f.nodeItself (pathOf path)
        match n.body with
        | .link target => return target.bytes.toText
        | _ => .error .invalidArgument
    match answer with
    | .ok text => do
      Work.say (text ++ stop)
      return true
    | .error cause => do
      if isLoud then Work.complain (nameOf path ++ ": ".toList ++ reason cause)
      return false

def realpath : Work Nat := do
  let a ← Work.arguments
    { letters := "eLmPqsz"
      names := [⟨"canonicalize-existing", "e", .nothing⟩, ⟨"canonicalize-missing", "m", .nothing⟩,
        ⟨"logical", "L", .nothing⟩, ⟨"physical", "P", .nothing⟩, ⟨"quiet", "q", .nothing⟩,
        ⟨"relative-to", "to", .something⟩, ⟨"relative-base", "base", .something⟩,
        ⟨"strip", "s", .nothing⟩, ⟨"no-symlinks", "s", .nothing⟩, ⟨"zero", "z", .nothing⟩] ++
        helpOptions }
  if a.operands.isEmpty then Work.misuse 1 "missing operand".toList
  let presence : Presence :=
    match a.lastOf ["e", "m"] with
    | some "e" => .all
    | some _ => .nothing
    | none => .allButLast
  let stop : Text := if a.has "z" then ['\x00'] else ['\n']
  Manage.forEach a.operands fun path => do
    let f ← Work.files
    let find (t : Text) : Except Cause (List Text) :=
      if a.has "s" then .ok (withoutDots f t) else canonical f presence t
    match find path with
    | .ok names => do
      let start := (a.get? "to").bind fun t => (find t).toOption
      let base := (a.get? "base").bind fun t => (find t).toOption
      let text : Text :=
        match start, base with
        | some start, _ => wayTo start names
        | none, some base =>
          if base.isPrefixOf names then wayTo base names else Canonical.render names
        | none, none => Canonical.render names
      Work.say (text ++ stop)
      return true
    | .error cause => do
      if !a.has "q" then Work.complain (nameOf path ++ ": ".toList ++ reason cause)
      return false

end Listing

end Tool

end Proctor
