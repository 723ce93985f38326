import Proctor.Tool.EditScript
import Proctor.Tool.Passing

/-!
# The stream editor

Line after line is taken into the pattern space, the steps of the script are done for it, and what
is left of it is printed. The next line is read before it is needed only where the script asks for
the last line.
-/

set_option autoImplicit false

namespace Proctor

namespace Tool

open Shell

namespace Editing

structure Space where
  text : Text := []
  hasEnd : Bool := true

/-- Lines of files in turn, of which some have been read ahead. -/
structure Source where
  pending : List Text
  name : Text := ['-']
  descriptor : Option Nat := none
  ahead : Text := []
  isFaulty : Bool := false

inductive Range where
  | outside
  | inside (stop : Nat)
  | passed

inductive Later where
  | text (t : Text)
  | file (path : Text)

structure Settings where
  quiet : Bool := false
  separate : Bool := false
  /-- Files are replaced by what is printed, and kept under another name. -/
  inPlace : Option Text := none
  ending : Char := '\n'
  width : Nat := 70

inductive Outlet where
  | output
  | errors
  | file (number : Nat)

structure State where
  space : Space := {}
  held : Space := {}
  line : Nat := 0
  source : Source
  ranges : Array Range
  replaced : Bool := false
  later : List Later := []
  last : Option (Regex × Regex.Manner) := none
  outlets : List (Text × Outlet) := []
  /-- Outlets whose last line has no end. -/
  unfinished : List Text := []
  /-- What is left of files that are read line by line. -/
  readers : List (Text × List Text) := []
  /-- What takes the place of the file at hand, last part first. -/
  copy : Option (List Text) := none

inductive Flow where
  | go (index : Nat)
  /-- The end of a cycle, with or without printing. -/
  | done (prints : Bool)
  /-- A new cycle without a new line. -/
  | again
  | stop (prints : Bool) (status : Nat)

/-! ### Printing -/

def mainOutlet : Text := []

def writeOutlet (st : State) (path t : Text) : Work State := do
  if path.isEmpty then
    match st.copy with
    | some parts => return { st with copy := some (t :: parts) }
    | none => do
      Work.say t
      return st
  else
    match (st.outlets.find? fun o => o.1 = path).map Prod.snd with
    | some (.file number) => do
      Work.alter fun f => f.writeAt number (f.get number).size t.toBytes
      return st
    | some .errors => do
      let _ ← Work.writeTo 2 t
      return st
    | _ => do
      Work.say t
      return st

def outletKey (st : State) (path : Text) : Text :=
  match (st.outlets.find? fun o => o.1 = path).map Prod.snd with
  | some .output => mainOutlet
  | _ => path

def emit (st : State) (path : Text) (t : Text) (ending : Char) (hasEnd : Bool) : Work State := do
  let key := outletKey st path
  let before : Text := if st.unfinished.contains key then [ending] else []
  let st ← writeOutlet st path (before ++ t ++ if hasEnd then [ending] else [])
  let others := st.unfinished.filter (· ≠ key)
  return { st with unfinished := if hasEnd then others else key :: others }

def emitText (st : State) (ending : Char) (t : Text) : Work State := do
  if t.isEmpty then return st
  else do
    let before : Text := if st.unfinished.contains mainOutlet then [ending] else []
    let st ← writeOutlet st mainOutlet (before ++ t)
    return { st with unfinished := st.unfinished.filter (· ≠ mainOutlet) }

def endLine (st : State) (ending : Char) : Work State := do
  if !st.unfinished.contains mainOutlet then return st
  else
    let st ← writeOutlet st mainOutlet [ending]
    return { st with unfinished := st.unfinished.filter (· ≠ mainOutlet) }

def emitLater (s : Settings) : State → List Later → Work State
  | st, [] => return { st with later := [] }
  | st, .text t :: rest => do
    let st ← endLine st s.ending
    emitLater s (← emitText st s.ending t) rest
  | st, .file path :: rest => do
    let st ← endLine st s.ending
    let content ← if path = "/dev/stdin".toList then Work.input else Work.readFile path
    match content with
    | .ok t => do emitLater s (← emitText st s.ending t) rest
    | .error _ => emitLater s st rest

/-! ### Reading -/

def finishCopy (s : Settings) (st : State) : Work State :=
  match s.inPlace, st.copy with
  | some backup, some parts => do
    let path := st.source.name
    let content : Text := parts.reverse.flatten
    let f ← Work.files
    let mode := ((f.node (pathOf path)).toOption.map Node.mode).getD 0
    if !backup.isEmpty then
      let kept : Text :=
        if backup.contains '*' then
          backup.flatMap fun c => if c == '*' then Plain.lastPart path else [c]
        else Plain.lastPart path ++ backup
      let kept := if kept.contains '/' then kept
        else path.take (path.length - (Plain.lastPart path).length) ++ kept
      let _ ← Work.change_ fun f => f.rename (pathOf path) (pathOf kept)
    else
      let _ ← Work.change_ fun f => f.unlink (pathOf path)
    let _ ← Work.change fun f => do
      let (number, f) ← f.openForWriting (pathOf path) { truncates := true }
      let f := f.writeAt number 0 content.toBytes
      return ((), f.setMode number mode)
    return { st with copy := none, unfinished := st.unfinished.filter (· ≠ mainOutlet) }
  | _, _ => pure st

def closeCurrent (s : Settings) (st : State) : Work State := do
  match st.source.descriptor with
  | none => return st
  | some d => do
    if st.source.name ≠ ['-'] then Work.close d
    let st ← finishCopy s st
    return { st with source := { st.source with descriptor := none, ahead := [] } }

def openNext (s : Settings) (st : State) (operand : Text) : Work State := do
  let st := { st with source := { st.source with name := operand, ahead := [] } }
  if operand = ['-'] && s.inPlace.isNone then
    return { st with source := { st.source with descriptor := some 0 } }
  else
    match ← Work.ask (.open_ operand) with
    | .error cause => do
      Work.mutter ("can't read ".toList ++ operand ++ ": ".toList ++ reason cause)
      return { st with source := { st.source with isFaulty := true } }
    | .ok d => do
      if s.inPlace.isSome then do
        let f ← Work.files
        if !((f.node (pathOf operand)).toOption.map Node.isRegular).getD false then do
          Work.mutter ("couldn't edit ".toList ++ operand ++ ": not a regular file".toList)
          Work.exit 4
        else
          return { st with source := { st.source with descriptor := some d }, copy := some [] }
      else return { st with source := { st.source with descriptor := some d } }

def fill (st : State) : Work (State × Bool) := do
  if !st.source.ahead.isEmpty then return (st, true)
  else
    match st.source.descriptor with
    | none => return (st, false)
    | some d => do
      match ← Work.readPart d with
      | .ok t => return ({ st with source := { st.source with ahead := t } }, !t.isEmpty)
      | .error cause => do
        let name : Text := st.source.name
        Work.mutter ("read error on ".toList ++ name ++ ": ".toList ++ reason cause)
        Work.exit 4

def advance (s : Settings) : Nat → State → Work (State × Bool)
  | 0, st => return (st, false)
  | fuel + 1, st => do
    let (st, isReady) ← fill st
    if isReady then return (st, true)
    else
      let st ← closeCurrent s st
      match st.source.pending with
      | [] => return (st, false)
      | operand :: pending => do
        let st ← openNext s { st with source := { st.source with pending } } operand
        let st := if s.separate then
            { st with line := 0, held := {}, ranges := st.ranges.map fun _ => .outside }
          else st
        advance s fuel st

def isLast (s : Settings) (st : State) : Work (State × Bool) := do
  let (st, isReady) ← fill st
  if isReady then return (st, false)
  else if s.separate then return (st, true)
  else
    let (st, isReady) ← advance s (st.source.pending.length + 1) st
    return (st, !isReady)

def isOver (s : Settings) (st : State) : Work (State × Bool) := do
  if s.separate then
    let (st, isReady) ← fill st
    return (st, !isReady && st.source.pending.isEmpty)
  else isLast s st

def restOfInput (ending : Char) : Nat → State → List Text → Work (State × Space)
  | 0, st, parts => return (st, { text := parts.reverse.flatten, hasEnd := false })
  | fuel + 1, st, parts => do
    let (st, isReady) ← fill st
    if !isReady then return (st, { text := parts.reverse.flatten, hasEnd := false })
    else
      let ahead := st.source.ahead
      let part := ahead.takeWhile (· ≠ ending)
      match ahead.drop part.length with
      | [] => do
        let st := { st with source := { st.source with ahead := [] } }
        restOfInput ending fuel st (part :: parts)
      | _ :: rest =>
        return ({ st with source := { st.source with ahead := rest } },
          { text := (part :: parts).reverse.flatten })

def nextLine (s : Settings) (st : State) : Work (State × Option Space) := do
  let st ← emitLater s st st.later
  let (st, isReady) ← advance s (st.source.pending.length + 1) st
  if !isReady then return (st, none)
  else
    let (st, space) ← restOfInput s.ending Work.readLimit st []
    return ({ st with line := st.line + 1, replaced := false }, some space)

/-! ### Addresses -/

def find (w : Wanted) (st : State) (before : Option Char) (t : Text) :
    Work (State × Option Regex.Fit) := do
  match w.regex.map (fun r => (r, w.manner)) <|> st.last with
  | none => do
    Work.mutter "-e expression #1, char 0: no previous regular expression".toList
    Work.exit 1
  | some (r, m) => return ({ st with last := some (r, m) }, r.search m before t)

def fitsAddress (s : Settings) (st : State) : Address → Work (State × Bool)
  | .line n => return (st, st.line = n)
  | .last => isLast s st
  | .fitting w => do
    let (st, fit) ← find w st none st.space.text
    return (st, fit.isSome)
  | .every first step =>
    return (st, decide (first ≤ st.line) && (st.line - first) % step = 0)

def setRange (st : State) (i : Nat) (r : Range) : State :=
  { st with ranges := st.ranges.set! i r }

def startsRange (s : Settings) (st : State) (i : Nat) (first : Address) (second : Stop) :
    Work (State × Bool) := do
  let (st, isHit) ←
    match first with
    | .line n => pure (st, decide (n ≤ st.line))
    | _ => fitsAddress s st first
  if !isHit then return (st, false)
  else
    let once : State := match first with
      | .line _ => setRange st i .passed
      | _ => st
    match second with
    | .after count =>
      return (if count = 0 then once else setRange st i (.inside (st.line + count)), true)
    | .multiple n =>
      return (if n = 0 || st.line % n = 0 then once
        else setRange st i (.inside (st.line + n - st.line % n)), true)
    | .at_ (.line n) =>
      if n ≤ st.line then
        return (once, match first with
          | .line m => st.line = m
          | _ => true)
      else return (setRange st i (.inside n), true)
    | .at_ _ => return (setRange st i (.inside 0), true)

def inRange (s : Settings) (st : State) (i : Nat) (first : Address) (second : Stop) :
    Work (State × Bool) := do
  let numeric := match first with
    | .line _ => true
    | _ => false
  match (st.ranges.getD i .outside), second with
  | .outside, _ => startsRange s st i first second
  | .passed, _ => if numeric then return (st, false) else startsRange s st i first second
  | .inside stop, .at_ (.fitting w) => do
    let _ := stop
    let (st, isHit) ← fitsAddress s st (.fitting w)
    return (if isHit then setRange st i .passed else st, true)
  | .inside _, .at_ .last => do
    let (st, isHit) ← fitsAddress s st .last
    return (if isHit then setRange st i .passed else st, true)
  | .inside _, .at_ (.every a b) => do
    let (st, isHit) ← fitsAddress s st (.every a b)
    return (if isHit then setRange st i .passed else st, true)
  | .inside stop, _ =>
    return (if stop ≤ st.line then setRange st i .passed else st, decide (st.line ≤ stop))

def isSelected (s : Settings) (st : State) (i : Nat) (sel : Selection) : Work (State × Bool) := do
  let (st, isHit) ←
    match sel.first, sel.second with
    | none, _ => pure (st, true)
    | some a, none => fitsAddress s st a
    | some a, some b => inRange s st i a b
  return (st, isHit != sel.negated)

/-! ### Substitution -/

inductive Turn where
  | upper
  | lower
  deriving DecidableEq

structure Casing where
  all : Option Turn := none
  next : Option Turn := none

def Turn.of (t : Option Turn) (c : Char) : Char :=
  match t with
  | some .upper => c.toUpper
  | some .lower => c.toLower
  | none => c

def cased (k : Casing) (t : Text) : Casing × Text :=
  match t with
  | [] => (k, [])
  | c :: rest =>
    ({ k with next := none }, Turn.of (k.next <|> k.all) c :: rest.map (Turn.of k.all))

def replaced (fit : Regex.Fit) : Casing → List Part → List Text → List Text
  | _, [], done => done
  | k, p :: rest, done =>
    match p with
    | .text t =>
      let (k, t) := cased k t
      replaced fit k rest (t :: done)
    | .group n =>
      let (k, t) := cased k (if n = 0 then fit.text else fit.group n)
      replaced fit k rest (t :: done)
    | .upper => replaced fit { k with all := some .upper } rest done
    | .lower => replaced fit { k with all := some .lower } rest done
    | .upperNext => replaced fit { k with next := some .upper } rest done
    | .lowerNext => replaced fit { k with next := some .lower } rest done
    | .plain => replaced fit {} rest done

/-- Goes through the fits in a text. The parts that are done come last part first; `isAfter` says
that a fit has just ended here. -/
def substituteIn (r : Regex) (m : Regex.Manner) (u : Substitution) :
    Nat → Nat → Option Char → Bool → Bool → Text → List Text → List Text × Bool
  | 0, _, _, _, hit, t, done => (t :: done, hit)
  | fuel + 1, count, before, isAfter, hit, t, done =>
    match r.search m before t with
    | none => (t :: done, hit)
    | some fit =>
      let done := fit.before :: done
      let last := fit.text.getLast?.or (fit.before.getLast?.or before)
      if fit.text.isEmpty && fit.before.isEmpty && isAfter then
        match fit.after with
        | [] => (done, hit)
        | c :: rest => substituteIn r m u fuel count (some c) false hit rest ([c] :: done)
      else if count < u.count then
        let done := fit.text :: done
        if fit.text.isEmpty then
          match fit.after with
          | [] => (done, hit)
          | c :: rest => substituteIn r m u fuel (count + 1) (some c) false hit rest ([c] :: done)
        else substituteIn r m u fuel (count + 1) last true hit fit.after done
      else
        let done := replaced fit {} u.parts [] ++ done
        if !u.all then (fit.after :: done, true)
        else if fit.text.isEmpty then
          match fit.after with
          | [] => (done, true)
          | c :: rest => substituteIn r m u fuel count (some c) false true rest ([c] :: done)
        else substituteIn r m u fuel count last true true fit.after done

/-! ### Steps -/

def octal (n : Nat) : Text :=
  [Char.ofNat (48 + n / 64 % 8), Char.ofNat (48 + n / 8 % 8), Char.ofNat (48 + n % 8)]

def plainly (c : Char) : Text :=
  match c with
  | '\\' => "\\\\".toList
  | '\x07' => "\\a".toList
  | '\x08' => "\\b".toList
  | '\x0c' => "\\f".toList
  | '\n' => "\\n".toList
  | '\r' => "\\r".toList
  | '\t' => "\\t".toList
  | '\x0b' => "\\v".toList
  | c => if ' ' ≤ c && c ≤ '~' then [c] else '\\' :: octal c.toNat

def folded (width : Nat) : List Text → Nat → Text
  | [], _ => []
  | t :: rest, used =>
    if 1 < width && width - 1 < used + t.length then
      "\\\n".toList ++ t ++ folded width rest t.length
    else t ++ folded width rest (used + t.length)

def firstLine (ending : Char) (t : Text) : Text := t.takeWhile (· ≠ ending)

def linesWithEnds (t : Text) : List Text :=
  let lines := (Text.lines t).map (· ++ ['\n'])
  if t.getLast? == some '\n' then lines
  else
    match lines.getLast? with
    | some line => lines.dropLast ++ [line.dropLast]
    | none => []

def target (program : Array Step) (label : Text) : Nat :=
  if label.isEmpty then program.size
  else
    (program.findIdx? fun s =>
      match s.command with
      | .label name => name = label
      | _ => false).getD program.size

def isInside (st : State) (i : Nat) : Bool :=
  match st.ranges.getD i .outside with
  | .inside _ => true
  | _ => false

def perform (s : Settings) (program : Array Step) (i : Nat) (step : Step) (st : State) :
    Work (State × Flow) := do
  let go (st : State) : Work (State × Flow) := return (st, .go (i + 1))
  match step.command with
  | .opening _ => go st
  | .closing => go st
  | .nothing => go st
  | .label _ => go st
  | .append t => go { st with later := st.later ++ [.text t] }
  | .insert t => do go (← emitText st s.ending t)
  | .change t => do
    let isMiddle := step.selection.second.isSome && isInside st i && !step.selection.negated
    let st ← if isMiddle then pure st else emitText st s.ending t
    return (st, .done false)
  | .branch label => return (st, .go (target program label))
  | .branchIf wanted label =>
    let jumps := st.replaced = wanted
    let st := if st.replaced then { st with replaced := false } else st
    return (st, .go (if jumps then target program label else i + 1))
  | .delete => return (st, .done false)
  | .deleteFirst =>
    if st.space.text.contains s.ending then
      let rest := (st.space.text.dropWhile (· ≠ s.ending)).tail
      return ({ st with space := { st.space with text := rest } }, .again)
    else return (st, .done false)
  | .get => go { st with space := st.held }
  | .getMore =>
    go { st with space := { st.held with text := st.space.text ++ s.ending :: st.held.text } }
  | .hold => go { st with held := st.space }
  | .holdMore =>
    go { st with held := { st.space with text := st.held.text ++ s.ending :: st.space.text } }
  | .exchange => go { st with space := st.held, held := st.space }
  | .list width => do
    let width := match width.getD s.width with
      | 1 => 0
      | n => n
    go (← emitText st s.ending (folded width (st.space.text.map plainly) 0 ++ "$\n".toList))
  | .next => do
    let (st, isOver) ← isOver s st
    if isOver then return (st, .stop true 0)
    else
      let st ← if s.quiet then pure st
        else emit st mainOutlet st.space.text s.ending st.space.hasEnd
      let (st, line) ← nextLine s st
      match line with
      | none => return (st, .stop false 0)
      | some space => go { st with space }
  | .nextMore => do
    let (st, isOver) ← isOver s st
    if isOver then return (st, .stop true 0)
    else
      let (st, line) ← nextLine s st
      match line with
      | none => return (st, .stop true 0)
      | some space =>
        go { st with space := { space with text := st.space.text ++ s.ending :: space.text } }
  | .print => do go (← emit st mainOutlet st.space.text s.ending st.space.hasEnd)
  | .printFirst => do go (← emit st mainOutlet (firstLine s.ending st.space.text) s.ending true)
  | .quit status => return (st, .stop true status)
  | .quitSilently status => return ({ st with later := [] }, .stop false status)
  | .readFile path => go { st with later := st.later ++ [.file path] }
  | .readLine path => do
    let lines ←
      match (st.readers.find? fun r => r.1 = path).map Prod.snd with
      | some lines => pure lines
      | none => do
        match ← Work.readFile path with
        | .ok t => pure (linesWithEnds t)
        | .error _ => pure []
    let others := st.readers.filter fun r => r.1 ≠ path
    let st := { st with readers := (path, lines.tail) :: others }
    match lines with
    | [] => go st
    | line :: _ => go { st with later := st.later ++ [.text line] }
  | .writeFile path => do go (← emit st path st.space.text s.ending st.space.hasEnd)
  | .writeFirst path => do go (← emit st path (firstLine s.ending st.space.text) s.ending true)
  | .number => do go (← emitText st s.ending (Text.ofNat st.line ++ ['\n']))
  | .fileName => do go (← emitText st s.ending (st.source.name ++ ['\n']))
  | .zap => go { st with space := { st.space with text := [] } }
  | .replace pairs =>
    let turned := st.space.text.map fun c =>
      ((pairs.find? fun p => p.1 = c).map Prod.snd).getD c
    go { st with space := { st.space with text := turned } }
  | .substitute u => do
    let (st, fit) ← find u.wanted st none st.space.text
    match fit, st.last with
    | some _, some (r, m) =>
      let t := st.space.text
      let (parts, isHit) := substituteIn r m u (t.length + 2) 1 none false false t []
      if !isHit then go st
      else do
        let st := { st with
          space := { st.space with text := parts.reverse.flatten }, replaced := true }
        let st ← if u.prints then emit st mainOutlet st.space.text s.ending st.space.hasEnd
          else pure st
        let st ← match u.file with
          | some path => emit st path st.space.text s.ending st.space.hasEnd
          | none => pure st
        go st
    | _, _ => go st

def finish (s : Settings) (st : State) : Work State := do
  let st ← emitLater s st st.later
  if st.source.descriptor == some 0 && st.source.name = ['-'] then
    Work.giveBack 0 st.source.ahead.length
  return st

def copyRest (s : Settings) : Nat → State → Work State
  | 0, st => return st
  | fuel + 1, st => do
    match st.copy with
    | none => return st
    | some _ => do
      let (st, isReady) ← fill st
      if !isReady then closeCurrent s st
      else
        let t := st.source.ahead
        let st ← emitText st s.ending t
        copyRest s fuel { st with source := { st.source with ahead := [] } }

def stepLimit : Nat := 1000000000

def cycles (s : Settings) (program : Array Step) : Nat → Nat → State → Work (State × Nat)
  | 0, _, st => return (st, 0)
  | fuel + 1, i, st => do
    if fuel % 512 = 0 then Work.rest ((stepLimit - fuel) / 512)
    match program[i]? with
    | some step => do
      let (st, isHit) ← isSelected s st i step.selection
      if !isHit then
        let next := match step.command with
          | .opening stop => stop
          | _ => i + 1
        cycles s program fuel next st
      else
        let (st, flow) ← perform s program i step st
        match flow with
        | .go next => cycles s program fuel next st
        | .done _ => startCycle fuel st
        | .again => do
          let st ← emitLater s st st.later
          cycles s program fuel 0 st
        | .stop prints status => do
          let st ← if prints && !s.quiet then
              emit st mainOutlet st.space.text s.ending st.space.hasEnd
            else pure st
          let st ← finish s st
          let st ← copyRest s Work.readLimit st
          return (st, status)
    | none => do
      let st ← if s.quiet then pure st
        else emit st mainOutlet st.space.text s.ending st.space.hasEnd
      startCycle fuel st
where
  /-- Goes on with a new line. -/
  startCycle (fuel : Nat) (st : State) : Work (State × Nat) := do
    let (st, line) ← nextLine s st
    match line with
    | none => return (st, 0)
    | some space => cycles s program fuel 0 { st with space }

/-! ### The tool -/

structure Piece where
  text : Text
  file : Option Text

def pieces : List (String × Text) → Work (List Piece)
  | [] => return []
  | (key, value) :: rest => do
    if key = "e" then return { text := value, file := none } :: (← pieces rest)
    else if key = "f" then
      match ← Work.readSource value with
      | .error cause => do
        Work.mutter ("couldn't open file ".toList ++ value ++ ": ".toList ++ reason cause)
        Work.exit 1
      | .ok t =>
        let t := if t.getLast? == some '\n' then t.dropLast else t
        return { text := t, file := some value } :: (← pieces rest)
    else pieces rest

def locate : List Piece → Nat → Nat → Option (Piece × Nat × Nat)
  | [], _, _ => none
  | p :: rest, number, consumed =>
    if consumed ≤ p.text.length + 1 || rest.isEmpty then
      some (p, number, min consumed p.text.length)
    else
      locate rest (if p.file.isNone then number + 1 else number) (consumed - p.text.length - 1)

def faultText (parts : List Piece) (total : Nat) (f : Fault) : Text :=
  match f.place with
  | .unsaid => f.message.toList
  | .start => "-e expression #1, char 0: ".toList ++ f.message.toList
  | .unread left =>
    match locate parts 1 (total - left) with
    | none => f.message.toList
    | some (p, number, before) =>
      match p.file with
      | some name =>
        let line := ((p.text.take before).filter (· == '\n')).length + 1
        "file ".toList ++ name ++ " line ".toList ++ Text.ofNat line ++ ": ".toList ++
          f.message.toList
      | none =>
        "-e expression #".toList ++ Text.ofNat number ++ ", char ".toList ++ Text.ofNat before ++
          ": ".toList ++ f.message.toList

def writtenBy (c : Command) : Option Text :=
  match c with
  | .writeFile path => some path
  | .writeFirst path => some path
  | .substitute u => u.file
  | _ => none

def openOutlets : List Text → List (Text × Outlet) → Work (List (Text × Outlet))
  | [], done => return done
  | path :: rest, done => do
    if done.any fun o => o.1 = path then openOutlets rest done
    else if path = "/dev/stdout".toList then openOutlets rest ((path, .output) :: done)
    else if path = "/dev/stderr".toList then openOutlets rest ((path, .errors) :: done)
    else
      match ← Work.change fun f => f.openForWriting (pathOf path) { truncates := true } with
      | .error cause => do
        Work.mutter ("couldn't open file ".toList ++ path ++ ": ".toList ++ reason cause)
        Work.exit 4
      | .ok number => openOutlets rest ((path, .file number) :: done)

def usageText : Text :=
  "Usage: sed [OPTION]... \x7bscript-only-if-no-other-script\x7d [input-file]...\n\n".toList

def advise {α : Type} (message : Option Text) : Work α := do
  let _ ← Work.writeTo 2
    ((message.map fun m => "sed: ".toList ++ m ++ ['\n']).getD [] ++ usageText)
  Work.exit 1

def usage : Usage :=
  { letters := "bsnrzuEe:f:l:i::V:"
    names := [⟨"expression", "e", .something⟩, ⟨"file", "f", .something⟩,
      ⟨"in-place", "i", .maybe⟩, ⟨"line-length", "l", .something⟩, ⟨"null-data", "z", .nothing⟩,
      ⟨"zero-terminated", "z", .nothing⟩, ⟨"quiet", "n", .nothing⟩, ⟨"silent", "n", .nothing⟩,
      ⟨"posix", "p", .nothing⟩, ⟨"sandbox", "sandbox", .nothing⟩, ⟨"debug", "debug", .nothing⟩,
      ⟨"separate", "s", .nothing⟩, ⟨"unbuffered", "u", .nothing⟩, ⟨"binary", "b", .nothing⟩,
      ⟨"follow-symlinks", "follow", .nothing⟩, ⟨"regexp-extended", "E", .nothing⟩] ++
      Plain.helpOptions }

def sed : Work Nat := do
  Work.failingWith 4
  let q ← Work.request
  let a ←
    match usage.read (q.arguments.length + 1) q.arguments with
    | .ok a => pure a
    | .error message => advise (some message)
  let (parts, operands) ← do
    if a.has "e" || a.has "f" then pure (← pieces a.options, a.operands)
    else
      match a.operands with
      | [] => advise none
      | script :: rest => pure ([{ text := script, file := none }], rest)
  let width ←
    match a.get? "l" with
    | none => pure 70
    | some t =>
      match Text.decimal? t with
      | some n => pure n
      | none => do
        Work.mutter ("invalid line length: ".toList ++ t)
        Work.exit 1
  let script := (parts.map Piece.text).intersperse ['\n'] |>.flatten
  let isQuiet := match script with
    | ['#', 'n'] => true
    | '#' :: 'n' :: '\n' :: _ => true
    | _ => false
  match read (a.has "E" || a.has "r") script with
  | .error f => do
    Work.mutter (faultText parts script.length f)
    Work.exit f.status
  | .ok program => do
    let outlets ← openOutlets (program.toList.filterMap fun s => writtenBy s.command) []
    let s : Settings :=
      { quiet := a.has "n" || isQuiet, separate := a.has "s" || a.has "i"
        inPlace := a.get? "i", ending := if a.has "z" then '\x00' else '\n', width }
    let ranges := program.map fun step =>
      match step.selection.first, step.selection.second with
      | some (.line 0), some _ => Range.inside 0
      | _, _ => .outside
    let operands : List Text := if operands.isEmpty then [['-']] else operands
    let st : State := { source := { pending := operands }, ranges, outlets }
    let (st, line) ← nextLine s st
    let (st, status) ←
      match line with
      | none => pure (st, 0)
      | some space => cycles s program stepLimit 0 { st with space }
    return if status = 0 && st.source.isFaulty then 2 else status

end Editing

end Tool

end Proctor
