import Proctor.Tool.Manage

/-!
# Tools that pass their input on

They write what they read part by part, or some of it from the start or the end, and do not wait for
the end of the input if they need not.
-/

set_option autoImplicit false

namespace Proctor

namespace Tool

open Shell

namespace Passing

open Plain (helpOptions)

def openSource (operand : Text) : Work (Except Cause Nat) :=
  if operand = ['-'] then pure (.ok 0) else Work.ask (.open_ operand)

def closeSource (operand : Text) (descriptor : Nat) : Work Unit :=
  if operand = ['-'] then pure () else Work.close descriptor

def put (t : Text) : Work Unit := do
  Work.flush
  match ← Work.writeTo 1 t with
  | none => return ()
  | some cause => do
    Work.mutter ("write error: ".toList ++ reason cause)
    Work.quit 1

/-! ### Everything -/

structure Dress where
  numbers : Bool := false
  numbersText : Bool := false
  squeezes : Bool := false
  marksEnds : Bool := false
  showsTabs : Bool := false
  showsHidden : Bool := false

def Dress.isPlain (d : Dress) : Bool :=
  !(d.numbers || d.numbersText || d.squeezes || d.marksEnds || d.showsTabs || d.showsHidden)

structure Progress where
  line : Nat := 1
  /-- Lines without text just before. -/
  blanks : Nat := 0
  isStart : Bool := true

def visible (c : Char) : Text :=
  let n := c.toNat
  if n < 32 then ['^', Char.ofNat (n + 64)]
  else if n < 127 then [c]
  else if n = 127 then ['^', '?']
  else
    let m := n - 128
    "M-".toList ++
      (if m < 32 then ['^', Char.ofNat (m + 64)]
       else if m = 127 then ['^', '?']
       else [Char.ofNat m])

def numbered (n : Nat) : Text := Calendar.padded ' ' 6 (Text.ofNat n) ++ ['\t']

def dressed (d : Dress) : Progress → Text → Text → Progress × Text
  | p, shown, [] => (p, shown)
  | p, shown, '\n' :: rest =>
    if p.isStart && d.squeezes && 0 < p.blanks then
      dressed d { p with blanks := p.blanks + 1 } shown rest
    else
      let counts := p.isStart && d.numbers && !d.numbersText
      let shown := if counts then (numbered p.line).reverse ++ shown else shown
      let shown := '\n' :: (if d.marksEnds then '$' :: shown else shown)
      dressed d
        { line := if counts then p.line + 1 else p.line
          blanks := if p.isStart then p.blanks + 1 else 0, isStart := true } shown rest
  | p, shown, c :: rest =>
    let counts := p.isStart && (d.numbers || d.numbersText)
    let shown := if counts then (numbered p.line).reverse ++ shown else shown
    let text : Text :=
      if c == '\t' then if d.showsTabs then ['^', 'I'] else ['\t']
      else if d.showsHidden then visible c
      else if c == '\r' && d.marksEnds && rest.head? == some '\n' then ['^', 'M']
      else [c]
    dressed d
      { line := if counts then p.line + 1 else p.line, blanks := 0, isStart := false }
      (text.reverse ++ shown) rest

def passOn (d : Dress) (descriptor : Nat) : Nat → Progress → Work (Option Cause × Progress)
  | 0, p => return (none, p)
  | fuel + 1, p => do
    match ← Work.readPart descriptor with
    | .error cause => return (some cause, p)
    | .ok [] => return (none, p)
    | .ok t => do
      if d.isPlain then do
        put t
        passOn d descriptor fuel p
      else do
        let (p, shown) := dressed d p [] t
        put shown.reverse
        passOn d descriptor fuel p

/-- Whether what is read is what is written to, and there is something to read. -/
def isOwnOutput (descriptor : Nat) : Work Bool := do
  match ← Work.look 1, ← Work.look descriptor with
  | .node out _, .node source offset => do
    let f ← Work.files
    return out = source && (f.get source).isRegular && offset < (f.get source).size
  | _, _ => return false

def catAll (d : Dress) : List Text → Progress → Nat → Work Nat
  | [], _, status => return status
  | operand :: rest, p, status => do
    match ← openSource operand with
    | .error cause => do
      Work.complain (nameOf operand ++ ": ".toList ++ reason cause)
      catAll d rest p 1
    | .ok descriptor => do
      if ← isOwnOutput descriptor then do
        Work.complain (nameOf operand ++ ": input file is output file".toList)
        closeSource operand descriptor
        catAll d rest p 1
      else do
        let (fault, p) ← passOn d descriptor Work.readLimit p
        closeSource operand descriptor
        match fault with
        | some cause => do
          Work.complain (nameOf operand ++ ": ".toList ++ reason cause)
          catAll d rest p 1
        | none => catAll d rest p status

def cat : Work Nat := do
  let a ← Work.arguments
    { letters := "benstuvAET"
      names := [⟨"number-nonblank", "b", .nothing⟩, ⟨"number", "n", .nothing⟩,
        ⟨"squeeze-blank", "s", .nothing⟩, ⟨"show-nonprinting", "v", .nothing⟩,
        ⟨"show-ends", "E", .nothing⟩, ⟨"show-tabs", "T", .nothing⟩, ⟨"show-all", "A", .nothing⟩] ++
        helpOptions }
  let d : Dress :=
    { numbers := a.has "n", numbersText := a.has "b", squeezes := a.has "s"
      marksEnds := a.has "E" || a.has "e" || a.has "A"
      showsTabs := a.has "T" || a.has "t" || a.has "A"
      showsHidden := a.has "v" || a.has "e" || a.has "t" || a.has "A" }
  let status ← catAll d a.sources {} 0
  if a.sources.contains ['-'] && (← Work.look 0) = .closed then do
    Work.complain "closing standard input: Bad file descriptor".toList
    return 1
  else return status

/-! ### To several places -/

structure Outlet where
  path : Text
  number : Nat
  offset : Nat

def openOutlets (appends : Bool) : List Text → Nat → Work (List Outlet × Nat)
  | [], status => return ([], status)
  | path :: rest, status => do
    match ← Work.change fun f => f.openForWriting (pathOf path) { truncates := !appends } with
    | .error cause => do
      Work.complain (nameOf path ++ ": ".toList ++ reason cause)
      openOutlets appends rest 1
    | .ok number => do
      let f ← Work.files
      let offset := if appends then (f.get number).size else 0
      let (outlets, status) ← openOutlets appends rest status
      return ({ path, number, offset } :: outlets, status)

def copyTo (t : Text) : List Outlet → Work (List Outlet × Bool)
  | [] => return ([], true)
  | o :: rest => do
    let f ← Work.files
    let fault ←
      match (f.get o.number).body with
      | .descriptor d => Work.writeTo d t
      | .device .full => pure (some .noSpace)
      | .file _ => do
        Work.alter fun f => f.writeAt o.number o.offset t.toBytes
        pure none
      | _ => pure none
    let (others, isFine) ← copyTo t rest
    match fault with
    | none => return ({ o with offset := o.offset + t.length } :: others, isFine)
    | some cause => do
      Work.complain (nameOf o.path ++ ": ".toList ++ reason cause)
      return (others, false)

def teeParts : Nat → List Outlet → Bool → Nat → Work Nat
  | 0, _, _, status => return status
  | fuel + 1, outlets, isOpen, status => do
    match ← Work.readPart 0 with
    | .error cause => do
      Work.complain ("read error: ".toList ++ reason cause)
      if cause = .badDescriptor then
        Work.complain ("standard input: ".toList ++ reason cause)
      return 1
    | .ok [] => return status
    | .ok t => do
      let fault ← if isOpen then Work.writeTo 1 t else pure none
      if let some cause := fault then
        Work.complain ("'standard output': ".toList ++ reason cause)
      let (outlets, isFine) ← copyTo t outlets
      teeParts fuel outlets (isOpen && fault.isNone)
        (if isFine && fault.isNone then status else 1)

def tee : Work Nat := do
  let a ← Work.arguments
    { letters := "aip"
      names := [⟨"append", "a", .nothing⟩, ⟨"ignore-interrupts", "i", .nothing⟩,
        ⟨"output-error", "p", .maybe⟩] ++ helpOptions }
  let (outlets, status) ← openOutlets (a.has "a") a.operands 0
  teeParts Work.readLimit outlets true status

/-! ### From the start -/

def countLimit : Nat := 18446744073709551615

def countOf (what : String) (t : Text) : Work Nat :=
  match Manage.size? t with
  | none => Work.fail 1 ("invalid number of ".toList ++ what.toList ++ ": ".toList ++ quoted t)
  | some n =>
    if countLimit < n then
      Work.fail 1 ("invalid number of ".toList ++ what.toList ++ ": ".toList ++ quoted t ++
        ": Value too large for defined data type".toList)
    else pure n

/-- The characters up to and including the `n`th line end, and how many line ends are missing. -/
def firstLines (ending : Char) : Nat → Text → Text → Text × Text × Nat
  | 0, taken, rest => (taken.reverse, rest, 0)
  | n + 1, taken, [] => (taken.reverse, [], n + 1)
  | n + 1, taken, c :: rest =>
    if c == ending then firstLines ending n (c :: taken) rest
    else firstLines ending (n + 1) (c :: taken) rest

def takeFrom (descriptor : Nat) (bytes : Bool) (ending : Char) : Nat → Nat → Work (Option Cause)
  | 0, _ => return none
  | _, 0 => return none
  | fuel + 1, count + 1 => do
    match ← Work.readPart descriptor with
    | .error cause => return some cause
    | .ok [] => return none
    | .ok t => do
      let (taken, rest, missing) :=
        if bytes then (t.take (count + 1), t.drop (count + 1), count + 1 - t.length)
        else firstLines ending (count + 1) [] t
      Work.say taken
      if missing = 0 then do
        Work.giveBack descriptor rest.length
        return none
      else takeFrom descriptor bytes ending fuel missing

def withoutLast (ending : Char) (n : Nat) (t : Text) : Text :=
  if n = 0 then t
  else
    let back := t.reverse
    let back := if back.head? == some ending then back else ending :: back
    let (_, rest, missing) := firstLines ending n [] back.tail
    if missing = 0 then (ending :: rest).reverse else []

def heading (isFirst : Bool) (operand : Text) : Text :=
  (if isFirst then [] else ['\n']) ++ "==> ".toList ++
    (if operand = ['-'] then "standard input".toList else operand) ++ " <==\n".toList

def eachSource (headed : Bool) (one : Nat → Work (Option Cause)) :
    List Text → Bool → Nat → Work Nat
  | [], _, status => return status
  | operand :: rest, isFirst, status => do
    let name : Text := if operand = ['-'] then "standard input".toList else operand
    match ← openSource operand with
    | .error cause => do
      Work.complain ("cannot open ".toList ++ shellQuoted name ++ " for reading: ".toList ++
        reason cause)
      eachSource headed one rest isFirst 1
    | .ok descriptor => do
      if headed then Work.say (heading isFirst operand)
      let fault ← one descriptor
      closeSource operand descriptor
      match fault with
      | some cause => do
        Work.complain ("error reading ".toList ++ shellQuoted name ++ ": ".toList ++ reason cause)
        eachSource headed one rest false 1
      | none => eachSource headed one rest false status

def oldAmount (first : Text) : Option (List Text) :=
  match first with
  | '-' :: c :: rest =>
    if !c.isDigit then none
    else
      let digits := c :: rest.takeWhile Char.isDigit
      let letters := rest.dropWhile Char.isDigit
      let unit := letters.filter fun c => "bkm".toList.contains c
      let bytes := letters.contains 'c' || !unit.isEmpty
      let others := letters.filter fun c => !"bckml".toList.contains c
      some ((if bytes then "-c".toList else "-n".toList) :: (digits ++ unit) ::
        (if others.isEmpty then [] else ['-' :: others]))
  | _ => none

def amountUsage : Usage :=
  { letters := "c:n:qvzfFs:"
    names := [⟨"bytes", "c", .something⟩, ⟨"lines", "n", .something⟩, ⟨"quiet", "q", .nothing⟩,
      ⟨"silent", "q", .nothing⟩, ⟨"verbose", "v", .nothing⟩, ⟨"zero-terminated", "z", .nothing⟩] ++
      helpOptions }

def isHeaded (a : Arguments) : Bool :=
  match a.lastOf ["q", "v"] with
  | some "v" => true
  | some _ => false
  | none => 1 < a.sources.length

def readArguments (u : Usage) (given : List Text) : Work Arguments :=
  match u.read (given.length + 1) given with
  | .ok a => pure a
  | .error message => Work.misuse 1 message

def head : Work Nat := do
  let q ← Work.request
  let given := match q.arguments with
    | first :: rest => (oldAmount first).getD [first] ++ rest
    | [] => []
  let a ← readArguments { amountUsage with letters := "c:n:qvz" } given
  let bytes := a.lastOf ["c", "n"] == some "c"
  let what := if bytes then "bytes" else "lines"
  let text := (a.get? (if bytes then "c" else "n")).getD "10".toList
  let (turned, digits) : Bool × Text := match text with
    | '-' :: digits => (true, digits)
    | '+' :: digits => (false, digits)
    | digits => (false, digits)
  let count ← countOf what digits
  let ending := if a.has "z" then '\x00' else '\n'
  let one (descriptor : Nat) : Work (Option Cause) := do
    if !turned then takeFrom descriptor bytes ending Work.readLimit count
    else
      match ← Work.readFrom descriptor Work.readLimit [] with
      | .error cause => return some cause
      | .ok t => do
        Work.say (if bytes then t.take (t.length - count) else withoutLast ending count t)
        return none
  eachSource (isHeaded a) one a.sources true 0

/-! ### From the end -/

def lastLines (ending : Char) (n : Nat) (t : Text) : Text :=
  t.drop (withoutLast ending n t).length

def fromLine (ending : Char) (n : Nat) (t : Text) : Text := (firstLines ending (n - 1) [] t).2.1

def follow (descriptor : Nat) : Nat → Work (Option Cause)
  | 0 => return none
  | fuel + 1 => do
    match ← Work.readPart descriptor with
    | .error cause => return some cause
    | .ok [] => do
      Work.act (.pause (Calendar.second / 20))
      follow descriptor fuel
    | .ok t => do
      put t
      follow descriptor fuel

def oldTail (arguments : List Text) : Option (List Text) :=
  match arguments with
  | (sign :: c :: more) :: rest =>
    let letters := (c :: more).dropWhile Char.isDigit
    let digits := (c :: more).takeWhile Char.isDigit
    let isOld := (sign == '-' || sign == '+') && c.isDigit &&
      [[], ['c'], ['l'], ['b'], ['f'], ['c', 'f'], ['l', 'f']].contains letters &&
      rest.length ≤ 1 && (rest.head?.bind List.head? != some '-' || rest = [['-']])
    if isOld then
      let count := (if sign == '+' then ['+'] else []) ++ digits ++
        (if letters.contains 'b' then ['b'] else [])
      some ((if letters.contains 'c' || letters.contains 'b' then "-c".toList else "-n".toList) ::
        count :: (if letters.contains 'f' then ["-f".toList] else []) ++ rest)
    else none
  | _ => none

def tail : Work Nat := do
  let q ← Work.request
  let given := (oldTail q.arguments).getD q.arguments
  if let some ('-' :: c :: _) := given.head? then
    if c.isDigit then Work.fail 1 ("option used in invalid context -- ".toList ++ [c])
  let a ← readArguments
    { amountUsage with
      letters := "c:n:fFqs:vz"
      names := amountUsage.names ++ [⟨"follow", "f", .maybe⟩, ⟨"pid", "pid", .something⟩,
        ⟨"retry", "retry", .nothing⟩, ⟨"sleep-interval", "s", .something⟩] } given
  let bytes := a.lastOf ["c", "n"] == some "c"
  let what := if bytes then "bytes" else "lines"
  let text := (a.get? (if bytes then "c" else "n")).getD "10".toList
  let (turned, digits) : Bool × Text := match text with
    | '-' :: digits => (false, digits)
    | '+' :: digits => (true, digits)
    | digits => (false, digits)
  let count ← countOf what digits
  let ending := if a.has "z" then '\x00' else '\n'
  let one (descriptor : Nat) : Work (Option Cause) := do
    match ← Work.readFrom descriptor Work.readLimit [] with
    | .error cause => return some cause
    | .ok t => do
      let shown := match bytes, turned with
        | true, false => t.drop (t.length - count)
        | true, true => t.drop (count - 1)
        | false, false => lastLines ending count t
        | false, true => fromLine ending count t
      Work.say shown
      if a.has "f" || a.has "F" then do
        Work.flush
        follow descriptor Work.readLimit
      else return none
  eachSource (isHeaded a) one a.sources true 0

end Passing

end Tool

end Proctor
