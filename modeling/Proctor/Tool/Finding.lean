import Proctor.Regex.Read
import Proctor.Tool.Listing
import Proctor.Tool.Running

/-!
# Finding files

A tree is walked from some paths on, and a condition is worked out for every file. Some conditions
do something and tell whether it went well. Without one of these, the paths of the files for which
the condition holds are printed.
-/

set_option autoImplicit false

namespace Proctor

namespace Tool

open Shell

namespace Finding

inductive Amount where
  | exactly (n : Nat)
  | more (n : Nat)
  | less (n : Nat)

def Amount.holds (a : Amount) (n : Nat) : Bool :=
  match a with
  | .exactly m => n = m
  | .more m => decide (m < n)
  | .less m => decide (n < m)

inductive Bits where
  | same
  | all
  | any

inductive Check where
  | yes
  | no
  | name (folds : Bool) (pattern : Text)
  | path (folds : Bool) (pattern : Text)
  | target (folds : Bool) (pattern : Text)
  | fits (r : Regex) (m : Regex.Manner)
  | kind (letters : List Char)
  | kindBehind (letters : List Char)
  | size (unit : Nat) (a : Amount)
  | empty
  | changedAfter (time : Nat)
  | age (unit : Nat) (a : Amount)
  | mode (how : Bits) (mode : Nat)
  | names (a : Amount)
  | number (a : Amount)
  | may (bit : Nat)
  | print (ending : Char)
  | printTo (path : Text) (ending : Char)
  | printAs (format : Text)
  | run (inside asks : Bool) (words : List Text)
  | runAll (index : Nat) (words : List Text)
  | delete
  | prune
  | quit

inductive Condition where
  | check (c : Check)
  | not (a : Condition)
  | and (a b : Condition)
  | or (a b : Condition)
  | after (a b : Condition)

/-- Whether a check does something, so that paths are not printed by themselves. -/
def Check.isAction : Check → Bool
  | .print _ => true
  | .printTo .. => true
  | .printAs _ => true
  | .run .. => true
  | .runAll .. => true
  | .delete => true
  | _ => false

def Condition.hasAction : Condition → Bool
  | .check c => c.isAction
  | .not a => a.hasAction
  | .and a b => a.hasAction || b.hasAction
  | .or a b => a.hasAction || b.hasAction
  | .after a b => a.hasAction || b.hasAction

structure Plan where
  follows : Bool := false
  followsOperands : Bool := false
  most : Option Nat := none
  least : Nat := 0
  depthFirst : Bool := false
  extended : Option Bool := none
  /-- Commands that take many paths at once. -/
  batches : Nat := 0

/-! ### Reading conditions -/

structure Reader where
  plan : Plan := {}
  rest : List Text
  /-- The last condition that took a pattern. -/
  pattern : Option Text := none

abbrev Read (α : Type) := StateT Reader (Except Text) α

def wrong {α : Type} (message : String) (word : Text) (after : String := "") : Read α :=
  throw (message.toList ++ word ++ after.toList)

def argument (name : Text) : Read Text := do
  let r ← get
  match r.rest with
  | [] => wrong "missing argument to `" name "'"
  | a :: rest => do
    set { r with rest }
    return a

def amount? (t : Text) : Option Amount :=
  match t with
  | '+' :: digits => (Text.decimal? digits).map .more
  | '-' :: digits => (Text.decimal? digits).map .less
  | digits => (Text.decimal? digits).map .exactly

def amount (name : Text) : Read Amount := do
  let t ← argument name
  match amount? t with
  | some a => return a
  | none => throw ("invalid argument `".toList ++ t ++ "' to `".toList ++ name ++ ['\''])

def depth (name : Text) : Read Nat := do
  let t ← argument name
  match Text.decimal? t with
  | some n => return n
  | none =>
    throw ("Expected a positive decimal integer argument to ".toList ++ name ++
      ", but got ".toList ++ quoted t)

def kinds (name : Text) : Read (List Char) := do
  let t ← argument name
  if t.isEmpty then wrong "Arguments to " name " should contain at least one letter"
  else
    match (Text.split ',' t).find? fun part =>
        !(part.length = 1 && part.all fun c => "bcdpflsD".toList.contains c) with
    | some bad => throw ("Unknown argument to ".toList ++ name ++ ": ".toList ++ bad.take 1)
    | none => return (Text.split ',' t).flatten

def sizeUnit? : Char → Option Nat
  | 'b' => some 512
  | 'c' => some 1
  | 'w' => some 2
  | 'k' => some 1024
  | 'M' => some 1048576
  | 'G' => some 1073741824
  | _ => none

def size (name : Text) : Read Check := do
  let t ← argument name
  let last := t.getLast?.getD '0'
  let (unit, digits) ←
    if last.isDigit then pure (512, t)
    else
      match sizeUnit? last with
      | some unit => pure (unit, t.dropLast)
      | none => throw ("invalid -size type `".toList ++ [last, '\''])
  match amount? digits with
  | some a => return .size unit a
  | none => throw ("invalid argument `".toList ++ t ++ "' to `-size'".toList)

def mode (name : Text) : Read Check := do
  let t ← argument name
  let (how, body) : Bits × Text := match t with
    | '-' :: body => (.all, body)
    | '/' :: body => (.any, body)
    | body => (.same, body)
  match Permission.mode? { mode := 0, mask := 0 } body with
  | some m => return .mode how m
  | none => throw ("invalid mode ".toList ++ quoted t)

def commandOf (name : Text) (isMany : Bool) : Read (List Text × Bool) := do
  let r ← get
  match go [] r.rest with
  | none => wrong "missing argument to `" name "'"
  | some (words, rest, many) => do
    set { r with rest }
    if words.isEmpty then wrong "invalid argument `;' to `" name "'"
    else if many && 1 < (words.filter fun w => isWithin w).length then
      wrong "Only one instance of \x7b\x7d is supported with " name " ... +"
    else return (words, many)
where
  isWithin (w : Text) : Bool := w.any (· == '\x7b') &&
    Running.replaced ['\x7b', '\x7d'] [] (w.length + 1) w ≠ w
  go (words : List Text) : List Text → Option (List Text × List Text × Bool)
    | [] => none
    | [';'] :: rest => some (words.reverse, rest, false)
    | ['+'] :: rest =>
      if isMany && words.head? = some ['\x7b', '\x7d'] then some (words.reverse, rest, true)
      else go (['+'] :: words) rest
    | w :: rest => go (w :: words) rest

def withSigns : Text → Text
  | '\\' :: c :: rest => '\\' :: c :: withSigns rest
  | '+' :: rest => '\\' :: '+' :: withSigns rest
  | '?' :: rest => '\\' :: '?' :: withSigns rest
  | c :: rest => c :: withSigns rest
  | [] => []

def regex (name : Text) (folds : Bool) : Read Check := do
  let t ← argument name
  let r ← get
  let text := if r.plan.extended.isSome then t else withSigns t
  match Regex.read { extended := r.plan.extended.getD false } text with
  | .ok e => return .fits e.regex { foldsCase := folds }
  | .error message => throw message.toList

def extendedNames : List String :=
  ["posix-extended", "posix-egrep", "egrep", "awk", "posix-awk", "gnu-awk"]

def owner (name what : String) : Read Check := do
  let t ← argument name.toList
  if t = "root".toList || Text.decimal? t = some 0 then return .yes
  else if (Text.decimal? t).isSome then return .no
  else throw (quoted t ++ " is not the name of a known ".toList ++ what.toList)

def reference (f : Files) (name : Text) : Read (Nat × Node) := do
  let t ← argument name
  match f.number true (pathOf t) with
  | .ok number => return (number, f.get number)
  | .error cause => throw (quoted t ++ ": ".toList ++ reason cause)

def setPlan (change : Plan → Plan) : Read Check := do
  modify fun r => { r with plan := change r.plan }
  return .yes

def patterned (name : Text) (make : Text → Check) : Read Check := do
  let t ← argument name
  modify fun r => { r with pattern := some name }
  return make t

def runCheck (name : Text) (inside asks isMany : Bool) : Read Check := do
  let (words, many) ← commandOf name isMany
  if many then do
    let r ← get
    set { r with plan := { r.plan with batches := r.plan.batches + 1 } }
    return .runAll r.plan.batches words
  else return .run inside asks words

def check (f : Files) (name : Text) : Read Check := do
  match String.ofList name with
  | "-name" => patterned name (.name false)
  | "-iname" => patterned name (.name true)
  | "-path" => patterned name (.path false)
  | "-wholename" => patterned name (.path false)
  | "-ipath" => patterned name (.path true)
  | "-iwholename" => patterned name (.path true)
  | "-lname" => patterned name (.target false)
  | "-ilname" => patterned name (.target true)
  | "-regex" => regex name false
  | "-iregex" => regex name true
  | "-regextype" => do
    let t ← argument name
    setPlan fun p => { p with extended := some (extendedNames.contains (String.ofList t)) }
  | "-type" => do return .kind (← kinds name)
  | "-xtype" => do return .kindBehind (← kinds name)
  | "-size" => size name
  | "-empty" => return .empty
  | "-perm" => mode name
  | "-links" => do return .names (← amount name)
  | "-inum" => do return .number (← amount name)
  | "-newer" => do return .changedAfter (← reference f name).2.changed
  | "-anewer" => do return .changedAfter (← reference f name).2.changed
  | "-cnewer" => do return .changedAfter (← reference f name).2.changed
  | "-newermt" => do
    let t ← argument name
    match Calendar.date? f.now t with
    | some time => return .changedAfter time
    | none =>
      throw ("I cannot figure out how to interpret ".toList ++ quoted t ++
        " as a date or time".toList)
  | "-newermm" => do return .changedAfter (← reference f name).2.changed
  | "-samefile" => do return .number (.exactly (← reference f name).1)
  | "-mtime" => do return .age 86400 (← amount name)
  | "-atime" => do return .age 86400 (← amount name)
  | "-ctime" => do return .age 86400 (← amount name)
  | "-mmin" => do return .age 60 (← amount name)
  | "-amin" => do return .age 60 (← amount name)
  | "-cmin" => do return .age 60 (← amount name)
  | "-user" => owner "-user" "user"
  | "-group" => owner "-group" "group"
  | "-uid" => do return if (← amount name).holds 0 then .yes else .no
  | "-gid" => do return if (← amount name).holds 0 then .yes else .no
  | "-nouser" => return .no
  | "-nogroup" => return .no
  | "-readable" => return .may Mode.read
  | "-writable" => return .may Mode.write
  | "-executable" => return .may Mode.search
  | "-true" => return .yes
  | "-false" => return .no
  | "-print" => return .print '\n'
  | "-print0" => return .print '\x00'
  | "-printf" => do return .printAs (← argument name)
  | "-fprint" => do return .printTo (← argument name) '\n'
  | "-fprint0" => do return .printTo (← argument name) '\x00'
  | "-exec" => runCheck name false false true
  | "-execdir" => runCheck name true false false
  | "-ok" => runCheck name false true false
  | "-okdir" => runCheck name true true false
  | "-delete" => do
    let _ ← setPlan fun p => { p with depthFirst := true }
    return .delete
  | "-prune" => return .prune
  | "-quit" => return .quit
  | "-depth" => setPlan fun p => { p with depthFirst := true }
  | "-d" => setPlan fun p => { p with depthFirst := true }
  | "-follow" => setPlan fun p => { p with follows := true }
  | "-maxdepth" => do
    let n ← depth name
    setPlan fun p => { p with most := some n }
  | "-mindepth" => do
    let n ← depth name
    setPlan fun p => { p with least := n }
  | "-daystart" => return .yes
  | "-xdev" => return .yes
  | "-mount" => return .yes
  | "-noleaf" => return .yes
  | "-warn" => return .yes
  | "-nowarn" => return .yes
  | "-ignore_readdir_race" => return .yes
  | "-noignore_readdir_race" => return .yes
  | _ => wrong "unknown predicate `" name "'"

def isWord (words : List String) (t : Text) : Bool := words.contains (String.ofList t)

def strayPath (f : Files) (word : Text) : Read Condition := do
  let r ← get
  let hint : Text := match r.pattern with
    | some name =>
      if f.isPresent (pathOf word) then
        "\nfind: possible unquoted pattern after predicate `".toList ++ name ++ "'?".toList
      else []
    | none => []
  throw ("paths must precede expression: `".toList ++ word ++ ['\''] ++ hint)

def isJoint (t : Text) : Bool := isWord ["-o", "-or", "-a", "-and", ","] t

def noOperand {α : Type} (sign : Text) : Read α :=
  wrong "invalid expression; you have used a binary operator '" sign "' with nothing before it."

def expect (sign : Text) (rest : List Text) : Read Unit :=
  if rest.isEmpty || rest.head? = some [')'] then
    throw ("expected an expression after ".toList ++ quoted sign)
  else pure ()

def unclosed {α : Type} : Read α :=
  throw ("invalid expression; I was expecting to find a ')' somewhere but did not see one.").toList

mutual

def list (f : Files) : Nat → Read Condition
  | 0 => throw []
  | fuel + 1 => do
    let a ← choice f fuel
    let r ← get
    match r.rest with
    | [','] :: rest => do
      set { r with rest }
      expect [','] rest
      return .after a (← list f fuel)
    | _ => return a

def choice (f : Files) : Nat → Read Condition
  | 0 => throw []
  | fuel + 1 => do
    let a ← series f fuel
    let r ← get
    match r.rest with
    | sign :: rest =>
      if isWord ["-o", "-or"] sign then do
        set { r with rest }
        expect sign rest
        return .or a (← choice f fuel)
      else return a
    | [] => return a

def series (f : Files) : Nat → Read Condition
  | 0 => throw []
  | fuel + 1 => do
    let a ← single f fuel
    let r ← get
    match r.rest with
    | sign :: rest =>
      if isWord ["-a", "-and"] sign then do
        set { r with rest }
        expect sign rest
        return .and a (← series f fuel)
      else if isWord ["-o", "-or", ",", ")"] sign then return a
      else return .and a (← series f fuel)
    | [] => return a

def single (f : Files) : Nat → Read Condition
  | 0 => throw []
  | fuel + 1 => do
    let r ← get
    match r.rest with
    | [] => throw []
    | word :: rest => do
      set { r with rest }
      if isWord ["!", "-not"] word then do
        expect word rest
        return .not (← single f fuel)
      else if isJoint word then noOperand word
      else if word = ['('] then do
        match rest with
        | [')'] :: _ => throw "invalid expression; empty parentheses are not allowed.".toList
        | _ => do
          if rest.isEmpty then unclosed
          let a ← list f fuel
          let r ← get
          match r.rest with
          | [')'] :: rest => do
            set { r with rest }
            return a
          | _ => unclosed
      else if word = [')'] then throw "you have too many ')'".toList
      else if word.head? == some '-' then do return .check (← check f word)
      else strayPath f word

end

def condition (f : Files) (words : List Text) : Read Condition := do
  if words.isEmpty then return .check .yes
  else
    let c ← list f (6 * words.length + 6)
    let r ← get
    match r.rest with
    | [')'] :: _ => throw "you have too many ')'".toList
    | _ => return c

/-! ### The walk -/

structure Entry where
  path : Text
  /-- The operand below which it is. -/
  start : Text
  depth : Nat
  number : Nat
  node : Node

structure State where
  status : Nat := 0
  /-- The directory at hand is not entered. -/
  pruned : Bool := false
  done : Bool := false
  /-- Paths for the commands that take many, the last one first. -/
  gathered : List (Nat × Text) := []

def kindLetter (n : Node) : Char :=
  match Listing.kindLetter n with
  | '-' => 'f'
  | c => c

def fitsName (folds : Bool) (pattern t : Text) : Bool :=
  let fold (t : Text) : Text := if folds then t.map Char.toLower else t
  Matcher.fits (Matcher.ofText (fold pattern)) (fold t)

def nameIn (path : Text) : Text := Plain.lastPart path

def placeOf (e : Entry) : Text :=
  let bare := Plain.withoutSlashes e.path
  let name := nameIn e.path
  let before := bare.take (bare.length - name.length)
  if bare.any (· == '/') then (if before = ['/'] then [] else before.dropLast) else ['.']

def below (e : Entry) : Text :=
  let rest := e.path.drop e.start.length
  if rest.head? == some '/' then rest.tail else rest

def laidOut (flags : Text) (width : Nat) (t : Text) : Text :=
  let fill := List.replicate (width - t.length) ' '
  if flags.contains '-' then t ++ fill else fill ++ t

def directive (f : Files) (e : Entry) (c : Char) : Option Text :=
  let behind : Char := match f.node (pathOf e.path) with
    | .ok n => kindLetter n
    | .error _ => if e.node.isLink then 'N' else kindLetter e.node
  match c with
  | 'p' => some e.path
  | 'f' => some (nameIn e.path)
  | 'h' => some (placeOf e)
  | 'P' => some (below e)
  | 'H' => some e.start
  | 's' => some (Text.ofNat e.node.size)
  | 'm' => some (Permission.octal e.node.mode 1)
  | 'M' => some (Listing.modeLetters e.node)
  | 'y' => some [kindLetter e.node]
  | 'Y' => some [behind]
  | 'd' => some (Text.ofNat e.depth)
  | 'l' => match e.node.body with
    | .link target => some target.bytes.toText
    | _ => some []
  | 'u' => some "root".toList
  | 'g' => some "root".toList
  | 'U' => some ['0']
  | 'G' => some ['0']
  | 'n' => some (Text.ofNat (Listing.linkCount f e.number))
  | 'i' => some (Text.ofNat e.number)
  | 'k' => some (Text.ofNat (Listing.blocks e.node))
  | 'b' => some (Text.ofNat (2 * Listing.blocks e.node))
  | _ => none

def formatted (f : Files) (e : Entry) : Nat → Text → Text × List Char
  | 0, _ => ([], [])
  | _, [] => ([], [])
  | fuel + 1, '%' :: '%' :: rest =>
    let (t, bad) := formatted f e fuel rest
    ('%' :: t, bad)
  | fuel + 1, '%' :: rest =>
    let flags := rest.takeWhile fun c => "-0+ #".toList.contains c
    let rest := rest.drop flags.length
    let width := rest.takeWhile Char.isDigit
    match rest.drop width.length with
    | [] => (['%'], [])
    | c :: rest =>
      let (t, bad) := formatted f e fuel rest
      match directive f e c with
      | some shown => (laidOut flags ((Text.decimal? width).getD 0) shown ++ t, bad)
      | none => ('%' :: c :: t, c :: bad)
  | _, '\\' :: 'c' :: _ => ([], [])
  | fuel + 1, '\\' :: c :: rest =>
    if '0' ≤ c && c ≤ '7' then
      let digits := (c :: rest.take 2).takeWhile fun c => '0' ≤ c && c ≤ '7'
      let n := digits.foldl (fun n c => n * 8 + Text.digitValue c) 0
      let (t, bad) := formatted f e fuel ((c :: rest).drop digits.length)
      (Char.ofNat (n % 256) :: t, bad)
    else
      let (t, bad) := formatted f e fuel rest
      match Escape.letter? c with
      | some d => (d :: t, bad)
      | none => (if c == '\\' then '\\' :: t else '\\' :: c :: t, bad)
  | fuel + 1, c :: rest =>
    let (t, bad) := formatted f e fuel rest
    (c :: t, bad)

def runCommand (words : List Text) : Work Bool := do
  let q ← Work.request
  let name := words.headD []
  match ← Work.run { name, arguments := words.tail, environment := q.environment } with
  | .error cause => do
    Work.complain (quoted name ++ ": ".toList ++ reason cause)
    return false
  | .ok status => return status.signal?.isNone && status.exitCode = 0

def runInside (path : Text) (words : List Text) : Work Bool := do
  let f ← Work.files
  let place := (path.take (path.length - (nameIn path).length))
  let place : Text := if place.isEmpty then ['.'] else place
  match f.number true (pathOf place) with
  | .error _ => return false
  | .ok number => do
    Work.flush
    Work.act (.enter number)
    let isFine ← runCommand words
    Work.act (.enter f.here)
    return isFine

def ask (words : List Text) (path : Text) : Work Bool := do
  Work.flush
  let _ ← Work.writeTo 2 ("< ".toList ++ words.headD [] ++ " ... ".toList ++ path ++ " > ? ".toList)
  match ← Work.readPart 0 with
  | .ok part => do
    let line := part.takeWhile (· ≠ '\n')
    Work.giveBack 0 (part.length - (line.length + 1))
    return line.head? == some 'y' || line.head? == some 'Y'
  | .error _ => return false

def remove (e : Entry) (s : State) : Work (State × Bool) := do
  if e.path = ['.'] then return (s, true)
  else
    let result ← Work.change_ fun f =>
      if e.node.isDirectory then f.removeDirectory (pathOf e.path) else f.unlink (pathOf e.path)
    match result with
    | .ok _ => return (s, true)
    | .error cause => do
      Work.complain ("cannot delete ".toList ++ quoted e.path ++ ": ".toList ++ reason cause)
      return ({ s with status := 1 }, false)

def judge (e : Entry) (s : State) : Check → Work (State × Bool)
  | .yes => return (s, true)
  | .no => return (s, false)
  | .name folds pattern => return (s, fitsName folds pattern (nameIn e.path))
  | .path folds pattern => return (s, fitsName folds pattern e.path)
  | .target folds pattern =>
    match e.node.body with
    | .link target => return (s, fitsName folds pattern target.bytes.toText)
    | _ => return (s, false)
  | .fits r m =>
    return (s, (Regex.ends m r.hasReference r { position := 0, before := none, rest := e.path }).any
      fun c => c.rest.isEmpty)
  | .kind letters => return (s, letters.contains (kindLetter e.node))
  | .kindBehind letters => do
    let f ← Work.files
    let n := ((f.node (pathOf e.path)).toOption).getD e.node
    return (s, letters.contains (kindLetter n))
  | .size unit a => return (s, a.holds ((e.node.size + unit - 1) / unit))
  | .empty =>
    return (s, (e.node.isRegular && e.node.size = 0) ||
      (e.node.isDirectory && e.node.entries.isEmpty))
  | .changedAfter time => return (s, decide (time < e.node.changed))
  | .age unit a => do
    let f ← Work.files
    return (s, a.holds ((f.now - e.node.changed) / (unit * Calendar.second)))
  | .mode how mode =>
    let common := Nat.land e.node.mode mode
    return (s, match how with
      | .same => e.node.mode = mode
      | .all => common = mode
      | .any => common ≠ 0 || mode = 0)
  | .names a => do
    let f ← Work.files
    return (s, a.holds (Listing.linkCount f e.number))
  | .number a => return (s, a.holds e.number)
  | .may bit => do
    let f ← Work.files
    return (s, ((f.node (pathOf e.path)).toOption.map fun n => n.permits bit).getD false)
  | .print ending => do
    Work.say (e.path ++ [ending])
    return (s, true)
  | .printTo path ending => do
    let _ ← Work.change fun f => do
      let (number, f) ← f.openForWriting (pathOf path) { truncates := false }
      return ((), f.writeAt number (f.get number).size (e.path ++ [ending]).toBytes)
    return (s, true)
  | .printAs format => do
    let f ← Work.files
    let (t, _) := formatted f e (format.length + 1) format
    Work.say t
    return (s, true)
  | .run isInside asks words => do
    let shown := if isInside then "./".toList ++ nameIn e.path else e.path
    let words := words.map fun w => Running.replaced ['\x7b', '\x7d'] shown (w.length + 1) w
    let isFine ← if asks then ask words e.path else pure true
    if !isFine then return (s, false)
    else if isInside then return (s, ← runInside e.path words)
    else return (s, ← runCommand words)
  | .runAll index _ => return ({ s with gathered := (index, e.path) :: s.gathered }, true)
  | .delete => remove e s
  | .prune => return ({ s with pruned := true }, true)
  | .quit => return ({ s with done := true }, true)

def holds (e : Entry) : Condition → State → Work (State × Bool)
  | .check c, s => if s.done then return (s, false) else judge e s c
  | .not a, s => do
    let (s, b) ← holds e a s
    return (s, !b)
  | .and a b, s => do
    let (s, x) ← holds e a s
    if x && !s.done then holds e b s else return (s, false)
  | .or a b, s => do
    let (s, x) ← holds e a s
    if x || s.done then return (s, x) else holds e b s
  | .after a b, s => do
    let (s, _) ← holds e a s
    holds e b s

/-- Works out a condition for what it does. -/
def visit (e : Entry) (c : Condition) (s : State) : Work State := do
  let (s, _) ← holds e c s
  return s

def meet (f : Files) (follows : Bool) (path : Text) : Except Cause (Nat × Node) :=
  match f.number follows (pathOf path) with
  | .ok number => .ok (number, f.get number)
  | .error cause =>
    match f.number false (pathOf path) with
    | .ok number => if follows then .ok (number, f.get number) else .error cause
    | .error cause => .error cause

def walk (p : Plan) (c : Condition) : Nat → Text → Nat → Text → State → Work State
  | 0, _, _, _, s => return s
  | fuel + 1, start, depth, path, s => do
    if s.done then return s
    else
      let f ← Work.files
      match meet f (p.follows || (depth = 0 && p.followsOperands)) path with
      | .error cause => do
        Work.complain (quoted path ++ ": ".toList ++ reason cause)
        return { s with status := 1 }
      | .ok (number, node) => do
        let e : Entry := { path, start, depth, number, node }
        let isShown := p.least ≤ depth
        let s := { s with pruned := false }
        let s ← if isShown && !p.depthFirst then visit e c s else pure s
        let isDeep := (p.most.map fun m => decide (m ≤ depth)).getD false
        let s ←
          if !node.isDirectory || isDeep || s.done || (s.pruned && !p.depthFirst) then pure s
          else if !node.permits Mode.read then do
            Work.complain (quoted path ++ ": Permission denied".toList)
            pure { s with status := 1 }
          else
            walkAll fuel start (depth + 1)
              (node.entries.map fun entry => Manage.inside path entry.1.toText) s
        if isShown && p.depthFirst && !s.done then visit e c s else return s
where
  walkAll (fuel : Nat) (start : Text) (depth : Nat) : List Text → State → Work State
    | [], s => return s
    | path :: rest, s => do
      let s ← walk p c fuel start depth path s
      walkAll fuel start depth rest s

def Condition.commands : Condition → List (Nat × List Text)
  | .check (.runAll index words) => [(index, words)]
  | .check _ => []
  | .not a => a.commands
  | .and a b => a.commands ++ b.commands
  | .or a b => a.commands ++ b.commands
  | .after a b => a.commands ++ b.commands

def runGathered (s : State) : List (Nat × List Text) → Nat → Work Nat
  | [], status => return status
  | (index, words) :: rest, status => do
    let paths := (s.gathered.reverse.filter fun g => g.1 = index).map Prod.snd
    if paths.isEmpty then runGathered s rest status
    else do
      let isFine ← runCommand (words.dropLast ++ paths)
      runGathered s rest (if isFine then status else 1)

def Condition.badDirectives (f : Files) : Condition → List Char
  | .check (.printAs format) =>
    (formatted f { path := [], start := [], depth := 0, number := 0, node := f.get 0 }
      (format.length + 1) format).2
  | .check _ => []
  | .not a => a.badDirectives f
  | .and a b => a.badDirectives f ++ b.badDirectives f
  | .or a b => a.badDirectives f ++ b.badDirectives f
  | .after a b => a.badDirectives f ++ b.badDirectives f

def startsCondition (t : Text) : Bool :=
  match t with
  | '-' :: _ :: _ => true
  | ['('] => true
  | ['!'] => true
  | _ => false

def leading : Plan → List Text → Plan × List Text
  | p, word :: rest =>
    match String.ofList word with
    | "-H" => leading { p with follows := false, followsOperands := true } rest
    | "-L" => leading { p with follows := true } rest
    | "-P" => leading { p with follows := false, followsOperands := false } rest
    | "--" => (p, rest)
    | _ => (p, word :: rest)
  | p, [] => (p, [])

def walkOperands (p : Plan) (c : Condition) : List Text → State → Work State
  | [], s => return s
  | path :: rest, s => do
    let f ← Work.files
    let s ← walk p c (f.nodes.size + 2) path 0 path s
    walkOperands p c rest s

def find : Work Nat := do
  let q ← Work.request
  let (plan, arguments) := leading {} q.arguments
  let paths := arguments.takeWhile fun t => !startsCondition t
  let words := arguments.drop paths.length
  let f ← Work.files
  match (condition f words).run { plan, rest := words } with
  | .error message => Work.fail 1 message
  | .ok (c, r) => do
    for d in c.badDirectives f do
      Work.complain ("warning: unrecognized format directive `%".toList ++ [d, '\''])
    let whole := if c.hasAction then c else .and c (.check (.print '\n'))
    let paths : List Text := if paths.isEmpty then [['.']] else paths
    let s ← walkOperands r.plan whole paths {}
    runGathered s whole.commands s.status

end Finding

end Tool

end Proctor
