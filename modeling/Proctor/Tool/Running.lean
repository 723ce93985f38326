import Proctor.Shell.Condition
import Proctor.Signal
import Proctor.Tool.Manage

/-!
# Tools that run other programs

They change something first, such as the environment or the time that may be taken, and then put a
program in their place or run it as a child. With them stand the tools that only wait or only
decide.
-/

set_option autoImplicit false

namespace Proctor

namespace Tool

open Shell

namespace Running

open Plain (helpOptions)

def statusFor (cause : Cause) : Nat :=
  if cause = .notFound || cause = .notDirectory then 127 else 126

def become (before : String) (call : Call) : Work Nat := do
  Work.flush
  let cause ← Work.ask (.become call)
  Work.complain (before.toList ++ shellQuoted call.name ++ ": ".toList ++ reason cause)
  return statusFor cause

/-! ### Time -/

/-- Nanoseconds that a text asks for: a number that may have a fraction, and a unit. -/
def duration? (t : Text) : Option (Option Nat) :=
  match Quantity.read? t with
  | none => none
  | some found =>
    let unit? : Option Nat :=
      match found.rest with
      | [] => some 1
      | ['s'] => some 1
      | ['m'] => some 60
      | ['h'] => some 3600
      | ['d'] => some 86400
      | _ => none
    match unit?, found.value with
    | none, _ => none
    | some _, .infinite false => some none
    | some unit, .finite negative size =>
      let (n, d) := size.ratio
      if negative && 0 < n then none
      else if (t.head?.map Quantity.isSpace).getD false then none
      else some (some ((n * unit * Calendar.second + d - 1) / d))
    | _, _ => none

def forever : Nat := 1000000000000000000

def sleep : Work Nat := do
  let a ← Work.arguments { letters := "", names := helpOptions }
  if a.operands.isEmpty then Work.misuse 1 "missing operand".toList
  let times := a.operands.map duration?
  for operand in a.operands do
    if (duration? operand).isNone then
      Work.complain ("invalid time interval ".toList ++ quoted operand)
  if times.any Option.isNone then do
    let q ← Work.request
    let _ ← Work.writeTo 2 ("Try '" ++ q.name ++ " --help' for more information.\n").toList
    return 1
  else do
    let total := times.foldl (fun n t => n + ((t.getD none).getD forever)) 0
    Work.act (.pause total)
    return 0

structure Deadline where
  signal : Nat
  limit : Option Nat
  killAfter : Option Nat
  keepsStatus : Bool
  alone : Bool
  tells : Bool

def tellSignal (d : Deadline) (signal : Nat) (command : Text) : Work Unit := do
  if d.tells then
    Work.complain ("sending signal ".toList ++ (Signal.name signal).toList ++
      " to command ".toList ++ quoted command)

def strike (d : Deadline) (child signal : Nat) : Work Unit := do
  if d.alone then do
    let _ ← Work.ask (Act.signal child signal)
  else Work.act (.signalBelow signal)
  let _ ← Work.ask (Act.signal child Signal.continue_)

def endAs (d : Deadline) (isLate : Bool) (status : Status) : Work Nat :=
  match status.signal? with
  | none => return if isLate && !d.keepsStatus then 124 else status.exitCode
  | some signal =>
    if isLate then
      if signal = Signal.kill then Work.ask fun _ => .die Signal.kill
      else return if d.keepsStatus then status.exitCode else 124
    else Work.ask fun _ => .die signal

def await (d : Deadline) (child : Nat) (command : Text) : Work Nat := do
  match ← Work.ask (.await child d.limit) with
  | some status => endAs d false status
  | none => do
    tellSignal d d.signal command
    strike d child d.signal
    if d.signal = Signal.kill then do
      let _ ← Work.ask (.await child none)
      Work.ask fun _ => .die Signal.kill
    else
      match ← Work.ask (.await child d.killAfter) with
      | some status => endAs d true status
      | none => do
        tellSignal d Signal.kill command
        strike d child Signal.kill
        let _ ← Work.ask (.await child none)
        Work.ask fun _ => .die Signal.kill

def timeout : Work Nat := do
  let q ← Work.request
  let a ← Work.arguments
    { letters := "k:s:v"
      names := [⟨"kill-after", "k", .something⟩, ⟨"signal", "s", .something⟩,
        ⟨"verbose", "v", .nothing⟩, ⟨"foreground", "f", .nothing⟩,
        ⟨"preserve-status", "p", .nothing⟩] ++ helpOptions
      optionsFirst := true } 125
  let refuse {α : Type} (message : Text) : Work α := Work.misuse 125 message
  let time (t : Text) : Work (Option Nat) :=
    match duration? t with
    | none => refuse ("invalid time interval ".toList ++ quoted t)
    | some (some 0) => pure none
    | some limit => pure limit
  let killAfter ←
    match a.get? "k" with
    | none => pure none
    | some t => time t
  let signal ←
    match a.get? "s" with
    | none => pure Signal.terminate
    | some t =>
      let name := if "SIG".toList.isPrefixOf (t.map Char.toUpper) then t.drop 3 else t
      match Signal.ofText? name with
      | some n => pure n
      | none => refuse (quoted t ++ ": invalid signal".toList)
  match a.operands with
  | limit :: command :: arguments => do
    let limit ← time limit
    let call : Call := { name := command, arguments, environment := q.environment }
    match ← Work.ask (.start call []) with
    | .error cause => do
      Work.complain ("failed to run command ".toList ++ shellQuoted command ++ ": ".toList ++
        reason cause)
      return statusFor cause
    | .ok child =>
      await { signal, limit, killAfter, keepsStatus := a.has "p", alone := a.has "f"
              tells := a.has "v" } child command
  | _ => do
    let _ ← Work.writeTo 2 ("Try '" ++ q.name ++ " --help' for more information.\n").toList
    return 125

/-! ### Environment -/

def wordsOf : Nat → Option Char → Option Text → Text → List Text
  | 0, _, _, _ => []
  | _, _, word, [] => (word.map List.reverse).toList
  | fuel + 1, some q, word, c :: rest =>
    if c == q then wordsOf fuel none (some (word.getD [])) rest
    else if c == '\\' && q == '"' then
      match rest with
      | d :: rest => wordsOf fuel (some q) (some (d :: word.getD [])) rest
      | [] => wordsOf fuel (some q) word []
    else wordsOf fuel (some q) (some (c :: word.getD [])) rest
  | fuel + 1, none, word, c :: rest =>
    if c == ' ' || c == '\t' || c == '\n' then
      (word.map List.reverse).toList ++ wordsOf fuel none none rest
    else if c == '\'' || c == '"' then wordsOf fuel (some c) (some (word.getD [])) rest
    else if c == '\\' then
      match rest with
      | d :: rest => wordsOf fuel none (some (d :: word.getD [])) rest
      | [] => wordsOf fuel none word []
    else wordsOf fuel none (some (c :: word.getD [])) rest

def bound (name value : Text) (environment : List (Text × Text)) : List (Text × Text) :=
  if environment.any fun e => e.1 = name then
    environment.map fun e => if e.1 = name then (name, value) else e
  else environment ++ [(name, value)]

def spread : List Text → List Text
  | [] => []
  | ('-' :: 'S' :: c :: more) :: rest => wordsOf (more.length + 3) none none (c :: more) ++ rest
  | ['-', 'S'] :: words :: rest => wordsOf (words.length + 2) none none words ++ rest
  | arguments => arguments

def assignments : List Text → List (Text × Text) × List Text
  | [] => ([], [])
  | t :: rest =>
    match Text.cutAt (· == '=') t with
    | (name, some value) =>
      let (more, command) := assignments rest
      ((name, value) :: more, command)
    | (_, none) => ([], t :: rest)

def env : Work Nat := do
  let q ← Work.request
  let usage : Usage :=
    { letters := "+iu:0C:vS:"
      names := [⟨"ignore-environment", "i", .nothing⟩, ⟨"unset", "u", .something⟩,
        ⟨"null", "0", .nothing⟩, ⟨"chdir", "C", .something⟩, ⟨"debug", "v", .nothing⟩,
        ⟨"split-string", "S", .something⟩] ++ helpOptions
      optionsFirst := true }
  let given := spread q.arguments
  let a ←
    match usage.read (given.length + 1) given with
    | .ok a => pure a
    | .error message => Work.misuse 125 message
  let dashed := a.operands.head? == some ['-']
  let operands := if dashed then a.operands.tail else a.operands
  let (added, command) := assignments operands
  let start := if a.has "i" || dashed then [] else q.environment
  for name in a.getAll "u" do
    if name.isEmpty || name.contains '=' then
      Work.fail 125 ("cannot unset ".toList ++ quoted name ++ ": Invalid argument".toList)
  let kept := start.filter fun e => !(a.getAll "u").contains e.1
  let environment := added.foldl (fun e (name, value) => bound name value e) kept
  match command with
  | [] =>
    if a.has "C" then Work.misuse 125 "must specify command with --chdir (-C)".toList
    else do
      let stop : Text := if a.has "0" then ['\x00'] else ['\n']
      Work.say (environment.flatMap fun (name, value) => name ++ '=' :: value ++ stop)
      return 0
  | name :: arguments => do
    if a.has "0" then Work.misuse 125 "cannot specify --null (-0) with command".toList
    if let some dir := a.get? "C" then do
      let f ← Work.files
      match f.number true (pathOf dir) with
      | .ok number =>
        if (f.get number).isDirectory then Work.act (.enter number)
        else Work.fail 125 ("cannot change directory to ".toList ++ shellQuoted dir ++
          ": ".toList ++ reason .notDirectory)
      | .error cause =>
        Work.fail 125 ("cannot change directory to ".toList ++ shellQuoted dir ++ ": ".toList ++
          reason cause)
    become "" { name, arguments, environment }

def nohup : Work Nat := do
  let q ← Work.request
  let a ← Work.arguments { letters := "", names := helpOptions, optionsFirst := true } 125
  match a.operands with
  | [] => Work.misuse 125 "missing operand".toList
  | name :: arguments => do
    Work.act (.ignore 1)
    become "failed to run command " { name, arguments, environment := q.environment }

def nice : Work Nat := do
  let q ← Work.request
  let numeric : Bool :=
    match q.arguments with
    | ('-' :: rest) :: _ => (Text.integer? rest).isSome
    | _ => false
  let usage : Usage :=
    { letters := "n:", names := ⟨"adjustment", "n", .something⟩ :: helpOptions
      optionsFirst := true }
  let arguments := if numeric then q.arguments.tail else q.arguments
  let a ←
    match usage.read (arguments.length + 1) arguments with
    | .ok a => pure a
    | .error message => Work.misuse 125 message
  if let some n := a.get? "n" then
    if (Text.integer? n).isNone then Work.fail 125 ("invalid adjustment ".toList ++ quoted n)
  match a.operands with
  | [] =>
    if numeric || a.has "n" then
      Work.misuse 125 "a command must be given with an adjustment".toList
    else do
      Work.say ['0', '\n']
      return 0
  | name :: arguments => become "" { name, arguments, environment := q.environment }

def plainly (usage : Usage) : Work Nat := do
  let q ← Work.request
  let a ← Work.arguments { usage with optionsFirst := true } 125
  match a.operands with
  | [] => Work.misuse 125 "missing operand".toList
  | name :: arguments =>
    become "failed to run command " { name, arguments, environment := q.environment }

def stdbuf : Work Nat :=
  plainly
    { letters := "i:o:e:"
      names := [⟨"input", "i", .something⟩, ⟨"output", "o", .something⟩,
        ⟨"error", "e", .something⟩] ++
        helpOptions }

def setsid : Work Nat := do
  let q ← Work.request
  let a ← Work.arguments
    { letters := "cfw", names := [⟨"wait", "w", .nothing⟩, ⟨"fork", "f", .nothing⟩] ++ helpOptions
      optionsFirst := true }
  match a.operands with
  | [] => Work.misuse 1 "no command specified".toList
  | name :: arguments =>
    become "failed to execute " { name, arguments, environment := q.environment }

/-! ### Finding programs -/

def which : Work Nat := do
  let q ← Work.request
  let options := q.arguments.takeWhile fun t =>
    t.head? == some '-' && 1 < t.length && t ≠ ['-', '-']
  let names := (q.arguments.drop options.length).dropWhile (· == ['-', '-'])
  let letters := options.flatMap List.tail
  match letters.find? fun c => c ≠ 'a' && c ≠ 's' with
  | some c => do
    let _ ← Work.writeTo 2 ("Illegal option -".toList ++ [c, '\n'])
    Work.say "Usage: /usr/bin/which [-as] args\n".toList
    return 2
  | none =>
    if names.isEmpty then return 1
    else do
      let path := (q.environment.lookup "PATH".toList).getD []
      let f ← Work.files
      let runs (t : Text) : Bool :=
        match f.node (pathOf t) with
        | .ok n => n.isRegular && n.permits Mode.search
        | .error _ => false
      let places (name : Text) : List Text :=
        if name.contains '/' then [name]
        else
          (Text.split ':' path).map fun dir => (if dir.isEmpty then ['.'] else dir) ++ '/' :: name
      let found := names.map fun name => if name.isEmpty then [] else (places name).filter runs
      let shown := if letters.contains 'a' then found else found.map (·.take 1)
      if !letters.contains 's' then Work.say (unlines shown.flatten)
      return if found.any List.isEmpty then 1 else 0

/-! ### Deciding -/

def testFault (args : List Text) (message : Text) : Text :=
  match args with
  | [a, b] =>
    if Condition.isUnary a then message
    else "missing argument after ".toList ++ quoted b
  | [_, b, _] => quoted b ++ ": binary operator expected".toList
  | _ => message

def leftOver? (f : Files) (args : List Text) : Option Text :=
  if args.length < 4 then none
  else
    match Condition.disjunction f (4 * args.length + 8) args with
    | .ok (_, _ :: extra :: _) => some extra
    | _ => none

def judge (args : List Text) : Work Nat := do
  let f ← Work.files
  match Condition.answer f (args.length + 8) args with
  | .ok b => return if b then 0 else 1
  | .error message =>
    if let some extra := leftOver? f args then
      Work.fail 2 ("extra argument ".toList ++ quoted extra)
    let illegal := "Illegal number: ".toList
    if illegal.isPrefixOf message then
      Work.fail 2 ("invalid integer ".toList ++ quoted (message.drop illegal.length))
    else Work.fail 2 (testFault args message)

def test : Work Nat := do
  judge (← Work.request).arguments

def bracket : Work Nat := do
  let q ← Work.request
  if q.arguments.getLast? == some [']'] then judge q.arguments.dropLast
  else Work.fail 2 "missing ']'".toList

/-! ### Signals -/

def kill : Work Nat := do
  let q ← Work.request
  let plainName (t : Text) : Text :=
    if "SIG".toList.isPrefixOf (t.map Char.toUpper) then t.drop 3 else t
  let send (signal : Nat) (pids : List Text) : Work Nat :=
    Manage.forEach pids fun pid => do
      match Text.decimal? pid with
      | none => do
        Work.complain ("failed to parse argument: ".toList ++ quoted pid)
        return false
      | some n => do
        let isSent ← Work.ask (Act.signal n signal)
        if !isSent then Work.complain ('(' :: pid ++ "): No such process".toList)
        return isSent
  let named (name : Text) (pids : List Text) : Work Nat :=
    match Signal.ofText? (plainName name) with
    | some n => send n pids
    | none => Work.fail 1 ("unknown signal name ".toList ++ name)
  match q.arguments with
  | ['-', 's'] :: name :: pids => named name pids
  | ['-', 'l'] :: name :: _ =>
    match Text.decimal? name with
    | some n => do
      Work.say ((Signal.name n).toList ++ ['\n'])
      return 0
    | none => do
      Work.say (((Signal.ofText? name).map Text.ofNat).getD [] ++ ['\n'])
      return 0
  | ['-', '-'] :: pids => send Signal.terminate pids
  | ('-' :: c :: name) :: pids => named (c :: name) pids
  | [] => return 1
  | pids => send Signal.terminate pids

/-! ### Arguments from the input -/

structure Gathering where
  /-- The character between arguments, or blanks and lines. -/
  separator : Option Char := none
  most : Option Nat := none
  mostLines : Option Nat := none
  /-- What stands for a whole line. -/
  mark : Option Text := none
  stopsAt : Option Text := none
  tells : Bool := false
  skipsNothing : Bool := false

structure Item where
  text : Text
  endsLine : Bool

def words (wholeLines : Bool) : Nat → Option Char → Option Text → Text → List Item × Option Char
  | 0, _, _, _ => ([], none)
  | _, some q, _, [] => ([], some q)
  | _, none, word, [] => ((word.map fun w => ⟨w.reverse, true⟩).toList, none)
  | fuel + 1, some q, word, c :: rest =>
    if c == '\n' then ([], some q)
    else if c == q then words wholeLines fuel none (some (word.getD [])) rest
    else words wholeLines fuel (some q) (some (c :: word.getD [])) rest
  | fuel + 1, none, word, c :: rest =>
    if c == '\'' || c == '"' then words wholeLines fuel (some c) (some (word.getD [])) rest
    else if c == '\\' then
      match rest with
      | d :: rest => words wholeLines fuel none (some (d :: word.getD [])) rest
      | [] => words wholeLines fuel none word []
    else if c == '\n' || (!wholeLines && (c == ' ' || c == '\t')) then
      let (more, opened) := words wholeLines fuel none none rest
      ((word.map fun w => ⟨w.reverse, c == '\n'⟩).toList ++ more, opened)
    else if wholeLines && word.isNone && (c == ' ' || c == '\t') then
      words wholeLines fuel none none rest
    else words wholeLines fuel none (some (c :: word.getD [])) rest

def separated (separator : Char) (t : Text) : List Item :=
  let parts := Text.split separator t
  let parts := if parts.getLast? == some [] then parts.dropLast else parts
  parts.map fun p => ⟨p, true⟩

def groups (n : Nat) : Nat → List Item → List (List Item)
  | 0, _ => []
  | _, [] => []
  | fuel + 1, items => items.take n :: groups n fuel (items.drop n)

def takeLines : Nat → List Item → List Item × List Item
  | 0, items => ([], items)
  | _, [] => ([], [])
  | n + 1, item :: rest =>
    let (first, others) := takeLines (if item.endsLine then n else n + 1) rest
    (item :: first, others)

def lineGroups (n : Nat) : Nat → List Item → List (List Item)
  | 0, _ => []
  | _, [] => []
  | fuel + 1, items =>
    let (first, others) := takeLines n items
    first :: lineGroups n fuel others

def replaced (mark by_ : Text) : Nat → Text → Text
  | 0, t => t
  | _, [] => []
  | fuel + 1, c :: rest =>
    if !mark.isEmpty && mark.isPrefixOf (c :: rest) then
      by_ ++ replaced mark by_ fuel ((c :: rest).drop mark.length)
    else c :: replaced mark by_ fuel rest

def commands (g : Gathering) (command : List Text) (items : List Item) : List (List Text) :=
  match g.mark, g.mostLines, g.most with
  | some mark, _, _ =>
    items.map fun item => command.map fun word => replaced mark item.text (word.length + 1) word
  | none, some n, _ => (lineGroups n (items.length + 1) items).map fun group =>
      command ++ group.map Item.text
  | none, none, some n => (groups n (items.length + 1) items).map fun group =>
      command ++ group.map Item.text
  | none, none, none => (groups 5000 (items.length + 1) items).map fun group =>
      command ++ group.map Item.text

def runAll (g : Gathering) (environment : List (Text × Text)) (empty : Nat) :
    List (List Text) → Nat → Work Nat
  | [], status => return status
  | line :: rest, status => do
    if g.tells then do
      let _ ← Work.writeTo 2 (Plain.joined [' '] (line.map nameOf) ++ ['\n'])
    let name := line.headD []
    let call : Call := { name, arguments := line.tail, environment }
    Work.flush
    match ← Work.ask (.start call [(0, some empty)]) with
    | .error cause => do
      Work.complain (name ++ ": ".toList ++ reason cause)
      return statusFor cause
    | .ok child => do
      let ended := (← Work.ask (.await child none)).getD (.exited 0)
      match ended.signal?, ended.exitCode with
      | some signal, _ => do
        Work.complain (name ++ ": terminated by signal ".toList ++ Text.ofNat signal)
        return 125
      | none, 255 => do
        Work.complain (name ++ ": exited with status 255; aborting".toList)
        return 124
      | none, 0 => runAll g environment empty rest status
      | none, _ => runAll g environment empty rest 123

def separatorOf (t : Text) : Char :=
  match t with
  | ['\\', c] => (Escape.letter? c).getD c
  | c :: _ => c
  | [] => '\x00'

def countFor (letter : Char) (t : Text) : Work Nat :=
  match Text.decimal? t with
  | none => Work.misuse 1 ("invalid number \"".toList ++ t ++ "\" for -".toList ++ letter ::
      " option".toList)
  | some 0 => Work.misuse 1 ("value 0 for -".toList ++ letter :: " option should be >= 1".toList)
  | some n => pure n

inductive Limit where
  | arguments
  | lines
  | marks
  deriving DecidableEq, Repr

def Limit.name : Limit → String
  | .arguments => "--max-args"
  | .lines => "--max-lines"
  | .marks => "--replace"

/-- The limit that is set last. One that is given up is mentioned, but a single argument for each
command may be asked for beside a mark. -/
def chosenLimit : Option Limit → List (String × Text) → Work (Option Limit)
  | chosen, [] => return chosen
  | chosen, (key, value) :: rest => do
    let next : Option (Limit × String) :=
      match key with
      | "n" =>
        if chosen = some .marks && value = ['1'] then none
        else some (.arguments, "--max-args/-n")
      | "L" => some (.lines, "-L")
      | "l" => some (.lines, "--max-lines/-l")
      | "I" => some (.marks, "--replace/-I/-i")
      | "i" => some (.marks, "--replace/-I/-i")
      | _ => none
    match next with
    | none => chosenLimit chosen rest
    | some (limit, name) => do
      if let some old := chosen then
        if old ≠ limit then
          Work.complain ("warning: options " ++ old.name ++ " and " ++ name ++
            " are mutually exclusive, ignoring previous " ++ old.name ++ " value").toList
      chosenLimit (some limit) rest

def xargs : Work Nat := do
  let q ← Work.request
  let a ← Work.arguments
    { letters := "0a:d:E:e::I:i::L:l::n:oprs:tP:x"
      names := [⟨"null", "0", .nothing⟩, ⟨"arg-file", "a", .something⟩,
        ⟨"delimiter", "d", .something⟩, ⟨"eof", "e", .maybe⟩, ⟨"replace", "i", .maybe⟩,
        ⟨"max-lines", "l", .maybe⟩, ⟨"max-args", "n", .something⟩, ⟨"interactive", "p", .nothing⟩,
        ⟨"no-run-if-empty", "r", .nothing⟩, ⟨"max-chars", "s", .something⟩,
        ⟨"verbose", "t", .nothing⟩, ⟨"max-procs", "P", .something⟩, ⟨"exit", "x", .nothing⟩,
        ⟨"open-tty", "o", .nothing⟩] ++ helpOptions
      optionsFirst := true }
  let count (key : String) (letter : Char) : Work (Option Nat) :=
    match a.get? key with
    | none => pure none
    | some t => do return some (← countFor letter t)
  let most ← count "n" 'n'
  let byLines ← count "L" 'L'
  let byLines ←
    match a.get? "l" with
    | some (c :: t) => do pure (some (← countFor 'l' (c :: t)))
    | some [] => pure (some 1)
    | none => pure byLines
  let mark : Option Text :=
    match a.lastOf ["I", "i"] with
    | some "I" => a.get? "I"
    | some _ => some (match a.get? "i" with
      | some (c :: t) => c :: t
      | _ => "\x7b\x7d".toList)
    | none => none
  let chosen ← chosenLimit none a.options
  let mark := if chosen = some .marks then mark else none
  let g : Gathering :=
    { separator := match a.lastOf ["0", "d"] with
        | some "0" => some '\x00'
        | some _ => some (separatorOf ((a.get? "d").getD []))
        | none => none
      most := if chosen = some .arguments then most else none
      mostLines := if chosen = some .lines then byLines else none
      mark, tells := a.has "t" || a.has "p", skipsNothing := !a.has "r"
      stopsAt := match a.get? "E", a.get? "e" with
        | some t, _ => some t
        | none, some (c :: t) => some (c :: t)
        | none, _ => none }
  let result ←
    match a.get? "a" with
    | some path => Work.readFile path
    | none => Work.input
  match result with
  | .error cause =>
    match a.get? "a" with
    | some path => Work.fail 1 ("Cannot open input file ".toList ++ quoted path ++ ": ".toList ++
        reason cause)
    | none => Work.fail 1 ("read error: ".toList ++ reason cause)
  | .ok text => do
    let (items, opened) : List Item × Option Char :=
      match g.separator with
      | some c => (separated c text, none)
      | none => words g.mark.isSome (text.length + 1) none none text
    let items := match g.stopsAt, g.separator with
      | some stop, none => items.takeWhile fun i => i.text ≠ stop
      | _, _ => items
    if let some c := opened then
      Work.complain (("unmatched " ++ (if c == '"' then "double" else "single") ++ " quote; by " ++
        "default quotes are special to xargs unless you use the -0 option").toList)
    let command := if a.operands.isEmpty then ["echo".toList] else a.operands
    let lines :=
      if items.isEmpty && g.mark.isNone then
        if g.skipsNothing && opened.isNone then [command] else []
      else commands g command items
    let empty ← Work.ask (Act.open_ "/dev/null".toList)
    let status ← runAll g q.environment ((empty.toOption).getD 0) lines 0
    return if opened.isSome then 1 else status

end Running

end Tool

end Proctor
