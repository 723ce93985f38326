import Proctor.Machine.Builtin.Basic

/-!
# Commands about what a shell knows

Its switches and parameters, its variables and functions, its aliases, and the options of a script.
-/

set_option autoImplicit false

namespace Proctor

namespace Machine

open Shell Tool

namespace Builtin

def adopting (t : Turn) : Except Text Context → Turn
  | .ok c => (t.withContext c).withStatus 0
  | .error message => t.refuse message

def sorted {α : Type} (entries : List (Text × α)) : List (Text × α) :=
  entries.mergeSort fun a b => decide (String.ofList a.1 ≤ String.ofList b.1)

def listVariables (start : String) (c : Context) (isListed : Variable → Bool) : Text :=
  (sorted (c.bindings.filter fun v => isListed v.2)).flatMap fun (name, v) =>
    let value := (v.value.map fun value => '=' :: quoted value).getD []
    start.toList ++ name ++ value ++ ['\n']

/-- A shell without a terminal cannot watch over jobs. Only the first shell tries to. -/
def withoutMonitor (t : Turn) : Turn :=
  if t.context.has 'm' && t.process.pid = t.context.pid then
    (t.withContext { t.context with options := Switch.turn false 'm' t.context.options }).complain
      "can't access tty; job control turned off".toList
  else t

def set (t : Turn) (args : List Text) : Turn :=
  let t := t.withStatus 0
  if args.isEmpty then t.say (listVariables "" t.context fun v => v.value.isSome)
  else
    let o := Switch.read false (args.length + 1) { options := t.context.options, rest := args }
    let t := withoutMonitor ((t.withContext { t.context with options := o.options }).say o.printed)
    match o.fault with
    | some fault => t.refuse fault
    | none =>
      if o.rest.isEmpty && !o.clears then t else t.withContext (t.context.withValues o.rest)

def shift (t : Turn) (args : List Text) : Turn :=
  match count args 1 with
  | .error message => t.refuse message
  | .ok n =>
    if t.context.values.length < n then t.refuse "can't shift that many".toList
    else (t.withContext (t.context.withValues (t.context.values.drop n))).withStatus 0

def assignTo (c : Context) (argument : Text) : Except Text (Text × Context) :=
  let (name, value?) := Text.cutAt (· == '=') argument
  if !Text.isName name then .error (name ++ ": bad variable name".toList)
  else
    match value? with
    | some value =>
      if c.isFrozen name then .error (Trouble.readOnly name).message
      else .ok (name, c.setVariable name value)
    | none => .ok (name, c)

/-- Assigns what the arguments say and does something more to each name; without arguments, lists
the variables to which it has been done. -/
def mark (word : String) (isMarked : Variable → Bool) (more : Context → Text → Context) :
    Turn → List Text → Turn :=
  withOptions "p" fun t given =>
    if !given.options.isEmpty || given.rest.isEmpty then
      (t.withStatus 0).say (listVariables (word ++ " ") t.context isMarked)
    else
      adopting t (given.rest.foldlM (fun c argument => do
        let (name, c) ← assignTo c argument
        return more c name) t.context)

def unset : Turn → List Text → Turn :=
  withOptions "vf" fun t given =>
    let functions := (given.options.getLast?.map Prod.fst) == some 'f'
    let drop (c : Context) (name : Text) : Except Text Context :=
      if functions then .ok { c with functions := c.functions.filter fun f => f.1 ≠ name }
      else if !Text.isName name then .error (name ++ ": bad variable name".toList)
      else if c.isFrozen name then .error (Trouble.readOnly name).message
      else .ok (c.unsetVariable name)
    adopting t (given.rest.foldlM drop t.context)

def keepOld (name : Text) (old : Option Variable) (options : Option (List Char)) :
    List Frame → List Frame
  | [] => []
  | .leave parameters locals before :: rest =>
    let locals :=
      if options.isSome || (locals.lookup name).isSome then locals else locals ++ [(name, old)]
    .leave parameters locals (before.orElse fun _ => options) :: rest
  | frame :: rest => frame :: keepOld name old options rest

def local_ (t : Turn) (args : List Text) : Turn :=
  let keep (t : Turn) (argument : Text) : Except Text Turn :=
    if argument = ['-'] then
      .ok (t.withStack (keepOld [] none (some t.context.options) t.shell.stack))
    else do
      let (name, c) ← assignTo t.context argument
      let old := t.context.lookup name
      let t := t.withStack (keepOld name old none t.shell.stack)
      return t.withContext c
  if !t.shell.stack.any Turn.isCall then t.refuse "not in a function".toList
  else
    match args.foldlM keep t with
    | .ok t => t.withStatus 0
    | .error message => t.refuse message

/-! ### Aliases -/

/-- The size of the table that aliases are kept in. -/
def aliasPlaces : Nat := 39

def aliasLine (name value : Text) : Text := name ++ '=' :: quoted value ++ ['\n']

def alias_ (t : Turn) (args : List Text) : Turn :=
  let t := t.withStatus 0
  let one (t : Turn) (argument : Text) : Turn :=
    match Text.cutAt (· == '=') argument.tail with
    | (_, none) =>
      match t.context.aliases.lookup argument with
      | some value => t.say (aliasLine argument value)
      | none => (t.write 2 ("alias: ".toList ++ argument ++ " not found\n".toList)).withStatus 1
    | (name, some value) =>
      let name := argument.take 1 ++ name
      let old := t.context.aliases
      let aliases :=
        if (old.lookup name).isSome then
          old.map fun a => if a.1 = name then (name, value) else a
        else old ++ [(name, value)]
      t.withContext { t.context with aliases }
  if args.isEmpty then
    t.say ((Context.inPlaces aliasPlaces t.context.aliases).flatMap fun (n, v) => aliasLine n v)
  else args.foldl one t

def unalias : Turn → List Text → Turn :=
  withOptions "a" fun t given =>
    let t := t.withStatus 0
    let one (t : Turn) (name : Text) : Turn :=
      if (t.context.aliases.lookup name).isSome then
        t.withContext
          { t.context with aliases := t.context.aliases.filter fun a => a.1 ≠ name }
      else (t.write 2 ("unalias: ".toList ++ name ++ " not found\n".toList)).withStatus 1
    if given.options.isEmpty then given.rest.foldl one t
    else t.withContext { t.context with aliases := [] }

/-! ### Options of a script -/

def optionKind : Text → Char → Option Bool
  | [], _ => none
  | c :: ':' :: rest, letter => if c = letter then some true else optionKind rest letter
  | c :: rest, letter => if c = letter then some false else optionKind rest letter

structure Found where
  letter : Char
  argument : Option Text := none
  message : Option Text := none
  next : Nat
  offset : Option Nat := none
  isEnd : Bool := false

def findLetter (accepted : Text) (args : List Text) (next : Nat) (word rest : Text) : Found :=
  match rest with
  | [] => { letter := '?', next, isEnd := true }
  | c :: more =>
    let quiet := accepted.head? == some ':'
    let offset : Option Nat := some (word.length - more.length)
    match optionKind accepted c with
    | none =>
      if quiet then { letter := '?', argument := some [c], next, offset }
      else
        { letter := '?', message := some ("Illegal option -".toList ++ [c, '\n']), next, offset }
    | some false => { letter := c, argument := some [], next, offset }
    | some true =>
      if !more.isEmpty then { letter := c, argument := some more, next }
      else
        match args[next - 1]? with
        | some argument => { letter := c, argument := some argument, next := next + 1 }
        | none =>
          if quiet then { letter := ':', argument := some [c], next }
          else
            { letter := '?'
              message := some ("No arg for -".toList ++ c :: " option\n".toList)
              next }

def findOption (accepted : Text) (args : List Text) (p : Parameters) : Found :=
  let next := p.nextOption
  let word := if next ≤ 1 then [] else args[next - 2]?.getD []
  let rest :=
    match p.optionOffset with
    | some offset => if offset ≤ word.length then word.drop offset else []
    | none => []
  if !rest.isEmpty then findLetter accepted args next word rest
  else
    match args[next - 1]? with
    | some ['-', '-'] => { letter := '?', next := next + 1, isEnd := true }
    | some ('-' :: c :: more) =>
      findLetter accepted args (next + 1) ('-' :: c :: more) (c :: more)
    | _ => { letter := '?', next, isEnd := true }

def getopts : Turn → List Text → Turn :=
  withOptions "" fun t given =>
    match given.rest with
    | accepted :: name :: rest =>
      let p := t.context.parameters
      let args := if rest.isEmpty then p.values else rest
      let p :=
        if args.length + 1 < p.nextOption then { p with nextOption := 1, optionOffset := none }
        else p
      let found := findOption accepted args p
      let t :=
        match found.message with
        | some message => t.write 2 message
        | none => t
      let c := t.context
      let c :=
        if found.isEnd then c
        else
          match found.argument with
          | some value => c.setVariable "OPTARG".toList value
          | none => c.unsetVariable "OPTARG".toList
      let c := c.setVariable "OPTIND".toList (Text.ofNat found.next)
      let c := { c with parameters :=
        { p with nextOption := found.next, optionOffset := found.offset } }
      let status := if found.isEnd then 1 else 0
      if !Text.isName name then t.refuse (name ++ ": bad variable name".toList)
      else if c.isFrozen name then t.refuse (Trouble.readOnly name).message
      else (t.withContext (c.setVariable name [found.letter])).withStatus status
    | _ => t.refuse "Usage: getopts optstring var [arg...]".toList

/-! ### Reading -/

abbrev Read := Char × Bool

def separates (c : Context) (r : Read) : Bool := !r.2 && c.separators.contains r.1

def isBlankRead (c : Context) (r : Read) : Bool := separates c r && Splitter.isBlank r.1

def afterField (c : Context) (rest : List Read) : List Read :=
  let rest := rest.dropWhile (isBlankRead c)
  match rest with
  | r :: more => if separates c r then more.dropWhile (isBlankRead c) else rest
  | [] => []

def assignLine (c : Context) (names : List Text) (line : List Read) : Context :=
  let line := line.dropWhile (isBlankRead c)
  let field := line.takeWhile fun r => !separates c r
  let rest := afterField c (line.drop field.length)
  match names with
  | [] => c
  | [name] =>
    let trimmed := (line.reverse.dropWhile (isBlankRead c)).reverse
    c.setVariable name ((if rest.isEmpty then field else trimmed).map Prod.fst)
  | name :: more => assignLine (c.setVariable name (field.map Prod.fst)) more rest

def read : Turn → List Text → Turn :=
  withOptions "p:r" fun t given =>
    let raw := given.options.any fun o => o.1 == 'r'
    if given.rest.isEmpty then t.refuse "arg count".toList
    else t.push [.readLine given.rest raw [] false]

def endLine (t : Turn) (names : List Text) (line : List Read) (status : Nat) : Turn :=
  let wrong (message : Text) : Turn := (t.complain ("read: ".toList ++ message)).withStatus 2
  match names.find? fun name => !Text.isName name || t.context.isFrozen name with
  | some name =>
    if Text.isName name then wrong (Trouble.readOnly name).message
    else wrong (name ++ ": bad variable name".toList)
  | none => (t.withContext (assignLine t.context names line)).withStatus status

def addToLine (raw : Bool) : List Read → Bool → Text → List Read × Bool × Nat × Bool
  | line, escaped, [] => (line, escaped, 0, false)
  | line, escaped, c :: rest =>
    if c == '\x00' then
      let (line, escaped, n, ended) := addToLine raw line escaped rest
      (line, escaped, n + 1, ended)
    else if escaped then
      let line := if c == '\n' then line else (c, true) :: line
      let (line, escaped, n, ended) := addToLine raw line false rest
      (line, escaped, n + 1, ended)
    else if c == '\\' && !raw then
      let (line, escaped, n, ended) := addToLine raw line true rest
      (line, escaped, n + 1, ended)
    else if c == '\n' then (line, false, 1, true)
    else
      let (line, escaped, n, ended) := addToLine raw ((c, false) :: line) false rest
      (line, escaped, n + 1, ended)

/-- Reads what there is of a line, which is kept last character first. -/
def readMore (t : Turn) (names : List Text) (raw : Bool) (line : List Read) (escaped : Bool) :
    Turn :=
  let ends : Turn := (endLine t names line.reverse 1).checked
  match t.channel? 0 with
  | none => ends
  | some channel =>
    match t.machine.supply channel with
    | .later => t.push [.readLine names raw line escaped]
    | .none => ends
    | .refused _ => ends
    | .some text =>
      let (line, escaped, used, ended) := addToLine raw line escaped text
      let t := { t with machine := t.machine.take channel used }
      if ended then (endLine t names line.reverse 0).checked
      else t.push [.readLine names raw line escaped]

end Builtin

end Machine

end Proctor
