import Proctor.Machine.Builtin
import Proctor.Shell.Parser

/-!
# Simple commands

What the first word of a simple command stands for, and how the command is carried out once all its
words are known. The name `command` passes functions by, and takes away what is special about a
command.
-/

set_option autoImplicit false

namespace Proctor

namespace Machine

open Shell Tool

namespace Command

structure Target where
  name : Text
  arguments : List Text
  /-- Functions are passed by. -/
  isPlain : Bool := false
  /-- Programs are looked for in the usual places, whatever the script says. -/
  usualPath : Bool := false

/-- The options and the words after `command`, up to the command that it is about. Nothing if it is
about no command, or only asks for what a name stands for. -/
def passBy (usualPath : Bool) : List Text → Option Target
  | [] => none
  | ['-', '-'] :: rest =>
    match rest with
    | [] => none
    | name :: arguments => some { name, arguments, isPlain := true, usualPath }
  | ('-' :: c :: more) :: rest =>
    if (c :: more).all (· == 'p') then passBy true rest else none
  | name :: arguments => some { name, arguments, isPlain := true, usualPath }

def targetOf (c : Context) : Nat → Target → Target
  | 0, target => target
  | fuel + 1, target =>
    let isFunction := !target.isPlain && (c.functions.lookup target.name).isSome
    if !isFunction && target.name = "command".toList then
      match passBy target.usualPath target.arguments with
      | some next => targetOf c fuel next
      | none => target
    else target

def target? (c : Context) : List Text → Option Target
  | [] => none
  | name :: arguments =>
    some (targetOf c (arguments.length + 1) { name, arguments })

def function? (c : Context) (target : Target) : Option Shell.Command :=
  if target.isPlain then none else c.functions.lookup target.name

def isDeclaring (c : Context) (fields : List Text) : Bool :=
  match target? c fields with
  | none => false
  | some target =>
    Builtin.declaring.contains (String.ofList target.name) && (function? c target).isNone

/-- Whether assignments before the command stay, and its failure ends the shell. -/
def isSpecial (c : Context) (fields : List Text) : Bool :=
  match fields with
  | [] => false
  | name :: _ => Builtin.isSpecial name && (c.functions.lookup name).isNone

def complete (t : Turn) (p : Progress) : Turn := (t.undo (.completed p.before p.lent)).checked

/-! ### Names -/

inductive Meaning where
  | keyword
  | alias_ (value : Text)
  | function
  | special
  | own
  | program (path : Text) (isTracked : Bool)

def meaning? (t : Turn) (path name : Text) : Option Meaning :=
  let key := String.ofList name
  if reserved.contains key then some .keyword
  else if let some value := t.context.aliases.lookup name then some (.alias_ value)
  else if (t.context.functions.lookup name).isSome then some .function
  else if Builtin.isSpecial name then some .special
  else if Builtin.isKnown name then some .own
  else if let some path := t.context.tracked.lookup name then some (.program path true)
  else if name.contains '/' then
    if t.files.isPresent ⟨name.toBytes⟩ then some (.program name false) else none
  else
    match Turn.placesOf t.files path name with
    | .ok (place :: _) => some (.program place false)
    | _ => none

def track (t : Turn) (name place : Text) : Turn :=
  if name.contains '/' || (t.context.tracked.lookup name).isSome then t
  else t.withContext { t.context with tracked := t.context.tracked ++ [(name, place)] }

def describe (inWords : Bool) (path : Text) (t : Turn) (name : Text) : Turn :=
  let say (what : Text) (short : Text) : Turn :=
    t.say ((if inWords then name ++ what else short) ++ ['\n'])
  match meaning? t path name with
  | some .keyword => say " is a shell keyword".toList name
  | some (.alias_ value) =>
    if inWords then say (" is an alias for ".toList ++ value) []
    else t.say ("alias ".toList ++ Builtin.aliasLine name value)
  | some .function => say " is a shell function".toList name
  | some .special => say " is a special shell builtin".toList name
  | some .own => say " is a shell builtin".toList name
  | some (.program place true) => say (" is a tracked alias for ".toList ++ place) place
  | some (.program place false) => track (say (" is ".toList ++ place) place) name place
  | none => (if inWords then t.say (name ++ ": not found\n".toList) else t).withStatus 127

def type (t : Turn) (names : List Text) : Turn :=
  names.foldl (describe true t.searched) (t.withStatus 0)

def command : Turn → List Text → Turn :=
  Builtin.withOptions "pvV" fun t given =>
    let has (c : Char) : Bool := given.options.any fun o => o.1 == c
    let path := if has 'p' then (String.intercalate ":" searchPath).toList else t.searched
    match given.rest with
    | name :: _ => if has 'v' || has 'V' then describe (has 'V') path (t.withStatus 0) name else t
    | [] => t.withStatus 0

/-- The size of the table that found programs are kept in. -/
def trackedPlaces : Nat := 31

def hash : Turn → List Text → Turn :=
  Builtin.withOptions "r" fun t given =>
    let t := t.withStatus 0
    let one (t : Turn) (name : Text) : Turn :=
      if Builtin.isKnown name || (t.context.functions.lookup name).isSome then t
      else
        match Turn.placesOf t.files t.searched name with
        | .ok (place :: _) => track t name place
        | _ => (t.complain (name ++ ": not found".toList)).withStatus 1
    if !given.options.isEmpty then t.withContext { t.context with tracked := [] }
    else if given.rest.isEmpty then
      t.say ((Context.inPlaces trackedPlaces t.context.tracked).flatMap fun e => e.2 ++ ['\n'])
    else given.rest.foldl one t

/-! ### Carrying out -/

def isLast (t : Turn) : Bool :=
  t.shell.stack.isEmpty && !t.shell.keepsItself && t.shell.traps.all fun trap => trap.2.isEmpty

def places (t : Turn) (target : Target) : Except Cause (List Text) :=
  if target.name.contains '/' then .ok [target.name]
  else
    let path := if target.usualPath then (String.intercalate ":" searchPath).toList else t.searched
    Turn.placesOf t.files path target.name

def runProgram (t : Turn) (p : Progress) (target : Target) : Turn :=
  let call : Call :=
    { name := target.name
      arguments := target.arguments
      environment := t.context.environment }
  let wrong (t : Turn) (cause : Cause) (status : Nat) : Turn :=
    let message := target.name ++ ": ".toList ++ Turn.runReason cause
    complete ((t.complain message).withStatus status) p
  match places t target with
  | .error cause => wrong t cause 127
  | .ok places =>
    let t := track t target.name (places.headD [])
    match Turn.loadAt t.files call .notFound places with
    | .error cause => wrong t cause (Turn.runStatus cause)
    | .ok task =>
      if isLast t then { t with become := some task }
      else
        let task := task.located t.machine.fresh t.process.pid
        let (child, t) := t.spawn task t.process.descriptors loadCost
        (t.undo (.completed p.before p.lent)).push [.await [child] child, .completed none []]

def callFunction (t : Turn) (p : Progress) (body : Shell.Command) (arguments : List Text) : Turn :=
  let old := t.context.parameters
  (t.withContext (t.context.withValues arguments)).push
    [.run body, .leave old [] none, .completed p.before p.lent]

def eval (t : Turn) (p : Progress) (isGuarded : Bool) (args : List Text) : Turn :=
  let caller := t.context.caller
  let guard : List Frame := if isGuarded then [.guarded caller] else []
  ((t.withStatus 0).withCaller (some "eval".toList)).push
    ([.script { rest := joinWith [' '] args }, .evaluated caller] ++ guard ++
      [.completed p.before p.lent])

def findSource (t : Turn) (name : Text) : Option Text :=
  if name.contains '/' then some name
  else (candidates t.searched name).find? fun place => t.files.isFile ⟨Text.toBytes place⟩

def source (t : Turn) (p : Progress) (isGuarded : Bool) (args : List Text) : Turn :=
  let caller := t.context.caller
  let own := t.withCaller (some ['.'])
  let wrong (message : Text) : Turn :=
    let t := (own.complain message).withCaller caller
    if isGuarded then complete (t.withStatus 2) p else t.giveUp 2
  match Builtin.readOptions [] args with
  | .error message => wrong message
  | .ok given =>
    match given.rest with
    | [] => complete (t.withStatus 0) p
    | name :: _ =>
      match findSource t name with
      | none => wrong (name ++ ": not found".toList)
      | some file =>
        let guard : List Frame := if isGuarded then [.guarded caller] else []
        let text : Except Cause Bytes := t.files.content ⟨file.toBytes⟩
        match text with
        | .error cause =>
          if cause = .isDirectory then complete (t.withStatus 0) p
          else wrong ("cannot open ".toList ++ file ++ ": ".toList ++ openReason false cause)
        | .ok content =>
          ((t.withStatus 0).withCaller (some file)).push
            ([.script { rest := content.toText, isShown := true }, .sourced caller] ++ guard ++
              [.completed p.before p.lent])

def exec (t : Turn) (p : Progress) (args : List Text) : Turn :=
  match args with
  | [] => complete (t.withStatus 0) { p with before := none }
  | name :: arguments =>
    let call : Call := { name, arguments, environment := t.context.environment }
    let wrong (cause : Cause) : Turn :=
      let caller := t.context.caller
      let t := (t.withCaller (some "exec".toList)).complain
        (name ++ ": ".toList ++ Turn.runReason cause)
      (t.withCaller caller).exit (Turn.runStatus cause)
    let places := if name.contains '/' then [name] else candidates t.searched name
    match Turn.loadAt t.files call .notFound places with
    | .ok task => { t with become := some task }
    | .error cause => wrong cause

def runOwn (t : Turn) (p : Progress) (isSpecial : Bool) (name : Text)
    (act : Turn → List Text → Turn) (args : List Text) : Turn :=
  let caller := t.context.caller
  let isBare := p.before.isNone && p.lent.isEmpty
  let t := if isBare then t else t.push [.completed p.before p.lent]
  let t := (act (t.withCaller (some name)) args).flush name
  let failed := t.failed
  let t := { t.withCaller caller with failed := false }
  if failed && isSpecial then t.giveUp 2
  else if isBare then t.checked
  else t

def carryOut (t : Turn) (p : Progress) : Turn :=
  match target? t.context p.fields with
  | none => complete (t.withStatus (p.answered.getD 0)) p
  | some target =>
    let isSpecial := isSpecial t.context p.fields
    match function? t.context target with
    | some body => callFunction t p body target.arguments
    | none =>
      let args := target.arguments
      match String.ofList target.name with
      | "eval" => eval t p (!isSpecial) args
      | "." => source t p (!isSpecial) args
      | "exec" => exec t p args
      | "command" => runOwn t p false target.name command args
      | "type" => runOwn t p false target.name type args
      | "hash" => runOwn t p false target.name hash args
      | name =>
        match Builtin.table.lookup name with
        | some act => runOwn t p isSpecial target.name act args
        | none => runProgram t p target

end Command

end Machine

end Proctor
