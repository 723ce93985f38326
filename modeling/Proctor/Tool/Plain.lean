import Proctor.Shell.Escape
import Proctor.Tool.Options

/-!
# Tools that only print

They print their arguments, parts of paths, their environment, or something about the machine.
-/

set_option autoImplicit false

namespace Proctor

namespace Tool

open Shell

namespace Plain

def helpOptions : List Named := [⟨"help", "help", .nothing⟩, ⟨"version", "version", .nothing⟩]

def joined (separator : Text) : List Text → Text
  | [] => []
  | [t] => t
  | t :: rest => t ++ separator ++ joined separator rest

/-! ### Arguments -/

def undoEscapes : Nat → Text → Text × Bool
  | 0, t => (t, true)
  | _, [] => ([], true)
  | fuel + 1, '\\' :: rest =>
    let go (c : Char) (rest : Text) : Text × Bool :=
      let (more, goesOn) := undoEscapes fuel rest
      (c :: more, goesOn)
    match rest with
    | 'c' :: _ => ([], false)
    | '0' :: after =>
      let digits := (after.take 3).takeWhile Escape.isOctal
      go (Escape.octal digits) (after.drop digits.length)
    | 'x' :: after =>
      let digits := (after.take 2).takeWhile fun c => (Quantity.hexDigit? c).isSome
      if digits.isEmpty then go '\\' rest
      else
        go (Char.ofNat (digits.foldl (fun n c => n * 16 + (Quantity.hexDigit? c).getD 0) 0))
          (after.drop digits.length)
    | c :: after =>
      let digits := (rest.take 3).takeWhile Escape.isOctal
      if !digits.isEmpty then go (Escape.octal digits) (rest.drop digits.length)
      else
        match Escape.letter? c with
        | some d => go d after
        | none => go '\\' rest
    | [] => (['\\'], true)
  | fuel + 1, c :: rest =>
    let (more, goesOn) := undoEscapes fuel rest
    (c :: more, goesOn)

/-- The arguments after those that are nothing but options, the switches for no line end and for
escapes. -/
def echoOptions : Bool → Bool → List Text → Bool × Bool × List Text
  | silent, escapes, ('-' :: c :: more) :: rest =>
    let letters := c :: more
    if letters.all fun c => "neE".toList.contains c then
      let escapes := letters.foldl (fun e c => if c == 'e' then true else if c == 'E' then false
        else e) escapes
      echoOptions (silent || letters.contains 'n') escapes rest
    else (silent, escapes, ('-' :: c :: more) :: rest)
  | silent, escapes, rest => (silent, escapes, rest)

def echo : Work Nat := do
  let q ← Work.request
  let (silent, escapes, args) := echoOptions false false q.arguments
  let text := joined [' '] args
  let (text, goesOn) := if escapes then undoEscapes (text.length + 1) text else (text, true)
  Work.say (if silent || !goesOn then text else text ++ ['\n'])
  return 0

def numberFault (message : Text) : Text :=
  let (name, what) := Text.cutAt (· == ':') message
  let what := (what.getD []).drop 1
  let said : String :=
    if what = "expected numeric value".toList then "expected a numeric value"
    else if what = "not completely converted".toList then "value not completely converted"
    else String.ofList what
  quoted name ++ ": ".toList ++ said.toList

def printf : Work Nat := do
  let q ← Work.request
  match if q.arguments.head? == some ['-', '-'] then q.arguments.tail else q.arguments with
  | [] => Work.misuse 1 "missing operand".toList
  | format :: args => do
    let printed := Format.print format args
    for message in printed.errors do
      if printed.stopped then Work.complain (message.takeWhile (· ≠ ':') ++
        ": invalid conversion specification".toList)
      else Work.complain (numberFault message)
    Work.say printed.output
    if !printed.used && !args.isEmpty && !printed.stopped then
      Work.complain ("warning: ignoring excess arguments, starting with ".toList ++
        quoted (args.headD []))
    return if printed.status = 0 then 0 else 1

def repeating (text : Text) : Nat → Work Nat
  | 0 => return 0
  | fuel + 1 => do
    match ← Work.writeTo 1 text with
    | none => repeating text fuel
    | some cause => Work.fail 1 ("standard output: ".toList ++ reason cause)

def yes : Work Nat := do
  let a ← Work.arguments { letters := "", names := helpOptions }
  let line := (if a.operands.isEmpty then ['y'] else joined [' '] a.operands) ++ ['\n']
  repeating (List.replicate (Work.holding / line.length + 1) line).flatten Work.readLimit

/-! ### Paths -/

def isSlash (c : Char) : Bool := c == '/'

def withoutSlashes (t : Text) : Text :=
  match (t.reverse.dropWhile isSlash).reverse with
  | [] => if t.isEmpty then [] else ['/']
  | t => t

def lastPart (t : Text) : Text :=
  let t := withoutSlashes t
  if t = ['/'] then t else (t.reverse.takeWhile (!isSlash ·)).reverse

def firstParts (t : Text) : Text :=
  let t := withoutSlashes t
  if t = ['/'] then t
  else
    match t.reverse.dropWhile (!isSlash ·) with
    | [] => ['.']
    | rest =>
      match (rest.dropWhile isSlash).reverse with
      | [] => ['/']
      | dir => dir

def withoutSuffix (suffix t : Text) : Text :=
  if suffix.isSuffixOf t && suffix.length < t.length then t.take (t.length - suffix.length) else t

def ending (a : Arguments) : Text := if a.has "z" then ['\x00'] else ['\n']

def basename : Work Nat := do
  let a ← Work.arguments
    { letters := "as:z"
      names := [⟨"multiple", "a", .nothing⟩, ⟨"suffix", "s", .something⟩,
        ⟨"zero", "z", .nothing⟩] ++
        helpOptions
      optionsFirst := true }
  let many := a.has "a" || a.has "s"
  match a.operands, many with
  | [], _ => Work.misuse 1 "missing operand".toList
  | names, true => do
    Work.say (names.flatMap fun n =>
      withoutSuffix ((a.get? "s").getD []) (lastPart n) ++ ending a)
    return 0
  | _ :: _ :: extra :: _, false => Work.misuse 1 ("extra operand ".toList ++ quoted extra)
  | name :: rest, false => do
    Work.say (withoutSuffix (rest.headD []) (lastPart name) ++ ending a)
    return 0

def dirname : Work Nat := do
  let a ← Work.arguments
    { letters := "z", names := ⟨"zero", "z", .nothing⟩ :: helpOptions, optionsFirst := true }
  if a.operands.isEmpty then Work.misuse 1 "missing operand".toList
  Work.say (a.operands.flatMap fun n => firstParts n ++ ending a)
  return 0

def workingDirectory (f : Files) : Text :=
  ((f.pathTo? f.here).map fun p => p.bytes.toText).getD ['/']

def pwd : Work Nat := do
  let a ← Work.arguments
    { letters := "LP"
      names := [⟨"logical", "L", .nothing⟩, ⟨"physical", "P", .nothing⟩] ++ helpOptions }
  if !a.operands.isEmpty then Work.complain "ignoring non-option arguments".toList
  let q ← Work.request
  let f ← Work.files
  let known := (q.environment.lookup "PWD".toList).filter fun t =>
    t.head? == some '/' && (f.number true (pathOf t)).toOption == some f.here
  let logical := a.lastOf ["L", "P"] == some "L"
  Work.say ((if logical then known.getD (workingDirectory f) else workingDirectory f) ++ ['\n'])
  return 0

/-! ### Environment and machine -/

def printenv : Work Nat := do
  let a ← Work.arguments
    { letters := "0", names := ⟨"null", "0", .nothing⟩ :: helpOptions, optionsFirst := true } 2
  let q ← Work.request
  let stop : Text := if a.has "0" then ['\x00'] else ['\n']
  if a.operands.isEmpty then do
    Work.say (q.environment.flatMap fun (name, value) => name ++ '=' :: value ++ stop)
    return 0
  else do
    let values := a.operands.map fun name => q.environment.lookup name
    Work.say (values.flatMap fun v => (v.map (· ++ stop)).getD [])
    return if values.all Option.isSome then 0 else 1

def whoami : Work Nat := do
  let a ← Work.arguments { letters := "", names := helpOptions }
  if let some extra := a.operands.head? then
    Work.misuse 1 ("extra operand ".toList ++ quoted extra)
  Work.say "root\n".toList
  return 0

def id : Work Nat := do
  let a ← Work.arguments
    { letters := "agnruGzZ"
      names := [⟨"user", "u", .nothing⟩, ⟨"group", "g", .nothing⟩, ⟨"groups", "G", .nothing⟩,
        ⟨"name", "n", .nothing⟩, ⟨"real", "r", .nothing⟩, ⟨"zero", "z", .nothing⟩] ++ helpOptions }
  let name := a.operands.headD "root".toList
  if name ≠ "root".toList && name ≠ ['0'] then
    Work.fail 1 (quoted name ++ ": no such user".toList)
  let isShort := a.has "u" || a.has "g" || a.has "G"
  if !isShort && (a.has "n" || a.has "r") then
    Work.fail 1 "printing only names or real IDs requires -u, -g, or -G".toList
  if !isShort then Work.say "uid=0(root) gid=0(root) groups=0(root)\n".toList
  else Work.say ((if a.has "n" then "root" else "0") ++ "\n").toList
  return 0

def uname : Work Nat := do
  let a ← Work.arguments
    { letters := "asnrvmpio"
      names := [⟨"all", "a", .nothing⟩, ⟨"kernel-name", "s", .nothing⟩, ⟨"nodename", "n", .nothing⟩,
        ⟨"kernel-release", "r", .nothing⟩, ⟨"kernel-version", "v", .nothing⟩,
        ⟨"machine", "m", .nothing⟩, ⟨"operating-system", "o", .nothing⟩] ++ helpOptions }
  if let some extra := a.operands.head? then
    Work.misuse 1 ("extra operand ".toList ++ quoted extra)
  let parts := [("s", "Linux"), ("n", "localhost"), ("r", "6.1.0"), ("v", "#1 SMP"),
    ("m", "x86_64"), ("o", "GNU/Linux")]
  let chosen := if a.options.isEmpty then [("s", "Linux")]
    else parts.filter fun p => a.has "a" || a.has p.1
  Work.say (joined [' '] (chosen.map fun p => p.2.toList) ++ ['\n'])
  return 0

def constant (text : String) (status : Nat := 0) : Work Nat := do
  Work.say text.toList
  return status

def quiet (status : Nat) : Work Nat := return status

end Plain

end Tool

end Proctor
