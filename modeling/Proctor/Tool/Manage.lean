import Proctor.Tool.Calendar
import Proctor.Tool.Permission
import Proctor.Tool.Plain

/-!
# Tools that make and remove files

Each works through its operands, complains about those it cannot handle, and goes on with the rest.
-/

set_option autoImplicit false

namespace Proctor

namespace Tool

open Shell

namespace Manage

open Plain (helpOptions)

def inside (dir name : Text) : Text :=
  if dir.getLast? == some '/' then dir ++ name else dir ++ '/' :: name

def cannot (what : String) (path : Text) (cause : Cause) : Work Unit :=
  Work.complain (what.toList ++ ' ' :: shellQuoted path ++ ": ".toList ++ reason cause)

/-- Does something for each operand; the status is one if any of them failed. -/
def forEach (operands : List Text) (f : Text → Work Bool) : Work Nat :=
  go operands 0
where
  go : List Text → Nat → Work Nat
    | [], status => return status
    | x :: rest, status => do
      let isFine ← f x
      go rest (if isFine then status else 1)

def confirm (question : Text) : Work Bool := do
  let q ← Work.request
  let _ ← Work.writeTo 2 (q.name.toList ++ ": ".toList ++ question)
  match ← Work.readPart 0 with
  | .ok part => do
    let line := part.takeWhile (· ≠ '\n')
    Work.giveBack 0 (part.length - (line.length + 1))
    return line.head? == some 'y' || line.head? == some 'Y'
  | .error _ => return false

/-! ### Directories -/

def parentsFirst (t : Text) : List Text :=
  let pieces := Text.split '/' t
  let isPart (p : Text) : Bool := !p.isEmpty
  go [] pieces |>.filter fun p => isPart (p.filter (· ≠ '/'))
where
  go (before : Text) : List Text → List Text
    | [] => []
    | [p] => if p.isEmpty then [] else [before ++ p]
    | p :: rest => (if p.isEmpty then [] else [before ++ p]) ++ go (before ++ p ++ ['/']) rest

def makeAll (verbose : Bool) (mode : Option Text) (path : Text) : List Text → Work Bool
  | [] => do
    if path.isEmpty then do
      cannot "cannot create directory" path .notFound
      return false
    else return true
  | p :: rest => do
    let f ← Work.files
    let wanted (f : Files) : Nat :=
      match mode, rest with
      | some text, [] =>
        (Permission.mode? { mode := 0o777, isDirectory := true, mask := f.mask } text).getD 0o777
      | _, _ => Mode.directory
    let quiet (f : Files) : Files := if mode.isSome && rest.isEmpty then { f with mask := 0 } else f
    match ← Work.change_ fun f => (quiet f).makeDirectory (pathOf p) (wanted f) with
    | .ok () => do
      if verbose then do
        let q ← Work.request
        Work.say (q.name.toList ++ ": created directory ".toList ++ shellQuoted p ++ ['\n'])
      makeAll verbose mode path rest
    | .error cause =>
      if f.isDirectory (pathOf p) then makeAll verbose mode path rest
      else do
        let cause : Cause :=
          if cause = .alreadyExists && !rest.isEmpty then .notDirectory else cause
        cannot "cannot create directory" (if rest.isEmpty then path else p) cause
        return false

def makeOne (verbose : Bool) (mode : Option Text) (path : Text) : Work Bool := do
  let wanted (f : Files) : Nat :=
    match mode with
    | some text =>
      (Permission.mode? { mode := 0o777, isDirectory := true, mask := f.mask } text).getD 0o777
    | none => Mode.directory
  let quiet (f : Files) : Files := if mode.isSome then { f with mask := 0 } else f
  match ← Work.change_ fun f => (quiet f).makeDirectory (pathOf path) (wanted f) with
  | .ok () => do
    if verbose then do
      let q ← Work.request
      Work.say (q.name.toList ++ ": created directory ".toList ++ shellQuoted path ++ ['\n'])
    return true
  | .error cause => do
    cannot "cannot create directory" path cause
    return false

def checkMode (mode : Option Text) : Work Unit := do
  if let some text := mode then
    if (Permission.mode? { mode := 0o777 } text).isNone then
      Work.fail 1 ("invalid mode ".toList ++ quoted text)

def mkdir : Work Nat := do
  let a ← Work.arguments
    { letters := "pm:vZ"
      names := [⟨"parents", "p", .nothing⟩, ⟨"mode", "m", .something⟩,
        ⟨"verbose", "v", .nothing⟩] ++
        helpOptions }
  if a.operands.isEmpty then Work.misuse 1 "missing operand".toList
  let mode := a.get? "m"
  checkMode mode
  forEach a.operands fun path =>
    if a.has "p" then makeAll (a.has "v") mode path (parentsFirst path)
    else makeOne (a.has "v") mode path

def pathsAbove : Nat → Text → List Text
  | 0, _ => []
  | fuel + 1, t =>
    let above := ((Plain.withoutSlashes t).reverse.dropWhile (!Plain.isSlash ·)).dropWhile
      Plain.isSlash
    if above.isEmpty then [] else above.reverse :: pathsAbove fuel above.reverse

def rmdir : Work Nat := do
  let a ← Work.arguments
    { letters := "pv"
      names := [⟨"parents", "p", .nothing⟩, ⟨"verbose", "v", .nothing⟩,
        ⟨"ignore-fail-on-non-empty", "i", .nothing⟩] ++ helpOptions }
  if a.operands.isEmpty then Work.misuse 1 "missing operand".toList
  let q ← Work.request
  let announce (path : Text) : Work Unit := do
    if a.has "v" then Work.say (q.name.toList ++ ": removing directory, ".toList ++
      shellQuoted path ++ ['\n'])
  forEach a.operands fun path => do
    announce path
    match ← Work.change_ fun f => f.removeDirectory (pathOf path) with
    | .error cause =>
      if cause = .notEmpty && a.has "i" then return true
      else do
        cannot "failed to remove" path cause
        return false
    | .ok () =>
      if a.has "p" then above announce (a.has "i") (pathsAbove (path.length + 1) path)
      else return true
where
  above (announce : Text → Work Unit) (ignore : Bool) : List Text → Work Bool
    | [] => return true
    | path :: rest => do
      announce path
      match ← Work.change_ fun f => f.removeDirectory (pathOf path) with
      | .ok () => above announce ignore rest
      | .error cause =>
        if cause = .notEmpty && ignore then return true
        else do
          cannot "failed to remove directory" path cause
          return false

/-! ### Removing -/

structure Removal where
  recursive : Bool
  force : Bool
  directories : Bool
  verbose : Bool
  asks : Bool

def kindOf (node : Node) : String :=
  match node.body with
  | .directory .. => "directory"
  | .link _ => "symbolic link"
  | .file [] => "regular empty file"
  | .file _ => "regular file"
  | .program _ => "regular file"
  | .pipe => "fifo"
  | _ => "character special file"

mutual

/-- Removes a path; true if that worked or need not be told. -/
def removePath (r : Removal) : Nat → Text → Work Bool
  | 0, _ => return false
  | fuel + 1, path => do
    let f ← Work.files
    match f.nodeItself (pathOf path) with
    | .error cause =>
      if r.force && (cause = .notFound || cause = .notDirectory) then return true
      else do
        cannot "cannot remove" path cause
        return false
    | .ok node =>
      if node.isDirectory && r.recursive then removeDirectory r fuel node path
      else if node.isDirectory && r.directories then removeEmpty r path
      else do
        let goes ← if r.asks then confirm (("remove " ++ kindOf node ++ " ").toList ++
          shellQuoted path ++ "? ".toList) else pure true
        if !goes then return true
        else
          match ← Work.change_ fun f => f.unlink (pathOf path) with
          | .ok () => do
            if r.verbose then Work.say ("removed ".toList ++ shellQuoted path ++ ['\n'])
            return true
          | .error cause => do
            cannot "cannot remove" path cause
            return false

def removeDirectory (r : Removal) (fuel : Nat) (node : Node) (path : Text) : Work Bool := do
  let inner := node.entries.map fun e => inside path e.1.toText
  let goes ← if r.asks && !inner.isEmpty then confirm ("descend into directory ".toList ++
    shellQuoted path ++ "? ".toList) else pure true
  if !goes then return true
  else if !node.permits Mode.read && !inner.isEmpty then do
    cannot "cannot remove" path .accessDenied
    return false
  else do
    let isFine ← removeAll r fuel inner
    if isFine then removeEmpty r path else return false

def removeAll (r : Removal) (fuel : Nat) : List Text → Work Bool
  | [] => return true
  | path :: rest => do
    match fuel with
    | 0 => return false
    | fuel + 1 => do
      let first ← removePath r fuel path
      let others ← removeAll r fuel rest
      return first && others

def removeEmpty (r : Removal) (path : Text) : Work Bool := do
  let goes ← if r.asks then confirm ("remove directory ".toList ++ shellQuoted path ++
    "? ".toList) else pure true
  if !goes then return true
  else
    match ← Work.change_ fun f => f.removeDirectory (pathOf path) with
    | .ok () => do
      if r.verbose then Work.say ("removed directory ".toList ++ shellQuoted path ++ ['\n'])
      return true
    | .error cause => do
      cannot "cannot remove" path cause
      return false

end

def rm : Work Nat := do
  let q ← Work.request
  let usage : Usage :=
    { letters := "dfirvIR"
      names := [⟨"force", "f", .nothing⟩, ⟨"recursive", "r", .nothing⟩, ⟨"dir", "d", .nothing⟩,
        ⟨"verbose", "v", .nothing⟩, ⟨"interactive", "i", .maybe⟩,
        ⟨"no-preserve-root", "N", .nothing⟩, ⟨"preserve-root", "P", .maybe⟩,
        ⟨"one-file-system", "o", .nothing⟩] ++ helpOptions }
  let a ←
    match usage.read (q.arguments.length + 1) q.arguments with
    | .ok a => pure a
    | .error message => do
      let f ← Work.files
      let dashed := q.arguments.find? fun t =>
        t.head? == some '-' && 1 < t.length && (f.nodeItself (pathOf t)).toBool
      let advice : Text :=
        match dashed with
        | some t => "\nTry '".toList ++ q.name.toList ++ " ./".toList ++ t ++
            "' to remove the file ".toList ++ shellQuoted t ++ ['.']
        | none => []
      Work.misuse 1 (message ++ advice)
  let force := a.lastOf ["f", "i"] == some "f"
  if a.operands.isEmpty then
    if force then Work.exit 0 else Work.misuse 1 "missing operand".toList
  let r : Removal :=
    { recursive := a.has "r" || a.has "R", force, directories := a.has "d", verbose := a.has "v"
      asks := a.lastOf ["f", "i"] == some "i" }
  forEach a.operands fun path => do
    let last := Plain.lastPart path
    if r.recursive && (last = ['.'] || last = ['.', '.']) then do
      Work.complain ("refusing to remove '.' or '..' directory: skipping ".toList ++
        shellQuoted path)
      return false
    else if r.recursive && last = ['/'] && !a.has "N" then do
      Work.complain ("it is dangerous to operate recursively on ".toList ++ shellQuoted path)
      Work.complain "use --no-preserve-root to override this failsafe".toList
      return false
    else do
      let f ← Work.files
      removePath r (2 * f.nodes.size + 2) path

def unlink : Work Nat := do
  let a ← Work.arguments { letters := "", names := helpOptions }
  match a.operands with
  | [] => Work.misuse 1 "missing operand".toList
  | [path] => do
    match ← Work.change_ fun f => f.unlink (pathOf path) with
    | .ok () => return 0
    | .error cause => do
      cannot "cannot unlink" path cause
      return 1
  | _ :: extra :: _ => Work.misuse 1 ("extra operand ".toList ++ quoted extra)

/-! ### Permissions -/

structure ModeChange where
  /-- The mode that is asked for, given what the file has. -/
  wanted : Permission.Setting → Nat
  /-- The mode without regard to the mask, where that should be the same. -/
  naive : Option (Permission.Setting → Nat) := none
  recursive : Bool := false
  /-- Tells about every file, or about those that change. -/
  tells : Bool := false
  tellsChanges : Bool := false
  quiet : Bool := false

def chmodPath (c : ModeChange) : Nat → Text → Work Bool
  | 0, _ => return false
  | fuel + 1, path => do
    let f ← Work.files
    match f.number true (pathOf path) with
    | .error cause => do
      if !c.quiet then do
        if cause = .notFound && (f.nodeItself (pathOf path)).toBool then
          Work.complain ("cannot operate on dangling symlink ".toList ++ shellQuoted path)
        else cannot "cannot access" path cause
      return false
    | .ok number => do
      let node := f.get number
      let setting : Permission.Setting :=
        { mode := node.mode, isDirectory := node.isDirectory, mask := f.mask }
      let mode := c.wanted setting
      Work.alter fun f => f.setMode number mode
      let shown (mode : Nat) : Text :=
        Permission.octal mode 4 ++ " (".toList ++ Permission.letters mode ++ [')']
      if mode ≠ node.mode && (c.tells || c.tellsChanges) then
        Work.say ("mode of ".toList ++ shellQuoted path ++ " changed from ".toList ++
          shown node.mode ++ " to ".toList ++ shown mode ++ ['\n'])
      else if c.tells then
        Work.say ("mode of ".toList ++ shellQuoted path ++ " retained as ".toList ++
          shown mode ++ ['\n'])
      let isHeld ←
        match c.naive with
        | none => pure true
        | some naive => do
          let expected := naive { setting with mask := 0 }
          if Permission.without mode expected = 0 then pure true
          else do
            Work.complain (nameOf path ++ ": new permissions are ".toList ++
              Permission.letters mode ++ ", not ".toList ++ Permission.letters expected)
            pure false
      if c.recursive && node.isDirectory then do
        let below ← chmodAll (chmodPath c fuel)
          (node.entries.filterMap fun e =>
            if (f.get e.2).isLink then none else some (inside path e.1.toText))
        return isHeld && below
      else return isHeld
where
  chmodAll (one : Text → Work Bool) : List Text → Work Bool
    | [] => return true
    | path :: rest => do
      let first ← one path
      let others ← chmodAll one rest
      return first && others

def isDashedMode (t : Text) : Bool :=
  match t with
  | '-' :: c :: more => (c :: more).all fun c => "rwxXstugoa,=+-01234567".toList.contains c
  | _ => false

def chmod : Work Nat := do
  let q ← Work.request
  let usage : Usage :=
    { letters := "Rcfv"
      names := [⟨"recursive", "R", .nothing⟩, ⟨"changes", "c", .nothing⟩, ⟨"quiet", "f", .nothing⟩,
        ⟨"silent", "f", .nothing⟩, ⟨"verbose", "v", .nothing⟩, ⟨"reference", "r", .something⟩,
        ⟨"preserve-root", "p", .nothing⟩, ⟨"no-preserve-root", "P", .nothing⟩] ++ helpOptions }
  let options := q.arguments.takeWhile (· ≠ ['-', '-'])
  let dashed := options.filter isDashedMode
  let others := if dashed.isEmpty then q.arguments else q.arguments.filter fun t => !isDashedMode t
  let a ←
    match usage.read (others.length + 1) others with
    | .ok a => pure a
    | .error message => Work.misuse 1 message
  let (text, paths) : Option Text × List Text :=
    if a.has "r" then (none, a.operands)
    else if dashed.isEmpty then (a.operands.head?, a.operands.tail)
    else (some (Plain.joined [','] dashed), a.operands)
  let f ← Work.files
  if text.isNone && !a.has "r" then Work.misuse 1 "missing operand".toList
  if paths.isEmpty then
    Work.misuse 1 ("missing operand after ".toList ++ quoted (text.getD (q.arguments.getLastD [])))
  let wanted : Permission.Setting → Nat ←
    match text with
    | some text =>
      if (Permission.mode? { mode := 0 } text).isNone then
        Work.misuse 1 ("invalid mode: ".toList ++ quoted text)
      else pure fun s => (Permission.mode? s text).getD s.mode
    | none => do
      let reference := (a.get? "r").getD []
      match f.node (pathOf reference) with
      | .ok node => pure fun _ => node.mode
      | .error cause => do
        cannot "failed to get attributes of" reference cause
        Work.exit 1
  let change : ModeChange :=
    { wanted, recursive := a.has "R", tells := a.has "v", tellsChanges := a.has "c"
      quiet := a.has "f", naive := if dashed.isEmpty then none else some wanted }
  forEach paths (chmodPath change (f.nodes.size + 1))

/-! ### Touching and sizing -/

def touchTime (f : Files) (a : Arguments) : Work (Option Nat) :=
  let refuse (t : Text) : Work (Option Nat) :=
    Work.fail 1 ("invalid date format ".toList ++ quoted t)
  match a.get? "t", a.get? "d", a.get? "r" with
  | some t, _, _ =>
    ((Calendar.stamp? t).map fun s => pure (some (s * Calendar.second))).getD (refuse t)
  | none, some t, _ =>
    ((Calendar.date? f.now t).map fun time => pure (some time)).getD (refuse t)
  | none, none, some path =>
    match f.node (pathOf path) with
    | .ok node => pure (some node.changed)
    | .error cause => do
      cannot "failed to get attributes of" path cause
      Work.exit 1
  | none, none, none => pure none

def touch : Work Nat := do
  let a ← Work.arguments
    { letters := "acd:fhmr:t:"
      names := [⟨"no-create", "c", .nothing⟩, ⟨"date", "d", .something⟩,
        ⟨"no-dereference", "h", .nothing⟩, ⟨"reference", "r", .something⟩,
        ⟨"time", "time", .something⟩] ++ helpOptions }
  let f ← Work.files
  let time ← touchTime f a
  if a.operands.isEmpty then Work.misuse 1 "missing file operand".toList
  forEach a.operands fun path => do
    let f ← Work.files
    let setTime (number : Nat) : Work Unit :=
      Work.alter fun f => f.setTime number (time.getD f.now)
    match f.number (!a.has "h") (pathOf path) with
    | .ok number => do
      setTime number
      return true
    | .error cause =>
      if cause = .notFound && (a.has "c" || a.has "h") then
        if a.has "h" && !a.has "c" then do
          cannot "setting times of" path cause
          return false
        else return true
      else
        match ← Work.change fun f => f.openForWriting (pathOf path) {} with
        | .ok number => do
          setTime number
          return true
        | .error .isDirectory => do
          cannot "setting times of" path .notFound
          return false
        | .error cause => do
          cannot "cannot touch" path cause
          return false

def factor? : Text → Option Nat
  | [] => some 1
  | ['b'] => some 512
  | ['K'] => some 1024
  | ['k'] => some 1024
  | ['M'] => some (1024 * 1024)
  | ['G'] => some (1024 * 1024 * 1024)
  | ['K', 'B'] => some 1000
  | ['k', 'B'] => some 1000
  | ['M', 'B'] => some 1000000
  | ['G', 'B'] => some 1000000000
  | ['K', 'i', 'B'] => some 1024
  | ['M', 'i', 'B'] => some (1024 * 1024)
  | ['G', 'i', 'B'] => some (1024 * 1024 * 1024)
  | _ => none

def size? (t : Text) : Option Nat := do
  let digits := t.takeWhile Char.isDigit
  let n ← Text.decimal? digits
  return n * (← factor? (t.drop digits.length))

def resized (content : Bytes) (length : Nat) : Bytes :=
  content.take length ++ List.replicate (length - content.length) 0

def newLength? (old : Nat) (t : Text) : Option Nat :=
  match t with
  | '+' :: n => (size? n).map (old + ·)
  | '-' :: n => (size? n).map (old - ·)
  | '<' :: n => (size? n).map (min old)
  | '>' :: n => (size? n).map (max old)
  | '/' :: n => (size? n).bind fun n => if n = 0 then none else some (old / n * n)
  | '%' :: n => (size? n).bind fun n => if n = 0 then none else some ((old + n - 1) / n * n)
  | n => size? n

def truncate : Work Nat := do
  let a ← Work.arguments
    { letters := "cor:s:"
      names := [⟨"no-create", "c", .nothing⟩, ⟨"io-blocks", "o", .nothing⟩,
        ⟨"reference", "r", .something⟩, ⟨"size", "s", .something⟩] ++ helpOptions }
  let f ← Work.files
  let reference : Option Nat ←
    match a.get? "r" with
    | none => pure none
    | some path =>
      match f.node (pathOf path) with
      | .ok node => pure (some node.size)
      | .error cause => do
        cannot "cannot stat" path cause
        Work.exit 1
  if let some t := a.get? "s" then
    if (newLength? 0 t).isNone then Work.fail 1 ("Invalid number: ".toList ++ quoted t)
  if !a.has "s" && !a.has "r" then
    Work.misuse 1 "you must specify either '--size' or '--reference'".toList
  if a.operands.isEmpty then Work.misuse 1 "missing file operand".toList
  forEach a.operands fun path => do
    match ← Work.change fun f => f.openForWriting (pathOf path) { creates := !a.has "c" } with
    | .error cause =>
      if cause = .notFound && a.has "c" then return true
      else do
        Work.complain ("cannot open ".toList ++ shellQuoted path ++ " for writing: ".toList ++
          reason cause)
        return false
    | .ok number => do
      Work.alter fun f =>
        match (f.get number).body with
        | .file content =>
          let length :=
            match a.get? "s" with
            | some t => (newLength? (reference.getD content.length) t).getD content.length
            | none => reference.getD content.length
          f.setBody number (.file (resized content length))
        | _ => f
      return true

def mkfifo : Work Nat := do
  let a ← Work.arguments
    { letters := "m:Z", names := ⟨"mode", "m", .something⟩ :: helpOptions }
  if a.operands.isEmpty then Work.misuse 1 "missing operand".toList
  let mode := a.get? "m"
  checkMode mode
  forEach a.operands fun path => do
    let wanted (f : Files) : Nat :=
      match mode with
      | some text => (Permission.mode? { mode := 0o666, mask := f.mask } text).getD 0o666
      | none => Mode.file
    let quiet (f : Files) : Files := if mode.isSome then { f with mask := 0 } else f
    match ← Work.change_ fun f => (quiet f).makePipe (pathOf path) (wanted f) with
    | .ok () => return true
    | .error cause => do
      cannot "cannot create fifo" path cause
      return false

/-! ### Names nobody uses -/

def nameChars : List Char := "abcdefghijklmnopqrstuvwxyzABCDEFGHIJKLMNOPQRSTUVWXYZ0123456789".toList

def madeUp : Nat → Nat → Text
  | 0, _ => []
  | n + 1, seed => nameChars[seed % 62]?.getD 'a' :: madeUp n (seed / 62 + seed * 7 + 13)

def mktemp : Work Nat := do
  let a ← Work.arguments
    { letters := "dqtup:V"
      names := [⟨"directory", "d", .nothing⟩, ⟨"quiet", "q", .nothing⟩, ⟨"dry-run", "u", .nothing⟩,
        ⟨"suffix", "suffix", .something⟩, ⟨"tmpdir", "p", .maybe⟩] ++ helpOptions }
  if 1 < a.operands.length then Work.misuse 1 "too many templates".toList
  let q ← Work.request
  let template := a.operands.headD "tmp.XXXXXXXXXX".toList
  let isUsual := a.operands.isEmpty
  let suffix := (a.get? "suffix").getD []
  let base := template ++ suffix
  let after := if suffix.isEmpty then (base.reverse.takeWhile (· ≠ 'X')).reverse else suffix
  let front := base.take (base.length - after.length)
  let count := (front.reverse.takeWhile (· == 'X')).length
  if count < 3 then Work.fail 1 ("too few X's in template ".toList ++ quoted template)
  let place : Text :=
    if isUsual || a.has "t" || a.has "p" then
      let usual := (q.environment.lookup "TMPDIR".toList).getD "/tmp".toList
      let dir := match a.get? "p" with
        | some (c :: dir) => c :: dir
        | _ => usual
      inside dir (front.take (front.length - count))
    else front.take (front.length - count)
  let f ← Work.files
  let self ← Work.ask Act.self
  let path := place ++ madeUp count (f.nodes.size * 7919 + self * 104729) ++ after
  let what := if a.has "d" then "directory" else "file"
  let result ←
    if a.has "u" then pure (.ok ())
    else if a.has "d" then Work.change_ fun f => f.makeDirectory (pathOf path) 0o700
    else Work.change_ fun f => do
      return (← f.openForWriting (pathOf path) { exclusive := true } 0o600).2
  match result with
  | .ok () => do
    Work.say (path ++ ['\n'])
    return 0
  | .error cause =>
    if a.has "q" then return 1
    else Work.fail 1 (("failed to create " ++ what ++ " via template ").toList ++
      shellQuoted (place ++ List.replicate count 'X' ++ after) ++ ": ".toList ++ reason cause)

end Manage

end Tool

end Proctor
