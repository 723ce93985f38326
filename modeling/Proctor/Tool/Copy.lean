import Proctor.Tool.Canonical
import Proctor.Tool.Manage

/-!
# Copying, moving and linking

The three tools take what to handle and where to put it. The last operand is a directory to put
things into, or the new name of the only other one.
-/

set_option autoImplicit false

namespace Proctor

namespace Tool

open Shell

namespace Copy

open Manage (cannot confirm inside)
open Plain (helpOptions)

def between (source : Text) (sign : String) (target : Text) : Text :=
  shellQuoted source ++ sign.toList ++ shellQuoted target

def within (dir source : Text) : Text :=
  let last := Plain.lastPart source
  if last = ['/'] then dir else inside dir last

def targets (a : Arguments) : Work (List (Text × Text)) := do
  let f ← Work.files
  let into (dir : Text) (sources : List Text) : List (Text × Text) :=
    sources.map fun s => (s, within dir s)
  if a.operands.isEmpty then Work.misuse 1 "missing file operand".toList
  match a.get? "t", a.has "T" with
  | some _, true =>
    Work.fail 1 "cannot combine --target-directory (-t) and --no-target-directory (-T)".toList
  | some dir, false =>
    match f.node (pathOf dir) with
    | .error cause =>
      Work.fail 1 ("target directory ".toList ++ shellQuoted dir ++ ": ".toList ++ reason cause)
    | .ok node =>
      if node.isDirectory then return into dir a.operands
      else Work.fail 1 ("target directory ".toList ++ shellQuoted dir ++ ": ".toList ++
        reason .notDirectory)
  | none, true =>
    match a.operands with
    | [source, target] => return [(source, target)]
    | _ :: _ :: extra :: _ => Work.misuse 1 ("extra operand ".toList ++ quoted extra)
    | operands => lacking operands
  | none, false =>
    match a.operands with
    | [] => return []
    | [source] => lacking [source]
    | operands =>
      let target := operands.getLastD []
      let sources := operands.dropLast
      if f.isDirectory (pathOf target) then return into target sources
      else if sources.length = 1 then return sources.map fun s => (s, target)
      else
        let cause : Cause :=
          match f.node (pathOf target) with
          | .ok _ => .notDirectory
          | .error cause => cause
        Work.fail 1 ("target ".toList ++ shellQuoted target ++ ": ".toList ++ reason cause)
where
  lacking {α : Type} (operands : List Text) : Work α :=
    Work.misuse 1 ("missing destination file operand after ".toList ++ quoted (operands.headD []))

inductive Following where
  | always
  | operands
  | never
  deriving DecidableEq, Repr

inductive Collision where
  | replace
  | force
  | ask
  | skip
  deriving DecidableEq, Repr

structure Way where
  recursive : Bool := false
  following : Following := .always
  collision : Collision := .replace
  onlyNewer : Bool := false
  verbose : Bool := false
  /-- Keeps the mode and the time. -/
  keeps : Bool := false
  /-- Makes another name or a link instead of a copy. -/
  links : Bool := false
  points : Bool := false
  removes : Bool := false
  /-- A directory that is not copied. -/
  omitted : Option Nat := none

def goesOn (w : Way) (source target : Node) (path : Text) : Work Bool :=
  if w.onlyNewer && source.changed ≤ target.changed && !source.isDirectory then pure false
  else if source.isDirectory then pure true
  else
    match w.collision with
    | .skip => pure false
    | .ask => confirm ("overwrite ".toList ++ shellQuoted path ++ "? ".toList)
    | _ => pure true

def fill (content : Text) (body : Body) (number : Nat) (target : Text) : Work Bool := do
  let f ← Work.files
  match (f.get number).body with
  | .descriptor d => do
    Work.flush
    let result ← Work.writeTo d content
    match result with
    | none => return true
    | some cause => do
      cannot "error writing" target cause
      return false
  | .device .full =>
    if content.isEmpty then return true
    else do
      cannot "error writing" target .noSpace
      return false
  | .device _ => return true
  | .pipe => return true
  | _ => do
    Work.alter fun f => f.setBody number body
    return true

def copyFile (w : Way) (source : Node) (path target : Text) : Work Bool := do
  let f ← Work.files
  let announce : Work Unit := do
    if w.verbose then Work.say (between path " -> " target ++ ['\n'])
  let keep (number : Nat) (f : Files) : Files :=
    if w.keeps then (f.setMode number source.mode).setTime number source.changed else f
  match source.body with
  | .link destination => do
    announce
    let result ← Work.change_ fun f => do
      let f := ((f.unlink (pathOf target)).toOption).getD f
      f.makeLink (pathOf target) destination
    match result with
    | .ok () => return true
    | .error cause => do
      cannot "cannot create symbolic link" target cause
      return false
  | _ =>
    if w.links then do
      announce
      let result ← Work.change_ fun f => do
        let f := if w.collision = .force then ((f.unlink (pathOf target)).toOption).getD f else f
        f.addName (← f.number (w.following ≠ .never) (pathOf path)) (pathOf target)
      match result with
      | .ok () => return true
      | .error cause => do
        Work.complain ("cannot create hard link ".toList ++ between target " to " path ++
          ": ".toList ++ reason cause)
        return false
    else if w.points then do
      announce
      let result ← Work.change_ fun f => do
        let f := if w.collision = .force then ((f.unlink (pathOf target)).toOption).getD f else f
        f.makeLink (pathOf target) (pathOf path)
      match result with
      | .ok () => return true
      | .error cause => do
        Work.complain ("cannot create symbolic link ".toList ++ between target " to " path ++
          ": ".toList ++ reason cause)
        return false
    else if source.body = .pipe && w.recursive then do
      announce
      match ← Work.change_ fun f => f.makePipe (pathOf target) source.mode with
      | .ok () => return true
      | .error cause => do
        cannot "cannot create fifo" target cause
        return false
    else do
      announce
      match ← Work.readFile path with
      | .error cause => do
        Work.complain ("cannot open ".toList ++ shellQuoted path ++ " for reading: ".toList ++
          reason cause)
        return false
      | .ok content => do
        let body : Body :=
          match source.body with
          | .program name => .program name
          | _ => .file content.toBytes
        let isDangling := !f.isPresent (pathOf target) && (f.nodeItself (pathOf target)).toBool
        if isDangling && w.collision ≠ .force then do
          Work.complain ("not writing through dangling symlink ".toList ++ shellQuoted target)
          return false
        else do
          let result ← Work.change fun f => do
            let open_ (f : Files) := f.openForWriting (pathOf target) { truncates := true }
              (Nat.land source.mode 0o777)
            match open_ f with
            | .ok opened => .ok opened
            | .error cause =>
              if w.collision = .force && (f.nodeItself (pathOf target)).toBool then
                open_ (← f.unlink (pathOf target))
              else .error cause
          match result with
          | .error cause => do
            let cause := if cause = .isDirectory && target.getLast? == some '/' then
              Cause.notDirectory else cause
            cannot "cannot create regular file" target cause
            return false
          | .ok number => do
            let isFine ← fill content body number target
            Work.alter (keep number)
            return isFine

def sourceNode (w : Way) (isOperand : Bool) (path : Text) : Work (Except Cause (Nat × Node)) := do
  let f ← Work.files
  let follows := w.following = .always || (w.following = .operands && isOperand)
  return (f.number follows (pathOf path)).map fun n => (n, f.get n)

def intoItself (path target : Text) : Work Bool := do
  Work.complain ("cannot copy a directory, ".toList ++ shellQuoted path ++
    ", into itself, ".toList ++ shellQuoted target)
  return false

def each (one : Text → Text → Work Bool) : List (Text × Text) → Work Bool
  | [] => return true
  | (path, target) :: rest => do
    let first ← one path target
    let others ← each one rest
    return first && others

def copyEntries (one : Text → Text → Work Bool) (node : Node) (path target : Text) : Work Bool := do
  if !node.permits Mode.read then do
    cannot "cannot access" path .accessDenied
    return false
  else
    each one ((node.entries.mergeSort fun a b => a.2 ≤ b.2).map fun e =>
      (inside path e.1.toText, inside target e.1.toText))

/-- Copies to where nothing is. A directory that is copied into itself is copied without its
copy. -/
def copyNew (w : Way) (one : Way → Text → Text → Work Bool) (f : Files) (number : Nat) (node : Node)
    (path target : Text) : Work Bool := do
  if !node.isDirectory then copyFile w node path target
  else
    let above := (f.number true (pathOf (Plain.firstParts target))).toOption
    let isInside := w.omitted.isNone &&
      (above.map fun a => f.isWithin number (f.nodes.size + 1) a).getD false
    let mode := Nat.land node.mode 0o7777
    match ← Work.change_ fun f => f.makeDirectory (pathOf target) (Nat.lor mode 0o700) with
    | .error cause => do
      cannot "cannot create directory" target cause
      return false
    | .ok () => do
      if w.verbose then Work.say (between path " -> " target ++ ['\n'])
      let made := ((← Work.files).number true (pathOf target)).toOption
      let isFine ← copyEntries (one (if isInside then { w with omitted := made } else w)) node path
        target
      Work.alter fun f =>
        match f.number true (pathOf target) with
        | .ok n =>
          let f := f.setMode n (if w.keeps then mode else Mode.masked mode f.mask)
          if w.keeps then f.setTime n node.changed else f
        | .error _ => f
      if isInside then intoItself path target else return isFine

def copyPath (w : Way) (created : List Nat) : Nat → Bool → Text → Text → Work Bool
  | 0, _, _, _ => return false
  | fuel + 1, isOperand, path, target => do
    match ← sourceNode w isOperand path with
    | .error cause => do
      cannot "cannot stat" path cause
      return false
    | .ok (number, node) => do
      let f ← Work.files
      let there := f.number (!node.isLink) (pathOf target)
      if w.omitted = some number then return true
      else if node.isDirectory && !w.recursive then do
        Work.complain ("-r not specified; omitting directory ".toList ++ shellQuoted path)
        return false
      else
        match there with
        | .error cause =>
          if cause = .notFound then
            copyNew w (fun w => copyPath w [] fuel false) f number node path target
          else do
            cannot "failed to access" target cause
            return false
        | .ok other => do
          let old := f.get other
          if other = number && !node.isDirectory && !(w.links || w.collision = .skip) then do
            Work.complain (between path " and " target ++ " are the same file".toList)
            return false
          else if other = number && w.links then return true
          else if !(← goesOn w node old target) then return true
          else if node.isDirectory && !old.isDirectory then do
            Work.complain ("cannot overwrite non-directory ".toList ++
              between target " with directory " path)
            return false
          else if !node.isDirectory && old.isDirectory then do
            Work.complain ("cannot overwrite directory ".toList ++ shellQuoted target ++
              " with non-directory".toList)
            return false
          else if !node.isDirectory && created.contains other then do
            Work.complain ("will not overwrite just-created ".toList ++
              between target " with " path)
            return false
          else if node.isDirectory then
            if f.isWithin number (f.nodes.size + 1) other then intoItself path target
            else copyEntries (copyPath w [] fuel false) node path target
          else copyFile w node path target

/-- Handles the pairs in turn. Every one is told what those before it have made. -/
def inTurn (one : List Nat → Text → Text → Work Bool) (pairs : List (Text × Text)) : Work Nat :=
  go [] [] 0 pairs
where
  go (seen : List Text) (created : List Nat) (status : Nat) : List (Text × Text) → Work Nat
    | [] => return status
    | (source, target) :: rest => do
      let f ← Work.files
      let again := seen.contains source
      if again && !f.isDirectory (pathOf source) && f.isPresent (pathOf source) then do
        Work.complain ("warning: source file ".toList ++ shellQuoted source ++
          " specified more than once".toList)
        go seen created status rest
      else do
        let isFine ← one created source target
        let f ← Work.files
        let made := ((f.number true (pathOf target)).toOption).toList
        go (source :: seen) (made ++ created) (if isFine then status else 1) rest

def collisionOf (a : Arguments) : Collision :=
  match a.lastOf ["f", "i", "n"] with
  | some "i" => .ask
  | some "n" => .skip
  | some "f" => .force
  | _ => .replace

def cp : Work Nat := do
  let a ← Work.arguments
    { letters := "abdfHilLnprst:uvxPRS:TZ"
      names := [⟨"archive", "a", .nothing⟩, ⟨"force", "f", .nothing⟩,
        ⟨"interactive", "i", .nothing⟩, ⟨"link", "l", .nothing⟩, ⟨"dereference", "L", .nothing⟩,
        ⟨"no-clobber", "n", .nothing⟩, ⟨"no-dereference", "P", .nothing⟩,
        ⟨"preserve", "p", .maybe⟩, ⟨"no-preserve", "np", .something⟩,
        ⟨"parents", "parents", .nothing⟩,
        ⟨"recursive", "R", .nothing⟩, ⟨"remove-destination", "remove", .nothing⟩,
        ⟨"symbolic-link", "s", .nothing⟩, ⟨"target-directory", "t", .something⟩,
        ⟨"no-target-directory", "T", .nothing⟩, ⟨"update", "u", .maybe⟩, ⟨"verbose", "v", .nothing⟩,
        ⟨"reflink", "reflink", .maybe⟩, ⟨"sparse", "sparse", .something⟩,
        ⟨"one-file-system", "x", .nothing⟩, ⟨"backup", "b", .maybe⟩, ⟨"suffix", "S", .something⟩] ++
        helpOptions }
  let pairs ← targets a
  let recursive := a.has "r" || a.has "R" || a.has "a"
  let following : Following :=
    match a.lastOf ["H", "L", "P", "d", "a"] with
    | some "H" => .operands
    | some "L" => .always
    | some _ => .never
    | none => if recursive then .never else .always
  let w : Way :=
    { recursive, following, collision := collisionOf a, onlyNewer := a.has "u"
      verbose := a.has "v", keeps := a.has "p" || a.has "a", links := a.has "l"
      points := a.has "s", removes := a.has "remove" }
  let pairs ←
    if !a.has "parents" then pure pairs
    else do
      let dir := (a.get? "t").getD (a.operands.getLastD [])
      let f ← Work.files
      if !f.isDirectory (pathOf dir) then
        Work.misuse 1 "with --parents, the destination must be a directory".toList
      pure (pairs.map fun (source, _) => (source, inside dir source))
  let f ← Work.files
  inTurn (fun created source target => do
    if a.has "parents" then do
      let _ ← Work.change fun f =>
        match f.createDirectories (pathOf (Plain.firstParts target)) with
        | (.ok (), f) => .ok ((), f)
        | (.error cause, _) => .error cause
    if w.removes then do
      let _ ← Work.change_ fun f => f.unlink (pathOf target)
    copyPath w created (f.nodes.size + 2) true source target) pairs

def movePath (w : Way) (created : List Nat) (path target : Text) : Work Bool := do
  let f ← Work.files
  match f.resolve false (pathOf path), f.number false (pathOf path) with
  | .error cause, _ => do
    cannot "cannot stat" path cause
    return false
  | _, .error cause => do
    cannot "cannot stat" path cause
    return false
  | .ok place, .ok number => do
    let node := f.get number
    let move : Work Bool := do
      match ← Work.change_ fun f => f.rename (pathOf path) (pathOf target) with
      | .ok () => do
        if w.verbose then Work.say ("renamed ".toList ++ between path " -> " target ++ ['\n'])
        return true
      | .error cause => do
        if cause = .invalidArgument then
          Work.complain ("cannot move ".toList ++ shellQuoted path ++
            " to a subdirectory of itself, ".toList ++ shellQuoted target)
        else
          Work.complain ("cannot move ".toList ++ between path " to " target ++ ": ".toList ++
            reason cause)
        return false
    match f.resolve false (pathOf target) with
    | .error cause =>
      if cause = .notFound then move
      else do
        cannot "failed to access" target cause
        return false
    | .ok (.vacant ..) => move
    | .ok (.found other entry) => do
      let old := f.get other
      if place = .found other entry then do
        Work.complain (between path " and " target ++ " are the same file".toList)
        return false
      else if !(← goesOn w node old target) then return true
      else if other = number && !node.isDirectory then do
        match ← Work.change_ fun f => f.unlink (pathOf path) with
        | .ok () => return true
        | .error cause => do
          cannot "cannot remove" path cause
          return false
      else if node.isDirectory && !old.isDirectory then do
        Work.complain ("cannot overwrite non-directory ".toList ++
          between target " with directory " path)
        return false
      else if !node.isDirectory && old.isDirectory then do
        Work.complain ("cannot overwrite directory ".toList ++ shellQuoted target ++
          " with non-directory".toList)
        return false
      else if !node.isDirectory && created.contains other then do
        Work.complain ("will not overwrite just-created ".toList ++ between target " with " path)
        return false
      else move

def mv : Work Nat := do
  let a ← Work.arguments
    { letters := "bfint:uvS:TZ"
      names := [⟨"force", "f", .nothing⟩, ⟨"interactive", "i", .nothing⟩,
        ⟨"no-clobber", "n", .nothing⟩, ⟨"target-directory", "t", .something⟩,
        ⟨"no-target-directory", "T", .nothing⟩, ⟨"update", "u", .maybe⟩, ⟨"verbose", "v", .nothing⟩,
        ⟨"strip-trailing-slashes", "strip", .nothing⟩, ⟨"backup", "b", .maybe⟩,
        ⟨"suffix", "S", .something⟩] ++ helpOptions }
  let pairs ← targets a
  let w : Way := { collision := collisionOf a, onlyNewer := a.has "u", verbose := a.has "v" }
  inTurn (movePath w) pairs

/-! ### Links -/

structure Linking where
  symbolic : Bool
  force : Bool
  asks : Bool
  verbose : Bool
  relative : Bool
  follows : Bool

def linkPath (l : Linking) (source target : Text) : Work Bool := do
  let f ← Work.files
  let number := f.number l.follows (pathOf source)
  let what : Text := if l.symbolic then "symbolic link".toList else "hard link".toList
  let sign := if l.symbolic then " -> " else " => "
  let pointer : Text :=
    if !l.relative then source
    else
      let dir := (canonical f .nothing (Plain.firstParts target)).toOption.getD []
      wayTo dir ((canonical f .nothing source).toOption.getD [])
  match l.symbolic, number with
  | false, .error cause => do
    cannot "failed to access" source cause
    return false
  | _, _ =>
    let isDirectory := !l.symbolic &&
      (number.toOption.map fun n => (f.get n).isDirectory).getD false
    if isDirectory then do
      Work.complain (nameOf source ++ ": hard link not allowed for directory".toList)
      return false
    else do
      let there := (f.number false (pathOf target)).toOption
      let isSame := (there.bind fun t => (f.number true (pathOf source)).toOption.map (· == t)).getD
        false
      if there.isSome && l.force && isSame then do
        Work.complain (between source " and " target ++ " are the same file".toList)
        return false
      else if !(← if there.isSome && l.asks then confirm ("replace ".toList ++ shellQuoted target ++
          "? ".toList) else pure true) then return true
      else do
        let result ← Work.change_ fun f => do
          let f ← if there.isSome && (l.force || l.asks) then f.unlink (pathOf target) else pure f
          if l.symbolic then f.makeLink (pathOf target) (pathOf pointer)
          else f.addName (← f.number l.follows (pathOf source)) (pathOf target)
        match result with
        | .ok () => do
          if l.verbose then Work.say (between target sign pointer ++ ['\n'])
          return true
        | .error cause => do
          let isWhole := (l.symbolic && (source.isEmpty || cause = .nameTooLong)) ||
            (!l.symbolic && cause ≠ .alreadyExists)
          Work.complain ("failed to create ".toList ++ what ++ [' '] ++
            (if isWhole then between target sign source else shellQuoted target) ++
            ": ".toList ++ reason cause)
          return false

def linkTargets (a : Arguments) : Work (List (Text × Text)) := do
  let f ← Work.files
  match a.operands, a.has "T", a.get? "t" with
  | [source], false, none => return [(source, within ['.'] source)]
  | [source, target], false, none =>
    let itself := a.has "n" && ((f.nodeItself (pathOf target)).toOption.map Node.isLink).getD false
    if f.isDirectory (pathOf target) && !itself then return [(source, within target source)]
    else return [(source, target)]
  | _, _, _ => targets a

def ln : Work Nat := do
  let a ← Work.arguments
    { letters := "bdfFinrst:vLPS:T"
      names := [⟨"symbolic", "s", .nothing⟩, ⟨"force", "f", .nothing⟩,
        ⟨"interactive", "i", .nothing⟩, ⟨"no-dereference", "n", .nothing⟩,
        ⟨"relative", "r", .nothing⟩, ⟨"target-directory", "t", .something⟩,
        ⟨"no-target-directory", "T", .nothing⟩, ⟨"verbose", "v", .nothing⟩,
        ⟨"logical", "L", .nothing⟩, ⟨"physical", "P", .nothing⟩, ⟨"directory", "F", .nothing⟩,
        ⟨"backup", "b", .maybe⟩, ⟨"suffix", "S", .something⟩] ++ helpOptions }
  let pairs ← linkTargets a
  let l : Linking :=
    { symbolic := a.has "s", force := a.lastOf ["f", "i"] == some "f"
      asks := a.lastOf ["f", "i"] == some "i", verbose := a.has "v"
      relative := a.has "r", follows := a.lastOf ["L", "P"] == some "L" }
  if l.relative && !l.symbolic then Work.misuse 1 "cannot do --relative without --symbolic".toList
  inTurn (fun _ source target => linkPath l source target) pairs

def link : Work Nat := do
  let a ← Work.arguments { letters := "", names := helpOptions }
  match a.operands with
  | [] => Work.misuse 1 "missing operand".toList
  | [source] => Work.misuse 1 ("missing operand after ".toList ++ quoted source)
  | [source, target] => do
    match ← Work.change_ fun f => do
      f.addName (← f.number false (pathOf source)) (pathOf target) with
    | .ok () => return 0
    | .error cause =>
      Work.fail 1 ("cannot create link ".toList ++ between target " to " source ++ ": ".toList ++
        reason cause)
  | _ :: _ :: extra :: _ => Work.misuse 1 ("extra operand ".toList ++ quoted extra)

end Copy

end Tool

end Proctor
