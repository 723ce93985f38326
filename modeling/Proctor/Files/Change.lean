import Proctor.Files.Resolve

/-!
# Changing files

Every change either succeeds and gives the files afterwards, or is refused with the system's cause.
Removing a tree may be refused after part of it is gone, so it always gives the files afterwards.
-/

set_option autoImplicit false

namespace Proctor

namespace Files

def put (f : Files) (number : Nat) (node : Node) : Files :=
  { f with nodes := f.nodes.setIfInBounds number node }

def setBody (f : Files) (number : Nat) (body : Body) : Files :=
  f.put number { f.get number with body, changed := f.now }

def setEntry (f : Files) (parent : Nat) (name : Bytes) (number : Option Nat) : Files :=
  match (f.get parent).body with
  | .directory entries above => f.setBody parent (.directory (bindName name number entries) above)
  | _ => f

def add (f : Files) (parent : Nat) (name : Bytes) (body : Body) (mode : Nat) : Nat × Files :=
  let node : Node := { body, mode, changed := f.now }
  let number := f.nodes.size
  (number, { f with nodes := f.nodes.push node }.setEntry parent name (some number))

def mayChange (f : Files) (parent : Nat) : Bool :=
  (f.get parent).permits Mode.write && (f.get parent).permits Mode.search

/-- A directory that has been removed is still there for those who are in it. -/
def isGone (f : Files) (parent : Nat) : Bool := parent ≠ root && (f.nameOf? parent).isNone

def checkNew (f : Files) (parent : Nat) : Except Cause Unit :=
  if f.isGone parent then .error .notFound
  else if f.mayChange parent then .ok ()
  else .error .accessDenied

def trimmed (p : Path) : Path :=
  match (p.bytes.reverse.dropWhile (· == slash)).reverse with
  | [] => if p.bytes.isEmpty then p else ⟨[slash]⟩
  | bytes => ⟨bytes⟩

def lastPiece (p : Path) : Bytes := p.pieces.getLast?.getD []

/-- Makes one directory. What stands in its place, even a link to nowhere, is in the way. -/
def makeDirectory (f : Files) (p : Path) (mode : Nat := Mode.directory) : Except Cause Files := do
  match ← f.resolve false (trimmed p) with
  | .found .. => .error .alreadyExists
  | .vacant parent name _ =>
    f.checkNew parent
    return (f.add parent name (.directory [] parent) (Mode.masked mode f.mask)).2

def removeDirectory (f : Files) (p : Path) : Except Cause Files := do
  let p := trimmed p
  if lastPiece p = [dot] then (f.number true p).bind fun _ => .error .invalidArgument
  else if lastPiece p = [dot, dot] then (f.number true p).bind fun _ => .error .notEmpty
  else
    match ← f.resolve false p with
    | .vacant .. => .error .notFound
    | .found _ none => .error .busy
    | .found number (some (parent, name)) =>
      if !f.mayChange parent then .error .accessDenied
      else
        match (f.get number).body with
        | .directory [] _ => return f.setEntry parent name none
        | .directory .. => .error .notEmpty
        | _ => .error .notDirectory

def unlink (f : Files) (p : Path) : Except Cause Files := do
  match ← f.resolve false p with
  | .vacant .. => .error .notFound
  | .found _ none => .error .isDirectory
  | .found number (some (parent, name)) =>
    if !f.mayChange parent then .error .accessDenied
    else if (f.get number).isDirectory then .error .isDirectory
    else return f.setEntry parent name none

def makeLink (f : Files) (p target : Path) : Except Cause Files := do
  if target.bytes.isEmpty then .error .notFound
  else if pathLimit ≤ target.bytes.length then .error .nameTooLong
  else
    match ← f.resolve false p with
    | .found .. => .error .alreadyExists
    | .vacant _ _ true => .error .notFound
    | .vacant parent name false =>
      f.checkNew parent
      return (f.add parent name (.link target) 0o777).2

def makePipe (f : Files) (p : Path) (mode : Nat := Mode.file) : Except Cause Files := do
  match ← f.resolve false p with
  | .found .. => .error .alreadyExists
  | .vacant _ _ true => .error .notFound
  | .vacant parent name false =>
    f.checkNew parent
    return (f.add parent name .pipe (Mode.masked mode f.mask)).2

def addName (f : Files) (number : Nat) (p : Path) : Except Cause Files := do
  match ← f.resolve false p with
  | .found .. => .error .alreadyExists
  | .vacant _ _ true => .error .notFound
  | .vacant parent name false =>
    f.checkNew parent
    if (f.get number).isDirectory then .error .notPermitted
    else return f.setEntry parent name (some number)

def isWithin (f : Files) (outer : Nat) : Nat → Nat → Bool
  | 0, _ => false
  | fuel + 1, number =>
    number = outer || (number ≠ root && f.isWithin outer fuel (f.above number))

def endsOpen (p : Path) : Bool := [[], [dot], [dot, dot]].contains (lastPiece p)

def rename (f : Files) (p q : Path) : Except Cause Files := do
  let dotted (p : Path) : Bool := [[dot], [dot, dot]].contains (lastPiece (trimmed p))
  match ← f.resolve false (trimmed p) with
  | .vacant .. => .error .notFound
  | .found _ none => .error .busy
  | .found number (some (parent, name)) =>
    let isDirectory := (f.get number).isDirectory
    if dotted p || dotted q then .error .busy
    else if endsOpen p && !isDirectory then .error .notDirectory
    else
      let move (f : Files) (newParent : Nat) (newName : Bytes) : Files :=
        let f := (f.setEntry parent name none).setEntry newParent newName (some number)
        match (f.get number).body with
        | .directory entries _ =>
          f.put number { f.get number with body := .directory entries newParent }
        | _ => f
      let within (target : Nat) : Bool :=
        isDirectory && f.isWithin number (f.nodes.size + 1) target
      let mustNotTurn (newParent : Nat) : Bool :=
        isDirectory && newParent ≠ parent && !(f.get number).permits Mode.write
      match ← f.resolve false (trimmed q) with
      | .found _ none => .error .busy
      | .vacant newParent newName _ =>
        if within newParent then .error .invalidArgument
        else if !isDirectory && endsOpen q then .error .notDirectory
        else if !f.mayChange parent || mustNotTurn newParent then .error .accessDenied
        else do
          f.checkNew newParent
          return move f newParent newName
      | .found target (some (newParent, newName)) =>
        if target = number then return f
        else if within newParent then .error .invalidArgument
        else if !f.mayChange parent || !f.mayChange newParent || mustNotTurn newParent then
          .error .accessDenied
        else
          match isDirectory, (f.get target).body with
          | true, .directory [] _ => return move f newParent newName
          | true, .directory .. => .error .notEmpty
          | true, _ => .error .notDirectory
          | false, .directory .. => .error .isDirectory
          | false, _ => return move f newParent newName

structure Opening where
  creates : Bool := true
  truncates : Bool := false
  /-- Only a new file will do. -/
  exclusive : Bool := false
  reads : Bool := false
  deriving DecidableEq, Repr

def openForWriting (f : Files) (p : Path) (how : Opening) (mode : Nat := Mode.file) :
    Except Cause (Nat × Files) := do
  match ← f.resolve (!how.exclusive) p with
  | .vacant parent name slashed =>
    if !how.creates then .error .notFound
    else if slashed then .error .isDirectory
    else do
      f.checkNew parent
      return f.add parent name (.file []) (Mode.masked mode f.mask)
  | .found number _ =>
    let node := f.get number
    if how.exclusive then .error .alreadyExists
    else
      match node.body with
      | .directory .. => .error .isDirectory
      | .device .terminal => .error .noSuchDevice
      | .file _ =>
        if !node.permits Mode.write || (how.reads && !node.permits Mode.read) then
          .error .accessDenied
        else return (number, if how.truncates then f.setBody number (.file []) else f)
      | _ => if node.permits Mode.write then return (number, f) else .error .accessDenied

def openForReading (f : Files) (p : Path) : Except Cause Nat := do
  let number ← f.number true p
  let node := f.get number
  if node.body = .device .terminal then .error .noSuchDevice
  else if node.permits Mode.read then return number
  else .error .accessDenied

def overlay (content : Bytes) (offset : Nat) (bytes : Bytes) : Bytes :=
  if bytes.isEmpty then content
  else if offset = content.length then content ++ bytes
  else
    content.take offset ++ List.replicate (offset - content.length) 0 ++ bytes ++
      content.drop (offset + bytes.length)

def writeAt (f : Files) (number offset : Nat) (bytes : Bytes) : Files :=
  match (f.get number).body with
  | .file content => f.setBody number (.file (overlay content offset bytes))
  | _ => f

def setMode (f : Files) (number mode : Nat) : Files := f.put number { f.get number with mode }

def changeMode (f : Files) (p : Path) (mode : Nat) : Except Cause Files := do
  return f.setMode (← f.number true p) mode

def setTime (f : Files) (number time : Nat) : Files :=
  f.put number { f.get number with changed := time }

def write (f : Files) (p : Path) (content : Bytes) : Except Cause Files := do
  let (number, f) ← f.openForWriting p { truncates := true }
  return f.writeAt number 0 content

def ancestors : Nat → Path → List Path
  | 0, _ => []
  | fuel + 1, p =>
    match p.parent? with
    | none => []
    | some above => p :: ancestors fuel above

/-- The paths from the first on that cannot be made because the directory above them is missing,
with the files once one of the others has been made or is found to be there. -/
def missing (f : Files) : List Path → Except Cause (List Path × Files)
  | [] => .ok ([], f)
  | p :: rest =>
    match f.makeDirectory p with
    | .ok f => .ok ([], f)
    | .error cause =>
      if cause = .notFound then do
        let (paths, f) ← f.missing rest
        return (p :: paths, f)
      else if cause = .alreadyExists ∧ f.isDirectory p then .ok ([], f)
      else .error cause

def makeAll (f : Files) : List Path → Except Cause Unit × Files
  | [] => (.ok (), f)
  | p :: rest =>
    match f.makeDirectory p with
    | .ok f => f.makeAll rest
    | .error cause =>
      if cause = .alreadyExists ∧ f.isDirectory p then f.makeAll rest else (.error cause, f)

def createDirectories (f : Files) (p : Path) : Except Cause Unit × Files :=
  match f.missing (ancestors (p.bytes.length + 1) p) with
  | .error cause => (.error cause, f)
  | .ok (paths, f) => f.makeAll paths.reverse

def emptied (f : Files) : Nat → Nat → Except Cause Unit × Files
  | 0, _ => (.error .notEmpty, f)
  | fuel + 1, number =>
    let node := f.get number
    if !node.permits Mode.read || (!node.entries.isEmpty && !node.permits Mode.search) then
      (.error .accessDenied, f)
    else
      node.entries.foldl (fun (result, f) (name, n) =>
        match result with
        | .error cause => (.error cause, f)
        | .ok () =>
          let (below, f) : Except Cause Unit × Files :=
            if (f.get n).isDirectory then f.emptied fuel n else (.ok (), f)
          match below with
          | .error cause => (.error cause, f)
          | .ok () =>
            if f.mayChange number then (.ok (), f.setEntry number name none)
            else (.error .accessDenied, f)) (.ok (), f)

/-- Removes a directory with everything in it. A link is itself removed. The directory is emptied
before it is known whether the path can be removed under the name given. -/
def removeTree (f : Files) (p : Path) : Except Cause Unit × Files :=
  let ofExcept (f : Files) : Except Cause Files → Except Cause Unit × Files
    | .ok f => (.ok (), f)
    | .error cause => (.error cause, f)
  match f.resolve false p with
  | .error cause => (.error cause, f)
  | .ok (.vacant ..) => (.error .notFound, f)
  | .ok (.found number _) =>
    match (f.get number).body with
    | .link _ => ofExcept f (f.unlink p)
    | .directory .. =>
      match f.emptied (f.nodes.size + 1) number with
      | (.error cause, f) => (.error cause, f)
      | (.ok (), f) => ofExcept f (f.removeDirectory p)
    | _ => (.error .notDirectory, f)

end Files

end Proctor
