import Proctor.Cause
import Proctor.Files.Node

/-!
# Following a path

A path is walked piece by piece from the root or from the working directory. Symbolic links on the
way are followed, a limited number of times; one at the very end is followed only if asked. The walk
ends at a node, or at a name that is free in an existing directory. Nothing is found in a directory
that may not be searched.
-/

set_option autoImplicit false

namespace Proctor

/-- All nodes by number, and what belongs to whoever looks at them: the directory where relative
paths start, the time, and the permissions that new nodes do not get. -/
structure Files where
  nodes : Array Node
  here : Nat
  now : Nat := 0
  mask : Nat := 0o022
  deriving Inhabited

/-- Where a path leads. A node is found under an entry of a directory, unless the path ends with
dots. -/
inductive Place where
  | found (number : Nat) (entry : Option (Nat × Bytes))
  | vacant (parent : Nat) (name : Bytes) (slashed : Bool)
  deriving DecidableEq, Repr

namespace Files

def linkLimit : Nat := 40

def nameLimit : Nat := 255

def pathLimit : Nat := 4096

def root : Nat := 0

def get (f : Files) (number : Nat) : Node := f.nodes[number]?.getD ⟨.device .null, 0, 0⟩

def above (f : Files) (number : Nat) : Nat :=
  match (f.get number).body with
  | .directory _ above => above
  | _ => root

def walk (f : Files) (follow : Bool) (links : Nat) (here : Nat) (entry : Option (Nat × Bytes))
    (pieces : List Bytes) : Except Cause Place :=
  match pieces with
  | [] => .ok (.found here entry)
  | piece :: rest =>
    let node := f.get here
    match node.body with
    | .directory entries above =>
      if piece = [] then walk f follow links here entry rest
      else if !node.permits Mode.search then .error .accessDenied
      else if piece = [dot] then walk f follow links here none rest
      else if piece = [dot, dot] then walk f follow links above none rest
      else if nameLimit < piece.length then .error .nameTooLong
      else
        match entries.lookup piece with
        | none =>
          if rest.all List.isEmpty then .ok (.vacant here piece (!rest.isEmpty))
          else .error .notFound
        | some number =>
          match (f.get number).body with
          | .link target =>
            if rest.isEmpty && !follow then .ok (.found number (some (here, piece)))
            else if target.bytes.isEmpty then .error .notFound
            else
              match links with
              | 0 => .error .tooManyLinks
              | links + 1 =>
                walk f follow links (if target.isAbsolute then root else here) none
                  (target.pieces ++ rest)
          | _ => walk f follow links number (some (here, piece)) rest
    | _ => .error .notDirectory
termination_by (links, pieces.length)

def resolve (f : Files) (follow : Bool) (p : Path) : Except Cause Place :=
  if p.bytes.contains 0 then .error .nulInPath
  else if p.bytes.isEmpty then .error .notFound
  else if pathLimit ≤ p.bytes.length then .error .nameTooLong
  else walk f follow linkLimit (if p.isAbsolute then root else f.here) none p.pieces

def number (f : Files) (follow : Bool) (p : Path) : Except Cause Nat := do
  match ← f.resolve follow p with
  | .found number _ => .ok number
  | .vacant .. => .error .notFound

def node (f : Files) (p : Path) : Except Cause Node := do return f.get (← f.number true p)

def nodeItself (f : Files) (p : Path) : Except Cause Node := do return f.get (← f.number false p)

def isDirectory (f : Files) (p : Path) : Bool :=
  match f.node p with
  | .ok node => node.isDirectory
  | .error _ => false

def isFile (f : Files) (p : Path) : Bool :=
  match f.node p with
  | .ok node => node.isRegular
  | .error _ => false

def isPresent (f : Files) (p : Path) : Bool := (f.node p).toBool

def content (f : Files) (p : Path) : Except Cause Bytes := do
  let node ← f.node p
  if !node.permits Mode.read then .error .accessDenied
  else if node.isDirectory then .error .isDirectory
  else .ok node.content

def names (f : Files) (p : Path) : Except Cause (List Bytes) := do
  let node ← f.node p
  match node.body with
  | .directory entries _ =>
    if node.permits Mode.read then .ok (entries.map Prod.fst) else .error .accessDenied
  | _ => .error .notDirectory

/-- The name under which a directory stands in the one above it; none once it has been removed. -/
def nameOf? (f : Files) (number : Nat) : Option Bytes :=
  ((f.get (f.above number)).entries.find? fun e => e.2 = number).map Prod.fst

def locationFrom (f : Files) : Nat → Nat → List Bytes → Option (List Bytes)
  | 0, _, _ => none
  | fuel + 1, number, below =>
    if number = root then some below
    else
      match f.nameOf? number with
      | none => none
      | some name => f.locationFrom fuel (f.above number) (name :: below)

def pathTo? (f : Files) (number : Nat) : Option Path :=
  (f.locationFrom (f.nodes.size + 1) number []).map fun names =>
    if names.isEmpty then ⟨[slash]⟩ else ⟨names.flatMap fun name => slash :: name⟩

def countNames (f : Files) (number : Nat) : Nat :=
  f.nodes.foldl (fun n node => n + (node.entries.filter fun e => e.2 = number).length) 0

def pathsBelow (f : Files) : Nat → Bytes → Nat → List Bytes
  | 0, _, _ => []
  | fuel + 1, start, number =>
    (f.get number).entries.flatMap fun (name, n) =>
      (start ++ name ++ (f.get n).mark) :: f.pathsBelow fuel (start ++ name ++ [slash]) n

def tree (f : Files) : List String :=
  ((f.pathsBelow (f.nodes.size + 1) [] f.here).map Bytes.lossy).mergeSort fun a b => decide (a ≤ b)

end Files

end Proctor
