import Proctor.Path

/-!
# Nodes of a file system

Every node has a number, and directories give names to numbers, so that a file may have several
names or none. The programs that the machine knows by itself and its devices are nodes too.
-/

set_option autoImplicit false

namespace Proctor

inductive Device where
  | null
  | zero
  | full
  | terminal
  deriving DecidableEq, Repr, Inhabited

/-- What a node is. A directory knows the one above it; the root is above itself. -/
inductive Body where
  | file (content : Bytes)
  | link (target : Path)
  | directory (entries : List (Bytes × Nat)) (above : Nat)
  | program (name : String)
  | device (d : Device)
  /-- Leads to a descriptor of whoever opens it. -/
  | descriptor (number : Nat)
  /-- A pipe with a name. -/
  | pipe
  deriving DecidableEq, Repr, Inhabited

structure Node where
  body : Body
  /-- Nine bits of permission, those of the owner first, and three more above them. -/
  mode : Nat
  /-- When it was changed last. -/
  changed : Nat := 0
  deriving DecidableEq, Repr, Inhabited

namespace Mode

/-- The bits of a mode that let the owner read, write, and run or search. -/
def read : Nat := 0o400
def write : Nat := 0o200
def search : Nat := 0o100

/-- The modes that new nodes ask for. -/
def file : Nat := 0o666
def directory : Nat := 0o777

def has (mode bit : Nat) : Bool := Nat.land mode bit ≠ 0

def masked (mode mask : Nat) : Nat := mode - Nat.land mode mask

end Mode

namespace Node

def isDirectory (n : Node) : Bool :=
  match n.body with
  | .directory .. => true
  | _ => false

def isLink (n : Node) : Bool :=
  match n.body with
  | .link _ => true
  | _ => false

def isRegular (n : Node) : Bool :=
  match n.body with
  | .file _ => true
  | .program _ => true
  | _ => false

def content (n : Node) : Bytes :=
  match n.body with
  | .file content => content
  | _ => []

def entries (n : Node) : List (Bytes × Nat) :=
  match n.body with
  | .directory entries _ => entries
  | _ => []

def size (n : Node) : Nat :=
  match n.body with
  | .file content => content.length
  | .link target => target.bytes.length
  | .directory .. => 4096
  | .program _ => 4096
  | _ => 0

/-- Whether the owner may do what a bit of the mode stands for. A link itself forbids nothing. -/
def permits (n : Node) (bit : Nat) : Bool := n.isLink || Mode.has n.mode bit

def mark (n : Node) : Bytes :=
  match n.body with
  | .directory .. => [slash]
  | .link _ => [0x40]
  | _ => []

end Node

def bindName (name : Bytes) (number : Option Nat) : List (Bytes × Nat) → List (Bytes × Nat)
  | [] => (number.map fun n => (name, n)).toList
  | (other, n) :: rest =>
    if other = name then (number.map fun n => (name, n)).toList ++ rest
    else (other, n) :: bindName name number rest

end Proctor
