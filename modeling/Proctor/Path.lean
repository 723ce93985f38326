import Proctor.Text.Utf8

/-!
# Paths

A path is kept as it was written, byte for byte, and shown with replacement characters. Two readings
are given: as pieces between slashes, and as components, which forget repeated slashes and every `.`
but a leading one. The last component can be read from the end of the path alone. Nothing here looks
at a file system, so `..` is a component like any other.
-/

set_option autoImplicit false

namespace Proctor

def slash : UInt8 := 0x2F
def dot : UInt8 := 0x2E

def Bytes.split (separator : UInt8) : Bytes → List Bytes
  | [] => [[]]
  | b :: rest =>
    if b = separator then [] :: split separator rest
    else
      match split separator rest with
      | [] => [[b]]
      | piece :: pieces => (b :: piece) :: pieces

def Bytes.join (separator : UInt8) : List Bytes → Bytes
  | [] => []
  | [piece] => piece
  | piece :: pieces => piece ++ separator :: join separator pieces

structure Path where
  bytes : Bytes
  deriving DecidableEq, Repr, Inhabited

inductive Component where
  | root
  | current
  | parent
  | name (bytes : Bytes)
  deriving DecidableEq, Repr

namespace Path

def ofString (s : String) : Path := ⟨Bytes.ofString s⟩

def display (p : Path) : String := p.bytes.lossy

def isAbsolute (p : Path) : Bool := p.bytes.head? == some slash

def pieces (p : Path) : List Bytes := p.bytes.split slash

/-- `q` seen from `p`. An absolute `q` stands for itself. -/
def join (p q : Path) : Path :=
  if q.isAbsolute || p.bytes.isEmpty then q
  else if p.bytes.getLast? == some slash then ⟨p.bytes ++ q.bytes⟩
  else ⟨p.bytes ++ slash :: q.bytes⟩

def component? (piece : Bytes) : Option Component :=
  if piece = [] ∨ piece = [dot] then none
  else if piece = [dot, dot] then some .parent
  else some (.name piece)

/-- The component that the first piece stands for. It is empty in an absolute path. -/
def firstComponent? (p : Path) (piece : Bytes) : Option Component :=
  if p.isAbsolute then some .root
  else if piece = [dot] then some .current
  else component? piece

def components (p : Path) : List Component :=
  match p.pieces with
  | [] => []
  | piece :: rest => (p.firstComponent? piece).toList ++ rest.filterMap component?

/-- The last component, read from the end of the path. -/
def lastComponent? (p : Path) : Option Component :=
  readBack [] p.bytes.reverse
where
  /-- Goes on with what comes before `piece`, last byte first. -/
  readBack (piece : Bytes) : Bytes → Option Component
    | [] => p.firstComponent? piece
    | b :: before =>
      if b = slash then
        match component? piece with
        | some last => some last
        | none => readBack [] before
      else readBack (b :: piece) before

/-- Drops the last component of a path given as its pieces, last one first, together with what does
not count after the component before it. -/
def dropLast : List Bytes → List Bytes
  | [] => []
  | [_] => []
  | piece :: rest =>
    match component? piece with
    | none => dropLast rest
    | some _ => trim rest
where
  trim : List Bytes → List Bytes
    | [] => []
    | [piece] => [piece]
    | piece :: rest => if (component? piece).isSome then piece :: rest else trim rest

def parent? (p : Path) : Option Path :=
  match p.components.getLast? with
  | none => none
  | some .root => none
  | some _ =>
    let pieces := (dropLast p.pieces.reverse).reverse
    if pieces = [[]] ∧ p.isAbsolute then some ⟨[slash]⟩ else some ⟨Bytes.join slash pieces⟩

end Path

end Proctor
