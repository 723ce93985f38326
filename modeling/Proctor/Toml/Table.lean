import Proctor.Toml.Value

/-!
# Building tables

Where a key or a header leads, and what it may still add there. A header may pass through any table
but one between braces; a dotted key may only pass through tables that no header has declared, and
must end in one that dotted keys made. A list of headed tables stands for its last one.
-/

set_option autoImplicit false

namespace Proctor.Toml

inductive Walk where
  | header
  | dottedKey
  deriving DecidableEq, Repr

def Walk.made : Walk → TableKind
  | .header => .implied
  | .dottedKey => .dotted

def Walk.mayEnter : Walk → TableKind → Bool
  | .header, kind => kind ≠ .inlined
  | .dottedKey, kind => kind = .implied || kind = .dotted

/-- Changes the table at the end of a path by `change`, which is told its kind. Tables on the way
are made where they are missing; nothing is answered where the walk is not allowed. -/
def changeAt (walk : Walk) (change : TableKind → Entries → Option Entries) :
    List String → TableKind → Entries → Option Entries
  | [], kind, entries => change kind entries
  | key :: path, _, entries =>
    match entries.get? key with
    | none =>
      (changeAt walk change path walk.made []).map fun inner =>
        entries ++ [(key, .table walk.made inner)]
    | some (.table kind inner) =>
      if walk.mayEnter kind then
        (changeAt walk change path kind inner).map fun inner => entries.set key (.table kind inner)
      else none
    | some (.array true items) =>
      match items.getLast? with
      | some (.table kind inner) =>
        (changeAt walk change path kind inner).map fun inner =>
          entries.set key (.array true (items.dropLast ++ [.table kind inner]))
      | _ => none
    | some _ => none

def addNew (key : String) (value : Value) (entries : Entries) : Option Entries :=
  match entries.get? key with
  | none => some (entries ++ [(key, value)])
  | some _ => none

def splitLast : List String → Option (List String × String)
  | [] => none
  | [key] => some ([], key)
  | key :: rest => (splitLast rest).map fun (path, last) => (key :: path, last)

def addPair (keys : List String) (value : Value) (kind : TableKind) (entries : Entries) :
    Option Entries := do
  let (path, key) ← splitLast keys
  changeAt .dottedKey
    (fun kind entries => if path.isEmpty || kind = .dotted then addNew key value entries else none)
    path kind entries

/-- Declares the table of a header. It may exist already only if a longer header implied it. -/
def declare (keys : List String) (entries : Entries) : Option Entries := do
  let (path, key) ← splitLast keys
  changeAt .header
    (fun _ entries =>
      match entries.get? key with
      | none => some (entries ++ [(key, .table .declared [])])
      | some (.table .implied inner) => some (entries.set key (.table .declared inner))
      | some _ => none)
    path .declared entries

def declareItem (keys : List String) (entries : Entries) : Option Entries := do
  let (path, key) ← splitLast keys
  changeAt .header
    (fun _ entries =>
      match entries.get? key with
      | none => some (entries ++ [(key, .array true [.table .declared []])])
      | some (.array true items) =>
        some (entries.set key (.array true (items ++ [.table .declared []])))
      | some _ => none)
    path .declared entries

def inlineTable (pairs : List (List String × Value)) : Option Value :=
  (pairs.foldlM (fun entries pair => addPair pair.1 pair.2 .inlined entries) []).map
    (.table .inlined)

end Proctor.Toml
