import Proctor.Toml.Statement

/-!
# TOML documents

The table that the statements of a text describe, or nothing if the text is not a document: it
cannot be read, or it says something twice.
-/

set_option autoImplicit false

namespace Proctor.Toml

structure Draft where
  entries : Entries := []
  place : List String := []

def Draft.add (d : Draft) : Statement → Option Draft
  | .header keys => (declare keys d.entries).map fun entries => ⟨entries, keys⟩
  | .itemHeader keys => (declareItem keys d.entries).map fun entries => ⟨entries, keys⟩
  | .pair keys value =>
    (changeAt .header (addPair keys value) d.place .declared d.entries).map fun entries =>
      { d with entries }

def dropMark : List Char → List Char
  | c :: rest => if c.toNat = 0xFEFF then rest else c :: rest
  | [] => []

def parse? (text : List Char) : Option Entries := do
  let text := dropMark text
  let statements ← statements (text.length + 1) text
  let draft ← statements.foldlM Draft.add {}
  return draft.entries

end Proctor.Toml
