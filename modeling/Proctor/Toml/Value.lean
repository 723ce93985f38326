import Proctor.Decimal.Binary

/-!
# Values of a TOML document

Integers are kept as they are written, of any size, and so is the fact that a number with a point is
too large to hold; which of them can be used is up to the reader of the document. Of dates and times
only their presence matters here. A table remembers how it came to be, since that decides what may
still be added to it.
-/

set_option autoImplicit false

namespace Proctor.Toml

inductive TableKind where
  /-- By a header of its own; the document itself counts as such. -/
  | declared
  /-- By a longer header. -/
  | implied
  /-- By a dotted key. -/
  | dotted
  /-- Between braces; nothing can be added later. -/
  | inlined
  deriving DecidableEq, Repr

inductive Magnitude where
  | finite (value : Binary)
  | infinite
  | notANumber
  /-- Too large to be held. -/
  | overflow
  deriving DecidableEq, Repr

inductive Value where
  | string (text : String)
  | integer (n : Int)
  | float (negative : Bool) (magnitude : Magnitude)
  | boolean (b : Bool)
  /-- A date, a time, or both. -/
  | moment
  /-- A list of values, or of tables each with a header of its own. -/
  | array (headed : Bool) (items : List Value)
  | table (kind : TableKind) (entries : List (String × Value))
  deriving Repr

abbrev Entries := List (String × Value)

def Entries.get? (entries : Entries) (key : String) : Option Value :=
  List.lookup key entries

def Entries.set (entries : Entries) (key : String) (value : Value) : Entries :=
  entries.map fun entry => if entry.1 = key then (key, value) else entry

def fitsWord (n : Int) : Bool := -9223372036854775808 ≤ n && n ≤ 9223372036854775807

mutual

/-- Whether every number in the value can be held: integers in a signed word, others without
overflow. -/
def Value.isHeld : Value → Bool
  | .integer n => fitsWord n
  | .float _ .overflow => false
  | .array _ items => itemsHeld items
  | .table _ entries => entriesHeld entries
  | _ => true

def itemsHeld : List Value → Bool
  | [] => true
  | item :: items => item.isHeld && itemsHeld items

def entriesHeld : List (String × Value) → Bool
  | [] => true
  | (_, value) :: entries => value.isHeld && entriesHeld entries

end

end Proctor.Toml
