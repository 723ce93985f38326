/-!
# Terminal sequences

A message for people may hold sequences that steer a terminal. Where it goes somewhere else, they
are taken out, and so are the control characters other than blanks.
-/

set_option autoImplicit false

namespace Proctor

namespace Terminal

inductive Phase where
  | text
  | escape
  | designation
  | sequence
  | title
  | string
  deriving DecidableEq, Repr

def isBetween (low high : Nat) (c : Char) : Bool := low ≤ c.toNat && c.toNat ≤ high

def isBlankControl (c : Char) : Bool := c == '\t' || c == '\n' || c == '\x0c' || c == '\r'

def begun (c : Char) : Phase :=
  if isBetween 0x20 0x2F c then .designation
  else
    match c with
    | '[' => .sequence
    | ']' => .title
    | 'P' => .string
    | 'X' => .string
    | '^' => .string
    | '_' => .string
    | _ => if isBetween 0x30 0x7E c then .text else .escape

/-- Reads one character: the phase after it, and whether it is kept. -/
def step (phase : Phase) (c : Char) : Phase × Bool :=
  if c == '\x18' || c == '\x1a' then (.text, false)
  else if c == '\x1b' then (.escape, false)
  else if 0x80 ≤ c.toNat then (.text, true)
  else
    match phase with
    | .text => (.text, isBetween 0x20 0x7E c || isBlankControl c)
    | .title => (if c == '\x07' then .text else .title, false)
    | .string => (.string, false)
    | .escape => if isBlankControl c then (.text, true) else (begun c, false)
    | .designation =>
      if isBlankControl c then (.text, true)
      else (if isBetween 0x30 0x7E c then .text else .designation, false)
    | .sequence =>
      if isBlankControl c then (.text, true)
      else (if isBetween 0x40 0x7E c then .text else .sequence, false)

def plainFrom : Phase → List Char → List Char
  | _, [] => []
  | phase, c :: rest =>
    match step phase c with
    | (next, true) => c :: plainFrom next rest
    | (next, false) => plainFrom next rest

/-- The text without terminal sequences. One that is not finished ends with the text. -/
def plain (s : String) : String := String.ofList (plainFrom .text s.toList)

end Terminal

end Proctor
