import Proctor.Decimal.Layout
import Proctor.Shell.Text

/-!
# Values of pattern programs

A value is a number or a text, or a text from the input that looks like a number and is compared as
one. A number that is whole is shown in full, and others by a format.
-/

set_option autoImplicit false

namespace Proctor

namespace Tool

open Shell

namespace Awk

inductive Value where
  | nothing
  | number (f : Float)
  | text (t : Text)
  | input (t : Text) (f : Float)
  deriving Inhabited

def quantityOf (f : Float) : Quantity :=
  let bits := f.toBits.toNat
  let negative := twoTo 63 ≤ bits
  let e := bits / twoTo 52 % 2048
  let m := bits % twoTo 52
  if f.isNaN then .notNumber true
  else if e = 2047 then .infinite negative
  else if e = 0 then .finite negative ⟨m, Binary.leastExponent⟩
  else .finite negative ⟨m + twoTo 52, (e : Int) - 1075⟩

def numberOf (q : Quantity) : Float :=
  let signed (negative : Bool) (bits : Nat) : Float :=
    Float.ofBits (UInt64.ofNat (if negative then bits + twoTo 63 else bits))
  match q with
  | .notNumber _ => 0.0 / 0.0
  | .infinite negative => signed negative (2047 * twoTo 52)
  | .finite negative b =>
    if b.mantissa < twoTo 52 then signed negative b.mantissa
    else signed negative ((b.exponent + 1075).toNat * twoTo 52 + (b.mantissa - twoTo 52))

def leadingNumber (t : Text) : Float :=
  match Text.decimal? t with
  | some n => if n < 9007199254740992 then Float.ofNat n else read
  | none => read
where
  read : Float := ((Quantity.read? t).map fun found => numberOf found.value).getD 0.0

def isBlank (c : Char) : Bool := c == ' ' || c == '\t' || c == '\n' || c == '\r' || c == '\x0c' ||
  c == '\x0b'

def ofInput (t : Text) : Value :=
  let core := t.dropWhile isBlank
  match core with
  | [] => .text t
  | c :: _ =>
    if c.isDigit || c == '.' || c == '-' || c == '+' then
      match Quantity.read? core with
      | some found =>
        if found.rest.all isBlank then .input t (numberOf found.value) else .text t
      | none => .text t
    else .text t

def wholeLimit : Float := 9.2233720368547e18

def isWhole (f : Float) : Bool := f == f.floor && f < wholeLimit && -wholeLimit < f

def toInt (f : Float) : Int := if f.isNaN then Int64.minValue.toInt else f.toInt64.toInt

namespace Value

def toNumber : Value → Float
  | .nothing => 0.0
  | .number f => f
  | .text t => leadingNumber t
  | .input _ f => f

def isTrue : Value → Bool
  | .nothing => false
  | .number f => f != 0.0
  | .text t => !t.isEmpty
  | .input _ f => f != 0.0

def ofBool (b : Bool) : Value := .number (if b then 1.0 else 0.0)

def ofNat (n : Nat) : Value := .number (Float.ofNat n)

end Value

/-! ### Formats -/

structure Directive where
  layout : Layout := {}
  starWidth : Bool := false
  starPrecision : Bool := false
  letter : Char

def directive? (t : Text) : Option (Directive × Text) :=
  let flags := t.takeWhile fun c => "-+ #0".toList.contains c
  let rest := t.drop flags.length
  let width := rest.takeWhile Char.isDigit
  let rest := rest.drop width.length
  let (starWidth, rest) := match rest with
    | '*' :: more => (true, more)
    | more => (false, more)
  let (precision, starPrecision, rest) : Option Nat × Bool × Text := match rest with
    | '.' :: '*' :: more => (none, true, more)
    | '.' :: more =>
      let digits := more.takeWhile Char.isDigit
      (some ((Text.decimal? digits).getD 0), false, more.drop digits.length)
    | more => (none, false, more)
  let rest := rest.dropWhile fun c => c == 'l' || c == 'h'
  match rest with
  | [] => none
  | letter :: rest =>
    some ({ layout :=
              { left := flags.contains '-', zero := flags.contains '0', plus := flags.contains '+'
                space := flags.contains ' ', full := flags.contains '#'
                width := (Text.decimal? width).getD 0, precision }
            starWidth, starPrecision, letter }, rest)

/-- A number in the words of a machine, where negative ones count from the other end. -/
def unsigned (f : Float) : Nat :=
  let n := toInt f
  if n < 0 then (n + (twoTo 64 : Nat)).toNat
  else if f < wholeLimit then n.toNat
  else f.toUInt64.toNat

mutual

def shown (fuel : Nat) (format : Text) (f : Float) : Text :=
  if isWhole f then Text.ofInt (toInt f)
  else
    match fuel with
    | 0 => []
    | fuel + 1 => ((formatted fuel format format [.number f]).toOption).getD []

def formatted : Nat → Text → Text → List Value → Except Text Text
  | 0, _, _, _ => .ok []
  | _, _, [], _ => .ok []
  | fuel + 1, convert, '%' :: '%' :: rest, values => do
    return '%' :: (← formatted fuel convert rest values)
  | fuel + 1, convert, '%' :: rest, values =>
    match directive? rest with
    | none => .ok ('%' :: rest)
    | some (d, rest) => do
      let (d, values) ← star d.starWidth d values fun n l =>
        if n < 0 then { l with left := true, width := n.natAbs } else { l with width := n.toNat }
      let (d, values) ← star d.starPrecision d values fun n l =>
        { l with precision := if n < 0 then none else some n.toNat }
      match values with
      | [] => .error "not enough arguments passed to ".toList
      | v :: values =>
        match converted fuel convert d v with
        | some t => return t ++ (← formatted fuel convert rest values)
        | none => .error "bad conversion character in ".toList
  | fuel + 1, convert, c :: rest, values => do
    return c :: (← formatted fuel convert rest values)
where
  star (asked : Bool) (d : Directive) (values : List Value) (change : Int → Layout → Layout) :
      Except Text (Directive × List Value) :=
    if !asked then .ok (d, values)
    else
      match values with
      | [] => .error "not enough arguments passed to ".toList
      | v :: values => .ok ({ d with layout := change (toInt v.toNumber) d.layout }, values)

def converted (fuel : Nat) (convert : Text) (d : Directive) (v : Value) : Option Text :=
  let l := d.layout
  match d.letter with
  | 'd' => some (l.decimal (toInt v.toNumber))
  | 'i' => some (l.decimal (toInt v.toNumber))
  | 'o' => some (l.octal (unsigned v.toNumber))
  | 'x' => some (l.hexadecimal false (unsigned v.toNumber))
  | 'X' => some (l.hexadecimal true (unsigned v.toNumber))
  | 'u' => some (l.unsigned (unsigned v.toNumber))
  | 'c' =>
    match v with
    | .number f => some (l.place [Char.ofNat (unsigned f % 256)])
    | .nothing => some (l.place ['\x00'])
    | .text t => some (l.place [t.head?.getD '\x00'])
    | .input t f => some (l.place (if isWhole f then [Char.ofNat (unsigned f % 256)] else t.take 1))
  | 's' =>
    let t : Text := match v with
      | .nothing => []
      | .number f =>
        match fuel with
        | 0 => []
        | fuel + 1 => shown fuel convert f
      | .text t => t
      | .input t _ => t
    some (l.place (match l.precision with
      | some n => t.take n
      | none => t))
  | letter =>
    if "eEfFgGaA".toList.contains letter then some (l.quantity letter (quantityOf v.toNumber))
    else none

end

def Value.toText (format : Text) (v : Value) : Text :=
  match v with
  | .nothing => []
  | .number f => shown (format.length + 4) format f
  | .text t => t
  | .input t _ => t

def before (format : Text) (a b : Value) : Ordering :=
  let numbers : Option (Float × Float) := match a, b with
    | .text _, _ => none
    | _, .text _ => none
    | a, b => some (a.toNumber, b.toNumber)
  match numbers with
  | some (x, y) => if x < y then .lt else if x == y then .eq else .gt
  | none =>
    let s := a.toText format
    let t := b.toText format
    if s < t then .lt else if s = t then .eq else .gt

/-! ### Arrays -/

/-- An array: keys in sixty-four lists by a hash of theirs, and their values. -/
structure Table where
  lists : Array (List (Text × Value)) := Array.replicate 64 []
  size : Nat := 0
  deriving Inhabited

namespace Table

def place (key : Text) : Nat :=
  let hash := key.foldl (fun h c => (Nat.xor h (c.toNat % 256) * 16777619) % 4294967296) 2166136261
  hash % 64

def get? (t : Table) (key : Text) : Option Value :=
  ((t.lists.getD (place key) []).find? fun e => e.1 = key).map Prod.snd

/-- Sets a key. A new one comes first in its list, and so does one that is looked up as text. -/
def insert (t : Table) (asText : Bool) (key : Text) (v : Value) : Table :=
  let i := place key
  let list := t.lists.getD i []
  if list.any fun e => e.1 = key then
    let list :=
      if asText then (key, v) :: list.filter fun e => e.1 ≠ key
      else list.map fun e => if e.1 = key then (key, v) else e
    { t with lists := t.lists.set! i list }
  else { lists := t.lists.set! i ((key, v) :: list), size := t.size + 1 }

def erase (t : Table) (key : Text) : Table :=
  let i := place key
  let list := t.lists.getD i []
  if list.any fun e => e.1 = key then
    { lists := t.lists.set! i (list.filter fun e => e.1 ≠ key), size := t.size - 1 }
  else t

def keys (t : Table) : List Text := t.lists.toList.flatMap fun list => list.map Prod.fst

end Table

end Awk

end Tool

end Proctor
