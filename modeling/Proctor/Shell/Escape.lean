import Proctor.Decimal.Layout
import Proctor.Shell.Arithmetic
import Proctor.Shell.Text

/-!
# Printing

The two ways in which a shell prints its arguments: as they are, with escapes undone, and by a
format that is used again as long as there are arguments.
-/

set_option autoImplicit false

namespace Proctor

namespace Shell

namespace Escape

def isOctal (c : Char) : Bool := '0' ≤ c && c ≤ '7'

def octal (digits : Text) : Char :=
  Char.ofNat (digits.foldl (fun n c => n * 8 + Text.digitValue c) 0 % 256)

def letter? : Char → Option Char
  | '\\' => some '\\'
  | 'a' => some '\x07'
  | 'b' => some '\x08'
  | 'e' => some '\x1b'
  | 'f' => some '\x0c'
  | 'n' => some '\n'
  | 'r' => some '\r'
  | 't' => some '\t'
  | 'v' => some '\x0b'
  | _ => none

def undo (rest : Text) : Text × Text :=
  match rest with
  | [] => (['\\'], [])
  | c :: after =>
    let digits := (rest.take 3).takeWhile isOctal
    if !digits.isEmpty then ([octal digits], rest.drop digits.length)
    else
      match letter? c with
      | some d => ([d], after)
      | none => (['\\'], rest)

/-- Undoes all escapes of an argument; false if one of them ends the printing. A zero may come
before octal digits. -/
def argument : Nat → Text → Text × Bool
  | 0, t => (t, true)
  | _, [] => ([], true)
  | _, '\\' :: 'c' :: _ => ([], false)
  | fuel + 1, '\\' :: '0' :: c :: rest =>
    let (chars, left) := if isOctal c then undo (c :: rest) else undo ('0' :: c :: rest)
    let (more, goesOn) := argument fuel left
    (chars ++ more, goesOn)
  | fuel + 1, '\\' :: rest =>
    let (chars, left) := undo rest
    let (more, goesOn) := argument fuel left
    (chars ++ more, goesOn)
  | fuel + 1, c :: rest =>
    let (more, goesOn) := argument fuel rest
    (c :: more, goesOn)

def arguments : List Text → Text × Bool
  | [] => ([], true)
  | [t] => argument (t.length + 1) t
  | t :: rest =>
    match argument (t.length + 1) t with
    | (text, false) => (text, false)
    | (text, true) =>
      let (more, goesOn) := arguments rest
      (text ++ ' ' :: more, goesOn)

def echo (args : List Text) : Text :=
  let (newline, args) :=
    match args with
    | ['-', 'n'] :: rest => (false, rest)
    | _ => (true, args)
  match arguments args with
  | (text, true) => if newline then text ++ ['\n'] else text
  | (text, false) => text

end Escape

namespace Format

structure Directive where
  /-- The directive as it was written. -/
  text : Text
  flags : Text := []
  width : Text := []
  precision : Option Text := none
  conversion : Char
  deriving DecidableEq, Repr

inductive Item where
  | text (t : Text)
  | directive (d : Directive)
  /-- A percent sign with nothing to convert. -/
  | unfinished
  deriving DecidableEq, Repr

def isFlag (c : Char) : Bool := c == '#' || c == '-' || c == '+' || c == ' ' || c == '0'

def isSize (c : Char) : Bool := c == '*' || c.isDigit

def takeDirective (t : Text) : Option (Directive × Text) :=
  let flags := t.takeWhile isFlag
  let rest := t.dropWhile isFlag
  let width := rest.takeWhile isSize
  let rest := rest.dropWhile isSize
  let (precision, rest) : Option Text × Text :=
    match rest with
    | '.' :: after => (some (after.takeWhile isSize), after.dropWhile isSize)
    | _ => (none, rest)
  match rest with
  | [] => none
  | c :: after =>
    let text := '%' :: t.take (t.length - after.length)
    some ({ text, flags, width, precision, conversion := c }, after)

def items : Nat → Text → List Item
  | 0, _ => []
  | _, [] => []
  | fuel + 1, '\\' :: rest =>
    let (chars, left) := Escape.undo rest
    .text chars :: items fuel left
  | fuel + 1, '%' :: '%' :: rest => .text ['%'] :: items fuel rest
  | fuel + 1, '%' :: rest =>
    match takeDirective rest with
    | none => [.unfinished]
    | some (d, left) => .directive d :: items fuel left
  | fuel + 1, c :: rest => .text [c] :: items fuel rest

/-- What printing by a format gives. The output is kept in parts, last one first. -/
structure Printed where
  parts : List Text := []
  errors : List Text := []
  status : Nat := 0
  arguments : List Text
  used : Bool := false
  stopped : Bool := false

namespace Printed

def output (p : Printed) : Text := p.parts.reverse.flatten

def write (p : Printed) (t : Text) : Printed := { p with parts := t :: p.parts }

def take (p : Printed) : Option Text × Printed :=
  match p.arguments with
  | [] => (none, p)
  | a :: rest => (some a, { p with arguments := rest, used := true })

def warn (p : Printed) (message : Text) : Printed :=
  { p with errors := p.errors ++ [message], status := 1 }

def refuse (p : Printed) (message : Text) : Printed :=
  { p with errors := p.errors ++ [message], status := 2, stopped := true }

end Printed

def numberFault? (t rest : Text) (outOfRange : Bool) : Option Text :=
  if !rest.isEmpty then
    if rest.length = t.length then some (t ++ ": expected numeric value".toList)
    else some (t ++ ": not completely converted".toList)
  else if outOfRange then some (t ++ ": Numerical result out of range".toList)
  else none

def quotedNumber? : Text → Option Nat
  | '\'' :: rest => some ((rest.head?.map Char.toNat).getD 0)
  | '\x22' :: rest => some ((rest.head?.map Char.toNat).getD 0)
  | _ => none

def inRange (signed : Bool) (n : Int) : Int :=
  if signed then Arithmetic.saturate n
  else if (twoTo 64 : Int) ≤ n.natAbs then (twoTo 64 : Int) - 1
  else n % (twoTo 64 : Int)

def wholeNumber (signed : Bool) (t : Text) : Int × Option Text :=
  match quotedNumber? t with
  | some n => (n, none)
  | none =>
    let (n, rest) := Arithmetic.signedConstant t
    let outOfRange := if signed then Arithmetic.saturate n ≠ n else (twoTo 64 : Int) ≤ n.natAbs
    (inRange signed n, numberFault? t rest outOfRange)

def quantity (t : Text) : Quantity × Option Text :=
  match quotedNumber? t with
  | some n => (.finite false ((Binary.ofRatio n 1).getD ⟨0, 0⟩), none)
  | none =>
    match Quantity.read? t with
    | none => (Quantity.zero, numberFault? t t false)
    | some found => (found.value, numberFault? t found.rest found.outOfRange)

def noting (p : Printed) : Option Text → Printed
  | none => p
  | some message => p.warn message

def size (p : Printed) (t : Text) : Int × Printed :=
  if t.head? == some '*' then
    match p.take with
    | (none, p) => (0, p)
    | (some a, p) =>
      let (n, fault) := wholeNumber true a
      (n, noting p fault)
  else ((Text.decimal? t).getD 0, p)

def layoutOf (p : Printed) (d : Directive) : Layout × Printed :=
  let (width, p) := size p d.width
  let (precision, p) : Option Nat × Printed :=
    match d.precision with
    | none => (none, p)
    | some t =>
      let (n, p) := size p t
      (if n < 0 then none else some n.toNat, p)
  ({ left := d.flags.contains '-' || width < 0
     zero := d.flags.contains '0'
     plus := d.flags.contains '+'
     space := d.flags.contains ' '
     full := d.flags.contains '#'
     width := width.natAbs
     precision }, p)

def directive (p : Printed) (d : Directive) : Printed :=
  let (layout, p) := layoutOf p d
  let cut (t : Text) : Text :=
    match layout.precision with
    | some n => t.take n
    | none => t
  let whole (signed : Bool) (render : Int → Text) : Printed :=
    match p.take with
    | (none, p) => p.write (render 0)
    | (some a, p) =>
      let (n, fault) := wholeNumber signed a
      (noting p fault).write (render n)
  match d.conversion with
  | 's' =>
    let (a, p) := p.take
    p.write (layout.place (cut (a.getD [])))
  | 'b' =>
    let (a, p) := p.take
    let a := a.getD []
    let (text, goesOn) := Escape.argument (a.length + 1) a
    { p.write (layout.place (cut text)) with stopped := !goesOn }
  | 'c' =>
    let (a, p) := p.take
    p.write (layout.place [((a.bind List.head?).getD '\x00')])
  | 'd' => whole true layout.decimal
  | 'i' => whole true layout.decimal
  | 'o' => whole false fun n => layout.octal n.toNat
  | 'u' => whole false fun n => layout.unsigned n.toNat
  | 'x' => whole false fun n => layout.hexadecimal false n.toNat
  | 'X' => whole false fun n => layout.hexadecimal true n.toNat
  | c =>
    if "aAeEfFgG".toList.contains c then
      match p.take with
      | (none, p) => p.write (layout.quantity c Quantity.zero)
      | (some a, p) =>
        let (q, fault) := quantity a
        (noting p fault).write (layout.quantity c q)
    else p.refuse (d.text ++ ": invalid directive".toList)

def item (p : Printed) : Item → Printed
  | .text t => if p.stopped then p else p.write t
  | .directive d => if p.stopped then p else directive p d
  | .unfinished => if p.stopped then p else p.refuse "missing format character".toList

def rounds (format : List Item) : Nat → Printed → Printed
  | 0, p => p
  | fuel + 1, p =>
    let p := format.foldl item { p with used := false }
    if p.stopped || !p.used || p.arguments.isEmpty then p else rounds format fuel p

def print (format : Text) (args : List Text) : Printed :=
  rounds (items (format.length + 1) format) (args.length + 1) { arguments := args }

end Format

end Shell

end Proctor
