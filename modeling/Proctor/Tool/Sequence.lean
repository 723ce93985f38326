import Proctor.Decimal.Layout
import Proctor.Tool.Options

/-!
# Sequences of numbers

`seq` counts in decimal steps. Numbers are kept as whole numbers of the smallest decimal unit that
any of them uses, so that counting is exact.
-/

set_option autoImplicit false

namespace Proctor

namespace Tool

open Shell

namespace Sequence

/-- A decimal number as it was written: `digits` units of which `tenTo places` make one. -/
structure Number where
  digits : Int
  places : Nat := 0
  /-- Characters it takes. -/
  width : Nat := 0
  /-- There is no end in its direction. -/
  endless : Bool := false
  deriving Inhabited

def Number.scaled (n : Number) (places : Nat) : Int := n.digits * (tenTo (places - n.places) : Nat)

inductive Reading where
  | number (n : Number)
  | notNumber
  | wrong

def read (t : Text) : Reading :=
  let core := t.dropWhile Quantity.isSpace
  let core := if core.head? == some '+' then core.tail else core
  match Quantity.read? core with
  | none => .wrong
  | some found =>
    if !found.rest.isEmpty || core.isEmpty then .wrong
    else
      match found.value with
      | .notNumber _ => .notNumber
      | .infinite negative =>
        .number { digits := if negative then -1 else 1, endless := true, width := core.length }
      | .finite negative size =>
        let body := if negative then core.tail else core
        let (n, places, isDecimal, rest) := Quantity.pointedDigits Quantity.digit? 10 body
        let (e, rest) := Quantity.exponent 'e' 'E' rest
        let sign : Int := if negative then -1 else 1
        if isDecimal && rest.isEmpty then
          let shown : Int := places - e
          if 0 ≤ shown then
            let extra := if body.head? == some (Char.ofNat 46) then 1 else 0
            .number { digits := sign * n, places := shown.toNat, width := core.length + extra }
          else .number { digits := sign * n * (tenTo e.toNat : Nat), width := core.length }
        else
          let (p, q) := size.ratio
          .number { digits := sign * (p / q : Nat), width := core.length }

def render (places : Nat) (n : Int) : Text :=
  let digits := Nat.toDigits 10 n.natAbs
  let digits := List.replicate (places + 1 - digits.length) '0' ++ digits
  let whole := digits.take (digits.length - places)
  let fraction := digits.drop (digits.length - places)
  (if n < 0 then ['-'] else []) ++ whole ++ if places = 0 then [] else '.' :: fraction

def padded (width : Nat) (t : Text) : Text :=
  match t with
  | '-' :: digits => '-' :: List.replicate (width - 1 - digits.length) '0' ++ digits
  | digits => List.replicate (width - digits.length) '0' ++ digits

structure Format where
  before : Text
  layout : Layout
  letter : Char
  after : Text

def plainPart : Nat → Text → Text × Option Text
  | 0, _ => ([], none)
  | _, [] => ([], none)
  | fuel + 1, '%' :: '%' :: rest =>
    let (t, more) := plainPart fuel rest
    ('%' :: t, more)
  | _, '%' :: rest => ([], some rest)
  | fuel + 1, c :: rest =>
    let (t, more) := plainPart fuel rest
    (c :: t, more)

def readFormat (t : Text) : Except Text Format :=
  let wrong (what : Text) : Except Text Format :=
    .error ("format ".toList ++ quoted t ++ ' ' :: what)
  match plainPart (t.length + 1) t with
  | (_, none) => wrong "has no % directive".toList
  | (before, some rest) =>
    let flags := rest.takeWhile fun c => "-+#0 '".toList.contains c
    let rest := rest.drop flags.length
    let width := rest.takeWhile Char.isDigit
    let rest := rest.drop width.length
    let (precision, rest) : Option Nat × Text :=
      match rest with
      | '.' :: more =>
        let digits := more.takeWhile Char.isDigit
        (some ((Text.decimal? digits).getD 0), more.drop digits.length)
      | rest => (none, rest)
    let rest := if rest.head? == some 'L' then rest.tail else rest
    match rest with
    | [] => wrong "ends in %".toList
    | letter :: rest =>
      if !"efgaEFGA".toList.contains letter then
        wrong ("has unknown %".toList ++ letter :: " directive".toList)
      else
        match plainPart (rest.length + 1) rest with
        | (_, some _) => wrong "has too many % directives".toList
        | (after, none) =>
          .ok {
            before
            letter
            after
            layout :=
              { left := flags.contains '-', zero := flags.contains '0', plus := flags.contains '+'
                space := flags.contains ' ', full := flags.contains '#'
                width := (Text.decimal? width).getD 0, precision } }

def Format.apply (f : Format) (number : Text) : Text :=
  let value := ((Quantity.read? number).map Quantity.Found.value).getD .zero
  f.before ++ f.layout.quantity f.letter value ++ f.after

def count (step : Int) (last : Option Int) : Nat → Int → List Int
  | 0, _ => []
  | fuel + 1, n =>
    let isOver := last.any fun last => if 0 ≤ step then last < n else n < last
    if isOver then [] else n :: count step last fuel (n + step)

def usage : Usage :=
  { letters := "f:s:w"
    names := [⟨"equal-width", "w", .nothing⟩, ⟨"format", "f", .something⟩,
      ⟨"separator", "s", .something⟩, ⟨"help", "help", .nothing⟩, ⟨"version", "version", .nothing⟩]
    optionsFirst := true }

/-- Arguments with a mark before a negative number that comes after options only. -/
def marked : List Text → List Text
  | [] => []
  | ['-', '-'] :: rest => ['-', '-'] :: rest
  | ['-', 's'] :: value :: rest => ['-', 's'] :: value :: marked rest
  | ['-', 'f'] :: value :: rest => ['-', 'f'] :: value :: marked rest
  | a :: rest =>
    match a with
    | '-' :: c :: _ => if c.isDigit || c == '.' then ['-', '-'] :: a :: rest else a :: marked rest
    | _ => a :: rest

def readNumber (t : Text) : Work Number := do
  match read t with
  | .number n => return n
  | .notNumber => Work.misuse 1 ("invalid 'not-a-number' argument: ".toList ++ quoted t)
  | .wrong => Work.misuse 1 ("invalid floating point argument: ".toList ++ quoted t)

def portion : Nat := 1000

def print (render : Int → Text) (separator : Text) (step : Int) (last : Option Int) :
    Nat → Bool → Int → Work Nat
  | 0, _, _ => return 0
  | fuel + 1, isFirst, next => do
    match count step last portion next with
    | [] => do
      if !isFirst then Work.say ['\n']
      return 0
    | numbers => do
      let text := numbers.flatMap fun n => separator ++ render n
      Work.say (if isFirst then text.drop separator.length else text)
      print render separator step last fuel false (next + step * (numbers.length : Int))

def work : Work Nat := do
  let q ← Work.request
  let a ←
    match usage.read (q.arguments.length + 2) (marked q.arguments) with
    | .ok a => pure a
    | .error message => Work.misuse 1 message
  let numbers := a.operands
  if numbers.isEmpty then Work.misuse 1 "missing operand".toList
  if let some extra := numbers[3]? then
    Work.misuse 1 ("extra operand ".toList ++ quoted extra)
  let one : Number := { digits := 1, width := 1 }
  let (first, step, last) ←
    match numbers with
    | [last] => do pure (one, one, ← readNumber last)
    | [first, last] => do pure (← readNumber first, one, ← readNumber last)
    | first :: step :: last :: _ => do
      let first ← readNumber first
      let stepNumber ← readNumber step
      if stepNumber.digits = 0 then
        Work.misuse 1 ("invalid Zero increment value: ".toList ++ quoted step)
      pure (first, stepNumber, ← readNumber last)
    | [] => pure (one, one, one)
  let shown := max first.places step.places
  let places := max shown last.places
  let finite := if last.endless then none else some (last.scaled places)
  let width :=
    let point (n : Number) : Int := (shown : Int) - n.places
    let firstWidth : Int := first.width + point first +
      (if first.places = 0 && 0 < shown then 1 else 0)
    let lastWidth : Int := last.width + point last +
      (if last.places = 0 && 0 < shown then 1 else 0) -
      (if 0 < last.places && shown = 0 then 1 else 0)
    (max firstWidth lastWidth).toNat
  let plain (n : Int) : Text := render shown (n / (tenTo (places - shown) : Nat))
  let render ←
    match a.get? "f" with
    | some text =>
      match readFormat text with
      | .ok f => pure fun n => f.apply (plain n)
      | .error message => Work.fail 1 message
    | none => pure (if a.has "w" then fun n => padded width (plain n) else plain)
  print render ((a.get? "s").getD ['\n']) (step.scaled places) finite Work.readLimit true
    (first.scaled places)

end Sequence

end Tool

end Proctor
