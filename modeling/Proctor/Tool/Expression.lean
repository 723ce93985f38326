import Proctor.Regex.Read
import Proctor.Tool.Plain

/-!
# Expressions given as arguments

Operators have six ranks, and those of one rank group to the left. A value is a text, and a text of
digits is a number where an operator asks for one. The right side of a choice that is settled is
read but not worked out.
-/

set_option autoImplicit false

namespace Proctor

namespace Tool

open Shell

namespace Expression

structure Cursor where
  last : Text := []
  rest : List Text

abbrev Outcome := Except Text (Text × Cursor)

def isNull (t : Text) : Bool :=
  match t with
  | [] => true
  | '-' :: digits => !digits.isEmpty && digits.all (· == '0')
  | digits => digits.all (· == '0')

def number? (t : Text) : Option Int :=
  match t with
  | '-' :: digits => (Text.decimal? digits).map fun n => -(n : Int)
  | digits => (Text.decimal? digits).map fun n => (n : Int)

def truth (b : Bool) : Text := if b then ['1'] else ['0']

def missing (c : Cursor) : Text :=
  "syntax error: missing argument after ".toList ++ quoted c.last

def next (c : Cursor) : Outcome :=
  match c.rest with
  | [] => .error (missing c)
  | a :: rest => .ok (a, { last := a, rest })

def found (t pattern : Text) : Except Text Text :=
  match Regex.read { extended := false } pattern with
  | .error message => .error message.toList
  | .ok e =>
    match e.regex.atStart {} t with
    | some fit => .ok (if 0 < e.groups then fit.group 1 else Text.ofNat fit.text.length)
    | none => .ok (if 0 < e.groups then [] else ['0'])

def indexOf (t wanted : Text) : Nat :=
  ((t.findIdx? fun c => wanted.contains c).map (· + 1)).getD 0

def part (t start count : Text) : Text :=
  match number? start, number? count with
  | some s, some n => if s ≤ 0 || n ≤ 0 then [] else (t.drop (s.toNat - 1)).take n.toNat
  | _, _ => []

def operators : List (List String) :=
  [["|"], ["&"], ["<", "<=", "=", "==", "!=", ">=", ">"], ["+", "-"], ["*", "/", "%"], [":"]]

def compare (operator : String) (a b : Text) : Bool :=
  let (isLess, isEqual) := match number? a, number? b with
    | some m, some n => (decide (m < n), decide (m = n))
    | _, _ => (decide (a < b), decide (a = b))
  match operator with
  | "<" => isLess
  | "<=" => isLess || isEqual
  | "=" => isEqual
  | "==" => isEqual
  | "!=" => !isEqual
  | ">=" => !isLess
  | _ => !isLess && !isEqual

def calculate (operator : String) (a b : Text) : Except Text Text :=
  match number? a, number? b with
  | some m, some n =>
    match operator with
    | "+" => .ok (Text.ofInt (m + n))
    | "-" => .ok (Text.ofInt (m - n))
    | "*" => .ok (Text.ofInt (m * n))
    | _ =>
      if n = 0 then .error "division by zero".toList
      else .ok (Text.ofInt (if operator = "/" then m.tdiv n else m.tmod n))
  | _, _ => .error "non-integer argument".toList

def combine (operator : String) (a b : Text) : Except Text Text :=
  match operator with
  | "|" => .ok (if !isNull a then a else if !isNull b then b else ['0'])
  | "&" => .ok (if isNull a || isNull b then ['0'] else a)
  | ":" => found a b
  | _ =>
    if ["+", "-", "*", "/", "%"].contains operator then calculate operator a b
    else .ok (truth (compare operator a b))

def goesOn (operator : String) (a : Text) : Bool :=
  match operator with
  | "|" => isNull a
  | "&" => !isNull a
  | _ => true

mutual

/-- An expression whose operators have at least some rank. -/
def eval : Nat → Nat → Bool → Cursor → Outcome
  | 0, _, _, c => .error (missing c)
  | fuel + 1, rank, live, c => do
    match operators[rank]? with
    | none => operand fuel live c
    | some signs =>
      let (a, c) ← eval fuel (rank + 1) live c
      more fuel rank signs live a c

def more : Nat → Nat → List String → Bool → Text → Cursor → Outcome
  | 0, _, _, _, a, c => .ok (a, c)
  | fuel + 1, rank, signs, live, a, c => do
    match c.rest with
    | sign :: rest =>
      match signs.find? fun s => s.toList = sign with
      | none => return (a, c)
      | some operator =>
        let (b, c) ← eval fuel (rank + 1) (live && goesOn operator a) { last := sign, rest }
        let value ← if live then combine operator a b else pure a
        more fuel rank signs live value c
    | [] => return (a, c)

def operand : Nat → Bool → Cursor → Outcome
  | 0, _, c => .error (missing c)
  | fuel + 1, live, c => do
    let (a, after) ← next c
    match String.ofList a with
    | "+" => next after
    | "length" =>
      let (t, c) ← operand fuel live after
      return (Text.ofNat t.length, c)
    | "match" =>
      let (t, c) ← operand fuel live after
      let (p, c) ← operand fuel live c
      return (← if live then found t p else pure [], c)
    | "index" =>
      let (t, c) ← operand fuel live after
      let (w, c) ← operand fuel live c
      return (Text.ofNat (indexOf t w), c)
    | "substr" =>
      let (t, c) ← operand fuel live after
      let (s, c) ← operand fuel live c
      let (n, c) ← operand fuel live c
      return (part t s n, c)
    | "(" =>
      let (value, c) ← eval fuel 0 live after
      match c.rest with
      | [] => .error ("syntax error: expecting ')' after ".toList ++ quoted c.last)
      | [')'] :: rest => return (value, { last := [')'], rest })
      | other :: _ => .error ("syntax error: expecting ')' instead of ".toList ++ quoted other)
    | ")" => .error "syntax error: unexpected ')'".toList
    | _ => return (a, after)

end

def value (arguments : List Text) : Except Text Text := do
  let (v, c) ← eval (16 * arguments.length + 16) 0 true { rest := arguments }
  match c.rest with
  | [] => return v
  | extra :: _ => .error ("syntax error: unexpected argument ".toList ++ quoted extra)

def expr : Work Nat := do
  Work.failingWith 3
  let q ← Work.request
  let arguments := if q.arguments.head? = some ['-', '-'] then q.arguments.tail else q.arguments
  if arguments.isEmpty then Work.misuse 2 "missing operand".toList
  else
    match value arguments with
    | .error message => Work.fail 2 message
    | .ok v => do
      Work.say (v ++ ['\n'])
      return if isNull v then 1 else 0

end Expression

end Tool

end Proctor
