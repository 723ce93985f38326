import Proctor.Decimal.Power
import Proctor.Shell.Text

/-!
# Arithmetic

Expressions over 64-bit integers with the usual operators, comparisons, a conditional and
assignments. A name stands for the number that is its value.
-/

set_option autoImplicit false

namespace Proctor

namespace Shell

namespace Arithmetic

inductive Expression where
  | number (n : Int)
  | variable (name : Text)
  | unary (operator : String) (a : Expression)
  | binary (operator : String) (a b : Expression)
  | choose (condition a b : Expression)
  | assign (name : Text) (value : Expression)
  deriving Repr, Inhabited

inductive Trouble where
  | malformed (what : String)
  | divisionByZero
  | illegalNumber (text : Text)
  | frozen (name : Text)
  deriving DecidableEq, Repr

inductive Symbol where
  | number (n : Int)
  | name (text : Text)
  | operator (text : String)
  | unknown (c : Char)
  deriving DecidableEq, Repr

/-- Operators, longer ones before those they start with. -/
def operators : List String :=
  ["<<=", ">>=", "<<", ">>", "<=", ">=", "==", "!=", "&&", "||", "+=", "-=", "*=", "/=", "%=", "&=",
   "|=", "^=", "+", "-", "*", "/", "%", "<", ">", "=", "!", "~", "&", "|", "^", "?", ":", "(", ")"]

def hexValue (c : Char) : Nat :=
  if c.isDigit then Text.digitValue c
  else if 'a' ≤ c && c ≤ 'f' then c.toNat - 'a'.toNat + 10
  else c.toNat - 'A'.toNat + 10

def isHexDigit (c : Char) : Bool :=
  c.isDigit || ('a' ≤ c && c ≤ 'f') || ('A' ≤ c && c ≤ 'F')

def isOctalDigit (c : Char) : Bool := '0' ≤ c && c ≤ '7'

def inBase (base : Nat) (digits : Text) : Nat :=
  digits.foldl (fun n c => n * base + hexValue c) 0

def leadingConstant (t : Text) : Nat × Text :=
  match t with
  | '0' :: x :: c :: rest =>
    if (x == 'x' || x == 'X') && isHexDigit c then
      let digits := (c :: rest).takeWhile isHexDigit
      (inBase 16 digits, (c :: rest).drop digits.length)
    else
      let digits := t.takeWhile isOctalDigit
      (inBase 8 digits, t.drop digits.length)
  | '0' :: _ =>
    let digits := t.takeWhile isOctalDigit
    (inBase 8 digits, t.drop digits.length)
  | _ =>
    let digits := t.takeWhile Char.isDigit
    (inBase 10 digits, t.drop digits.length)

def greatest : Int := 9223372036854775807

def saturate (n : Int) : Int := max (-greatest - 1) (min greatest n)

def isSpace (c : Char) : Bool := c == ' ' || ('\t' ≤ c && c ≤ '\r')

/-- A constant with an optional sign, with blanks before it: its value, and the rest. Without any
digit, the rest is the whole text. -/
def signedConstant (t : Text) : Int × Text :=
  let core := t.dropWhile isSpace
  let digits := if core.head? == some '-' || core.head? == some '+' then core.tail else core
  match digits with
  | c :: _ =>
    if c.isDigit then
      let (n, rest) := leadingConstant digits
      (if core.head? == some '-' then -(n : Int) else n, rest)
    else (0, t)
  | [] => (0, t)

def valueOf? (t : Text) : Option Int :=
  let (n, rest) := signedConstant t
  if rest.all isSpace && saturate n = n then some n else none

def symbols : Nat → Text → List Symbol
  | 0, _ => []
  | _, [] => []
  | fuel + 1, c :: rest =>
    if c == ' ' || c == '\t' || c == '\n' then symbols fuel rest
    else if c.isDigit then
      let (n, left) := leadingConstant (c :: rest)
      .number (saturate n) :: symbols fuel left
    else if Text.isNameStart c then
      let name := (c :: rest).takeWhile Text.isNameChar
      .name name :: symbols fuel ((c :: rest).drop name.length)
    else
      match operators.find? fun o => o.toList.isPrefixOf (c :: rest) with
      | none => [.unknown c]
      | some o => .operator o :: symbols fuel ((c :: rest).drop o.length)

def levels : List (List String) :=
  [["||"], ["&&"], ["|"], ["^"], ["&"], ["==", "!="], ["<=", ">=", "<", ">"], ["<<", ">>"],
   ["+", "-"], ["*", "/", "%"]]

def assignments : List (String × String) :=
  [("+=", "+"), ("-=", "-"), ("*=", "*"), ("/=", "/"), ("%=", "%"), ("&=", "&"), ("|=", "|"),
   ("^=", "^"), ("<<=", "<<"), (">>=", ">>")]

abbrev Parsed := Except Trouble (Expression × List Symbol)

mutual

def conditional (fuel : Nat) (s : List Symbol) : Parsed :=
  match fuel with
  | 0 => .error (.malformed "expecting primary")
  | fuel + 1 =>
    match s with
    | .name x :: .operator "=" :: rest => do
      let (value, rest) ← conditional fuel rest
      return (.assign x value, rest)
    | .name x :: .operator o :: rest =>
      match assignments.lookup o with
      | some plain => do
        let (value, rest) ← conditional fuel rest
        return (.assign x (.binary plain (.variable x) value), rest)
      | none => choice fuel s
    | _ => choice fuel s

def choice (fuel : Nat) (s : List Symbol) : Parsed :=
  match fuel with
  | 0 => .error (.malformed "expecting primary")
  | fuel + 1 => do
    let (c, rest) ← level fuel levels s
    match rest with
    | .operator "?" :: rest => do
      let (a, rest) ← conditional fuel rest
      match rest with
      | .operator ":" :: rest => do
        let (b, rest) ← conditional fuel rest
        return (.choose c a b, rest)
      | _ => .error (.malformed "expecting ':'")
    | _ => return (c, rest)

def level (fuel : Nat) (ops : List (List String)) (s : List Symbol) : Parsed :=
  match fuel with
  | 0 => .error (.malformed "expecting primary")
  | fuel + 1 =>
    match ops with
    | [] => factor fuel s
    | here :: tighter => do
      let (a, rest) ← level fuel tighter s
      more fuel here tighter a rest

def more (fuel : Nat) (here : List String) (tighter : List (List String)) (a : Expression)
    (s : List Symbol) : Parsed :=
  match fuel with
  | 0 => .error (.malformed "expecting primary")
  | fuel + 1 =>
    match s with
    | .operator o :: rest =>
      if here.contains o then do
        let (b, rest) ← level fuel tighter rest
        more fuel here tighter (.binary o a b) rest
      else return (a, s)
    | _ => return (a, s)

def factor (fuel : Nat) (s : List Symbol) : Parsed :=
  match fuel with
  | 0 => .error (.malformed "expecting primary")
  | fuel + 1 =>
    match s with
    | .number n :: rest => return (.number n, rest)
    | .name x :: rest => return (.variable x, rest)
    | .operator "(" :: rest => do
      let (e, rest) ← conditional fuel rest
      match rest with
      | .operator ")" :: rest => return (e, rest)
      | _ => .error (.malformed "expecting ')'")
    | .operator o :: rest =>
      if ["-", "+", "!", "~"].contains o then do
        let (e, rest) ← factor fuel rest
        return (.unary o e, rest)
      else .error (.malformed "expecting primary")
    | _ => .error (.malformed "expecting primary")

end

def parse (text : Text) : Except Trouble Expression := do
  match symbols (text.length + 1) text with
  | [] => return .number 0
  | s =>
    match ← conditional (32 * s.length + 32) s with
    | (e, []) => return e
    | _ => .error (.malformed "expecting EOF")

def wrap (n : Int) : Int := Int.bmod n (twoTo 64)

def ofBool (b : Bool) : Int := if b then 1 else 0

def bits (n : Int) : Nat := (n % (twoTo 64 : Int)).toNat

def apply (operator : String) (a b : Int) : Except Trouble Int :=
  match operator with
  | "+" => .ok (wrap (a + b))
  | "-" => .ok (wrap (a - b))
  | "*" => .ok (wrap (a * b))
  | "/" => if b = 0 then .error .divisionByZero else .ok (wrap (Int.tdiv a b))
  | "%" => if b = 0 then .error .divisionByZero else .ok (wrap (Int.tmod a b))
  | "<<" => .ok (wrap (a * (twoTo (bits b % 64) : Int)))
  | ">>" => .ok (Int.fdiv a (twoTo (bits b % 64) : Int))
  | "<" => .ok (ofBool (a < b))
  | ">" => .ok (ofBool (a > b))
  | "<=" => .ok (ofBool (a ≤ b))
  | ">=" => .ok (ofBool (a ≥ b))
  | "==" => .ok (ofBool (a = b))
  | "!=" => .ok (ofBool (a ≠ b))
  | "&" => .ok (wrap (Nat.land (bits a) (bits b)))
  | "|" => .ok (wrap (Nat.lor (bits a) (bits b)))
  | "^" => .ok (wrap (Nat.xor (bits a) (bits b)))
  | _ => .error (.malformed "expecting EOF")

variable {σ : Type}

structure Names (σ : Type) where
  get : σ → Text → Except Trouble Int
  set : σ → Text → Int → Except Trouble σ

def eval (names : Names σ) : Expression → σ → Except Trouble (Int × σ)
  | .number n, s => .ok (wrap n, s)
  | .variable x, s => do return (← names.get s x, s)
  | .unary operator a, s => do
    let (n, s) ← eval names a s
    match operator with
    | "-" => return (wrap (-n), s)
    | "!" => return (ofBool (n = 0), s)
    | "~" => return (-n - 1, s)
    | _ => return (n, s)
  | .binary "&&" a b, s => do
    let (m, s) ← eval names a s
    if m = 0 then return (0, s)
    else do
      let (n, s) ← eval names b s
      return (ofBool (n ≠ 0), s)
  | .binary "||" a b, s => do
    let (m, s) ← eval names a s
    if m ≠ 0 then return (1, s)
    else do
      let (n, s) ← eval names b s
      return (ofBool (n ≠ 0), s)
  | .binary operator a b, s => do
    let (m, s) ← eval names a s
    let (n, s) ← eval names b s
    return (← apply operator m n, s)
  | .choose c a b, s => do
    let (n, s) ← eval names c s
    if n ≠ 0 then eval names a s else eval names b s
  | .assign x e, s => do
    let (n, s) ← eval names e s
    return (n, ← names.set s x n)

end Arithmetic

end Shell

end Proctor
