import Proctor.Files.Resolve
import Proctor.Shell.Arithmetic

/-!
# Conditions

What the `test` command and its bracketed form decide: questions about texts, numbers and files,
with negation, conjunction, disjunction and parentheses. What an argument means depends on those
around it, so that an operator may also stand for itself.
-/

set_option autoImplicit false

namespace Proctor

namespace Shell

namespace Condition

def unaryOperators : List String :=
  ["-n", "-z", "-e", "-f", "-d", "-r", "-w", "-x", "-s", "-h", "-L", "-t", "-b", "-c", "-p", "-S",
   "-u", "-g", "-k", "-O", "-G"]

def binaryOperators : List String :=
  ["=", "!=", "<", ">", "-eq", "-ne", "-lt", "-le", "-gt", "-ge", "-nt", "-ot", "-ef"]

def isUnary (t : Text) : Bool := unaryOperators.contains (String.ofList t)

def isBinary (t : Text) : Bool := binaryOperators.contains (String.ofList t)

inductive Role where
  | missing
  | operand
  | unary
  | binary
  | negation
  | conjunction
  | disjunction
  | opening
  | closing
  deriving DecidableEq, Repr

/-- What the first of the arguments is taken for. A unary operator with nothing after it, or with a
binary one, is an operand. -/
def roleOf : List Text → Role
  | [] => .missing
  | t :: rest =>
    match t with
    | ['!'] => .negation
    | ['-', 'a'] => .conjunction
    | ['-', 'o'] => .disjunction
    | ['('] => if rest.isEmpty then .operand else .opening
    | [')'] => .closing
    | _ =>
      if isBinary t then .binary
      else if isUnary t then
        match rest with
        | [] => .operand
        | [_] => .unary
        | next :: _ => if isBinary next then .operand else .unary
      else .operand

def nodeQuestion (operator : String) (node : Node) : Bool :=
  match operator with
  | "-e" => true
  | "-f" => node.isRegular
  | "-d" => node.isDirectory
  | "-r" => node.permits Mode.read
  | "-w" => node.permits Mode.write
  | "-x" => node.permits Mode.search
  | "-s" => 0 < node.size
  | "-c" =>
    match node.body with
    | .device _ => true
    | .descriptor _ => true
    | _ => false
  | "-p" => node.body = .pipe
  | "-u" => Mode.has node.mode 0o4000
  | "-g" => Mode.has node.mode 0o2000
  | "-k" => Mode.has node.mode 0o1000
  | "-O" => true
  | "-G" => true
  | _ => false

def fileQuestion (files : Files) (operator : String) (t : Text) : Bool :=
  let path : Path := ⟨t.toBytes⟩
  if operator = "-h" || operator = "-L" then
    match files.nodeItself path with
    | .ok node => node.isLink
    | .error _ => false
  else
    match files.node path with
    | .ok node => nodeQuestion operator node
    | .error _ => false

def integer (t : Text) : Except Text Int :=
  let core := t.dropWhile Arithmetic.isSpace
  let signed := core.head? == some '-' || core.head? == some '+'
  let digits := (if signed then core.tail else core).takeWhile Char.isDigit
  let rest := (if signed then core.tail else core).drop digits.length
  let n : Int := Arithmetic.inBase 10 digits
  let n := if core.head? == some '-' then -n else n
  if digits.isEmpty || !rest.all Arithmetic.isSpace || Arithmetic.saturate n ≠ n then
    .error ("Illegal number: ".toList ++ t)
  else .ok n

def unary (files : Files) (operator : String) (t : Text) : Except Text Bool :=
  match operator with
  | "-n" => .ok (!t.isEmpty)
  | "-z" => .ok t.isEmpty
  | "-t" => do
    let _ ← integer t
    return false
  | _ => .ok (fileQuestion files operator t)

def compareNumbers (operator : String) (m n : Int) : Bool :=
  match operator with
  | "-eq" => m = n
  | "-ne" => m ≠ n
  | "-lt" => m < n
  | "-le" => m ≤ n
  | "-gt" => m > n
  | _ => m ≥ n

def compareFiles (files : Files) (a b : Text) (holds : Nat → Nat → Bool) : Bool :=
  match files.number true ⟨a.toBytes⟩, files.number true ⟨b.toBytes⟩ with
  | .ok m, .ok n => holds m n
  | _, _ => false

def binary (files : Files) (a : Text) (operator : String) (b : Text) : Except Text Bool :=
  let time (n : Nat) : Nat := (files.get n).changed
  match operator with
  | "=" => .ok (a = b)
  | "!=" => .ok (a ≠ b)
  | "<" => .ok (String.ofList a < String.ofList b)
  | ">" => .ok (String.ofList b < String.ofList a)
  | "-nt" => .ok (compareFiles files a b fun m n => time n < time m)
  | "-ot" => .ok (compareFiles files a b fun m n => time m < time n)
  | "-ef" => .ok (compareFiles files a b fun m n => m = n)
  | _ => do return compareNumbers operator (← integer a) (← integer b)

abbrev Answered := Except Text (Bool × List Text)

mutual

def disjunction (files : Files) (fuel : Nat) (args : List Text) : Answered :=
  match fuel with
  | 0 => .error "too complex".toList
  | fuel + 1 => do
    let (a, left) ← conjunction files fuel args
    if roleOf left.tail = .disjunction then do
      let (b, left) ← disjunction files fuel (left.drop 2)
      return (a || b, left)
    else return (a, left)

def conjunction (files : Files) (fuel : Nat) (args : List Text) : Answered :=
  match fuel with
  | 0 => .error "too complex".toList
  | fuel + 1 => do
    let (a, left) ← negation files fuel (roleOf args) args
    if roleOf left.tail = .conjunction then do
      let (b, left) ← conjunction files fuel (left.drop 2)
      return (a && b, left)
    else return (a, left)

def negation (files : Files) (fuel : Nat) (role : Role) (args : List Text) : Answered :=
  match fuel with
  | 0 => .error "too complex".toList
  | fuel + 1 =>
    if role = .negation then do
      let next := roleOf args.tail
      let (a, left) ← negation files fuel next (if next = .missing then args else args.tail)
      return (!a, left)
    else simple files fuel role args

def simple (files : Files) (fuel : Nat) (role : Role) (args : List Text) : Answered :=
  match fuel with
  | 0 => .error "too complex".toList
  | fuel + 1 =>
    match role, args with
    | .missing, _ => return (false, args)
    | .opening, _ :: rest =>
      if roleOf rest = .closing then return (false, rest)
      else do
        let (a, left) ← disjunction files fuel rest
        if roleOf left.tail = .closing then return (a, left.tail)
        else .error "closing paren expected".toList
    | .unary, operator :: t :: rest => do
      return (← unary files (String.ofList operator) t, t :: rest)
    | .unary, [operator] => .error (operator ++ ": argument expected".toList)
    | _, a :: operator :: rest =>
      if roleOf (operator :: rest) = .binary then
        match rest with
        | b :: _ => do return (← binary files a (String.ofList operator) b, rest)
        | [] => .error (operator ++ ": argument expected".toList)
      else return (!a.isEmpty, args)
    | _, [a] => return (!a.isEmpty, args)
    | _, [] => return (false, [])

end

def whole (args : List Text) : Answered → Except Text Bool
  | .error message => .error message
  | .ok (a, left) =>
    match left with
    | t :: _ :: _ =>
      if t.isEmpty then .error "unexpected operator".toList
      else .error (t ++ ": unexpected operator".toList)
    | _ => if args.isEmpty then .ok false else .ok a

/-- The answer to all the arguments together; none at all is no. Three or four of them are read by
rules of their own. -/
def answer (files : Files) : Nat → List Text → Except Text Bool
  | 0, _ => .ok false
  | _, [] => .ok false
  | fuel + 1, args =>
    let plain : Except Text Bool := whole args (disjunction files (4 * args.length + 8) args)
    let bracketed : Except Text Bool :=
      let last := args.length - 1
      if args.head? == some ['('] && args[last]? == some [')'] then
        let inside := (args.drop 1).take (last - 1)
        if inside.isEmpty then .ok false
        else whole inside (disjunction files (4 * args.length + 8) inside)
      else if args.head? == some ['!'] then (answer files fuel args.tail).map not
      else plain
    match args with
    | [a, operator, b] =>
      if isBinary operator then binary files a (String.ofList operator) b else bracketed
    | [_, _, _, _] => bracketed
    | _ => plain

end Condition

end Shell

end Proctor
