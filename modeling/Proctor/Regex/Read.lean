import Proctor.Regex.Match
import Proctor.Shell.Pattern

/-!
# Reading regular expressions

Expressions have a basic spelling, in which most operators are written with a backslash, and an
extended one. They are cut into signs first. What is wrong with an expression is said in the words
of the system.
-/

set_option autoImplicit false

namespace Proctor

open Shell

namespace Regex

/-- A way to write expressions, and what is made of mistakes in it. -/
structure Spelling where
  extended : Bool
  /-- Operators out of place stand for themselves or for nothing. -/
  lenient : Bool := false

inductive Sign where
  | literal (c : Char)
  | any
  | among (negated : Bool) (ranges : List (Char × Char))
  | opening
  | closing
  | bar
  | repetition (least : Nat) (most : Option Nat)
  | reference (number : Nat)
  | assertion (a : Assertion)
  deriving DecidableEq, Repr

def unmatchedBracket : String := "Unmatched [, [^, [:, [., or [="
def invalidPreceding : String := "Invalid preceding regular expression"

/-! ### Sets of characters -/

def named (mark : Char) : Text → Option (Text × Text)
  | [] => none
  | c :: rest =>
    if c == mark && rest.head? == some ']' then some ([], rest.tail)
    else (named mark rest).map fun (name, left) => (c :: name, left)

def endpoint : Text → Except String (Option (Char × Text))
  | '[' :: '.' :: rest => one '.' rest
  | '[' :: '=' :: rest => one '=' rest
  | '[' :: ':' :: _ => .ok none
  | c :: rest => .ok (some (c, rest))
  | [] => .error unmatchedBracket
where
  one (mark : Char) (rest : Text) : Except String (Option (Char × Text)) :=
    match named mark rest with
    | none => .error unmatchedBracket
    | some ([c], left) => .ok (some (c, left))
    | some _ => .error "Invalid collation character"

def members : Nat → Bool → Text → Except String (List (Char × Char) × Text)
  | 0, _, _ => .error unmatchedBracket
  | _, _, [] => .error unmatchedBracket
  | fuel + 1, isFirst, t =>
    match t with
    | '[' :: ':' :: rest =>
      match named ':' rest with
      | none => .error unmatchedBracket
      | some (name, left) =>
        match classRanges.lookup (String.ofList name) with
        | none => .error "Invalid character class name"
        | some ranges =>
          if left.head? == some '-' && left.tail.head? != some ']' then .error "Invalid range end"
          else do
            let (more, left) ← members fuel false left
            return (ranges ++ more, left)
    | ']' :: rest => if isFirst then member fuel t else .ok ([], rest)
    | _ => member fuel t
where
  /-- A character or a range, and the members after it. -/
  member (fuel : Nat) (t : Text) : Except String (List (Char × Char) × Text) := do
    let some (low, rest) ← endpoint t | .error unmatchedBracket
    match rest with
    | '-' :: more =>
      if more.head? == some ']' then do
        let (others, left) ← members fuel false rest
        return ((low, low) :: others, left)
      else
        match ← endpoint more with
        | none => .error "Invalid range end"
        | some (high, left) =>
          if high < low then .error "Invalid range end"
          else if left.head? == some '-' && left.tail.head? != some ']' then
            .error "Invalid range end"
          else do
            let (others, left) ← members fuel false left
            return ((low, high) :: others, left)
    | _ => do
      let (others, left) ← members fuel false rest
      return ((low, low) :: others, left)

def misplacedClass (t : Text) : Option Text :=
  match t with
  | ':' :: rest =>
    match Text.cutAt (· == ']') rest with
    | (name, some _) =>
      if name.getLast? == some ':' && 1 < name.length && name.dropLast.all (· ≠ ':') then
        some name.dropLast
      else none
    | _ => none
  | _ => none

def bracket (t : Text) : Except String (Sign × Text) :=
  match misplacedClass t with
  | some name =>
    .error ("character class syntax is [[:" ++ String.ofList name ++ ":]], not [:" ++
      String.ofList name ++ ":]")
  | none => do
    let (negated, rest) : Bool × Text := match t with
      | '^' :: rest => (true, rest)
      | rest => (false, rest)
    if rest.isEmpty then .error "Invalid regular expression"
    else do
      let (ranges, left) ← members (rest.length + 1) true rest
      return (.among negated ranges, left)

/-! ### Signs -/

def repetitionLimit : Nat := 32767

def bounds (extended : Bool) (t : Text) : Except String (Sign × Text) :=
  let low := t.takeWhile Char.isDigit
  let rest := t.drop low.length
  let (high, rest) : Option Text × Text := match rest with
    | ',' :: more =>
      let digits := more.takeWhile Char.isDigit
      (some digits, more.drop digits.length)
    | _ => (none, rest)
  let left? : Option Text := match extended, rest with
    | true, '\x7d' :: left => some left
    | false, '\\' :: '\x7d' :: left => some left
    | _, _ => none
  let least := (Text.decimal? low).getD 0
  let most : Option Nat := match high with
    | none => some least
    | some digits => Text.decimal? digits
  match left? with
  | none =>
    let isCut := if extended then rest.isEmpty else rest.isEmpty || rest = ['\\']
    .error (if isCut then "Unmatched \\\x7b" else "Invalid content of \\\x7b\\\x7d")
  | some left =>
    if low.isEmpty && high.isNone then .error "Invalid content of \\\x7b\\\x7d"
    else if (most.map fun n => decide (n < least)).getD false then
      .error "Invalid content of \\\x7b\\\x7d"
    else if repetitionLimit < max least (most.getD 0) then .error "Regular expression too big"
    else .ok (.repetition least most, left)

def wordRanges : List (Char × Char) := [('a', 'z'), ('A', 'Z'), ('0', '9'), ('_', '_')]

def blankRanges : List (Char × Char) := [('\x09', '\x0d'), (' ', ' ')]

def escaped? (c : Char) : Option Sign :=
  match c with
  | 'w' => some (.among false wordRanges)
  | 'W' => some (.among true wordRanges)
  | 's' => some (.among false blankRanges)
  | 'S' => some (.among true blankRanges)
  | 'b' => some (.assertion .wordEdge)
  | 'B' => some (.assertion .noWordEdge)
  | '<' => some (.assertion .wordStart)
  | '>' => some (.assertion .wordEnd)
  | '\x60' => some (.assertion .textStart)
  | '\'' => some (.assertion .textEnd)
  | _ => none

structure Signs where
  signs : List Sign
  warnings : List String := []

def endsBranch (extended : Bool) : Text → Bool
  | [] => true
  | ')' :: _ => extended
  | '|' :: _ => extended
  | '\\' :: ')' :: _ => !extended
  | '\\' :: '|' :: _ => !extended
  | _ => false

/-- Cuts an expression into signs. At the start of a branch, an operator that repeats has nothing to
repeat. -/
def signs (s : Spelling) : Nat → Bool → Text → Except String Signs
  | 0, _, _ => .ok { signs := [] }
  | _, _, [] => .ok { signs := [] }
  | fuel + 1, isStart, t => do
    let go (sign : Sign) (isStart : Bool) (rest : Text) : Except String Signs := do
      let more ← signs s fuel isStart rest
      return { more with signs := sign :: more.signs }
    let repeats (name : String) (plain : Char) (sign : Sign) (rest : Text) :
        Except String Signs :=
      if !isStart then go sign false rest
      else if !s.extended then go (.literal plain) false rest
      else if s.lenient then do
        let more ← signs s fuel true rest
        return { more with warnings := (name ++ " at start of expression") :: more.warnings }
      else .error invalidPreceding
    let interval (rest : Text) : Except String Signs :=
      match bounds s.extended rest with
      | .ok (sign, left) =>
        if isStart && !s.extended then
          if s.lenient then go (.literal '\x7b') false rest else .error invalidPreceding
        else repeats "\x7b...\x7d" '\x7b' sign left
      | .error message =>
        if s.lenient && (isStart || (s.extended && message != "Regular expression too big" &&
            !isReversed rest)) then
          go (.literal '\x7b') false rest
        else if isStart then .error invalidPreceding
        else .error message
    match t with
    | '\\' :: [] => .error "Trailing backslash"
    | '\\' :: c :: rest =>
      if c.isDigit && c != '0' then go (.reference (Text.digitValue c)) false rest
      else
        match escaped? c with
        | some sign => go sign false rest
        | none =>
          if s.extended then go (.literal c) false rest
          else
            match c with
            | '(' => go .opening true rest
            | ')' => go .closing false rest
            | '|' => go .bar true rest
            | '+' => repeats "+" '+' (.repetition 1 none) rest
            | '?' => repeats "?" '?' (.repetition 0 (some 1)) rest
            | '\x7b' => interval rest
            | _ => go (.literal c) false rest
    | '.' :: rest => go .any false rest
    | '*' :: rest => repeats "*" '*' (.repetition 0 none) rest
    | '[' :: rest => do
      let (sign, left) ← bracket rest
      go sign false left
    | '^' :: rest =>
      if s.extended || isStart then go (.assertion .lineStart) true rest
      else go (.literal '^') false rest
    | '$' :: rest =>
      if s.extended || endsBranch false rest then go (.assertion .lineEnd) false rest
      else go (.literal '$') false rest
    | c :: rest =>
      if !s.extended then go (.literal c) false rest
      else
        match c with
        | '(' => go .opening true rest
        | ')' => go .closing false rest
        | '|' => go .bar true rest
        | '+' => repeats "+" '+' (.repetition 1 none) rest
        | '?' => repeats "?" '?' (.repetition 0 (some 1)) rest
        | '\x7b' => interval rest
        | _ => go (.literal c) false rest
    | [] => .ok { signs := [] }
where
  /-- Whether the bounds are given the wrong way round. -/
  isReversed (t : Text) : Bool :=
    let low := t.takeWhile Char.isDigit
    match t.drop low.length with
    | ',' :: more =>
      let high := more.takeWhile Char.isDigit
      (more.drop high.length).head? == some '\x7d' && !high.isEmpty
    | _ => false

/-! ### Expressions -/

structure Reading where
  regex : Regex
  rest : List Sign
  opened : Nat
  closed : List Nat

/-- Applies the repetitions that come next. In the strict basic spelling there is one at most. -/
def repetitions (s : Spelling) : Bool → Regex → List Sign → Except String (Regex × List Sign)
  | isFirst, r, .repetition least most :: rest =>
    if !isFirst && !s.extended && !s.lenient then .error invalidPreceding
    else repetitions s false (.repeated r least most) rest
  | _, r, rest => .ok (r, rest)

mutual

def alternatives (s : Spelling) (fuel : Nat) (depth : Nat) (signs : List Sign) (opened : Nat)
    (closed : List Nat) : Except String Reading :=
  match fuel with
  | 0 => .error "Regular expression too big"
  | fuel + 1 => do
    let a ← branch s fuel depth signs opened closed
    match a.rest with
    | .bar :: rest => do
      let b ← alternatives s fuel depth rest a.opened a.closed
      return { b with regex := .alternative a.regex b.regex }
    | _ => return a

def branch (s : Spelling) (fuel : Nat) (depth : Nat) (signs : List Sign) (opened : Nat)
    (closed : List Nat) : Except String Reading :=
  match fuel with
  | 0 => .error "Regular expression too big"
  | fuel + 1 =>
    let isEnd : Bool := match signs with
      | [] => true
      | .bar :: _ => true
      | .closing :: _ => 0 < depth || !(s.extended && s.lenient)
      | _ => false
    if isEnd then .ok { regex := .empty, rest := signs, opened, closed }
    else do
      let a ← factor s fuel depth signs opened closed
      let (r, rest) ← repetitions s true a.regex a.rest
      let b ← branch s fuel depth rest a.opened a.closed
      return { b with regex := match b.regex with
        | .empty => r
        | _ => .sequence r b.regex }

def factor (s : Spelling) (fuel : Nat) (depth : Nat) (signs : List Sign) (opened : Nat)
    (closed : List Nat) : Except String Reading :=
  match fuel with
  | 0 => .error "Regular expression too big"
  | fuel + 1 =>
    match signs with
    | .opening :: rest => do
      let number := opened + 1
      let a ← alternatives s fuel (depth + 1) rest number closed
      match a.rest with
      | .closing :: rest =>
        return { a with regex := .group number a.regex, rest, closed := number :: a.closed }
      | _ => .error "Unmatched ( or \\("
    | .literal c :: rest => .ok { regex := .char c, rest, opened, closed }
    | .any :: rest => .ok { regex := .any, rest, opened, closed }
    | .among negated ranges :: rest => .ok { regex := .among negated ranges, rest, opened, closed }
    | .assertion a :: rest => .ok { regex := .assertion a, rest, opened, closed }
    | .reference n :: rest =>
      if closed.contains n then .ok { regex := .reference n, rest, opened, closed }
      else .error "Invalid back reference"
    | .closing :: rest => .ok { regex := .char ')', rest, opened, closed }
    | .repetition .. :: _ => .error invalidPreceding
    | .bar :: _ => .error invalidPreceding
    | [] => .ok { regex := .empty, rest := [], opened, closed }

end

structure Expression where
  regex : Regex
  groups : Nat
  warnings : List String := []

def read (s : Spelling) (t : Text) : Except String Expression := do
  let cut ← signs s (t.length + 1) true t
  let a ← alternatives s (4 * cut.signs.length + 8) 0 cut.signs 0 []
  match a.rest with
  | [] => return { regex := a.regex, groups := a.opened, warnings := cut.warnings }
  | _ => .error "Unmatched ) or \\)"

end Regex

end Proctor
