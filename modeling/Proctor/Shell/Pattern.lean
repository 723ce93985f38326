import Proctor.Shell.Text

/-!
# Patterns

A pattern matches whole texts: a question mark any character, a star any number of them, brackets
one of a set. A quoted character stands for itself, and so does one after a backslash.
-/

set_option autoImplicit false

namespace Proctor

namespace Shell

abbrev Marked := Char × Bool

def classRanges : List (String × List (Char × Char)) :=
  [("alpha", [('a', 'z'), ('A', 'Z')]),
   ("digit", [('0', '9')]),
   ("alnum", [('a', 'z'), ('A', 'Z'), ('0', '9')]),
   ("upper", [('A', 'Z')]),
   ("lower", [('a', 'z')]),
   ("space", [('\x09', '\x0d'), (' ', ' ')]),
   ("blank", [('\t', '\t'), (' ', ' ')]),
   ("punct", [('!', '/'), (':', '@'), ('[', '\x60'), ('\x7b', '~')]),
   ("xdigit", [('0', '9'), ('a', 'f'), ('A', 'F')]),
   ("print", [(' ', '~')]),
   ("graph", [('!', '~')]),
   ("cntrl", [('\x00', '\x1f'), ('\x7f', '\x7f')])]

inductive Matcher where
  | exactly (c : Char)
  | one
  | many
  | among (negated : Bool) (ranges : List (Char × Char))
  deriving DecidableEq, Repr, Inhabited

namespace Matcher

def class? (rest : List Marked) : Option (List (Char × Char) × List Marked) :=
  classRanges.findSome? fun (name, ranges) =>
    let whole : List Marked := ((":" ++ name ++ ":]").toList.map fun c => (c, false))
    if whole.isPrefixOf rest then some (ranges, rest.drop whole.length) else none

def unescaped : List Marked → Option (Char × List Marked)
  | [] => none
  | ('\\', false) :: (c, _) :: rest => some (c, rest)
  | ('\\', false) :: [] => none
  | (c, _) :: rest => some (c, rest)

mutual

def member (fuel : Nat) (pattern : List Marked) : Option (List (Char × Char) × List Marked) :=
  match fuel with
  | 0 => none
  | fuel + 1 =>
    let single (pattern : List Marked) : Option (List (Char × Char) × List Marked) := do
      let (c, rest) ← unescaped pattern
      match rest with
      | ('-', false) :: (']', false) :: _ => do
        let (more, left) ← membersFrom fuel rest
        return ((c, c) :: more, left)
      | ('-', false) :: more => do
        let (d, rest) ← unescaped more
        let (more, left) ← membersFrom fuel rest
        return ((c, d) :: more, left)
      | _ => do
        let (more, left) ← membersFrom fuel rest
        return ((c, c) :: more, left)
    match pattern with
    | ('[', false) :: rest =>
      match class? rest with
      | some (ranges, rest) => do
        let (more, left) ← membersFrom fuel rest
        return (ranges ++ more, left)
      | none => single pattern
    | _ => single pattern

def membersFrom (fuel : Nat) (pattern : List Marked) :
    Option (List (Char × Char) × List Marked) :=
  match fuel with
  | 0 => none
  | fuel + 1 =>
    match pattern with
    | (']', false) :: rest => some ([], rest)
    | pattern => member fuel pattern

end

def bracket (rest : List Marked) : Option (Matcher × List Marked) :=
  let inside (negated : Bool) (pattern : List Marked) : Option (Matcher × List Marked) :=
    (member (2 * pattern.length + 2) pattern).map fun (rs, left) => (among negated rs, left)
  match rest with
  | ('!', false) :: more => inside true more
  | _ => inside false rest

def compileFrom : Nat → List Marked → List Matcher
  | 0, _ => []
  | _, [] => []
  | fuel + 1, (c, true) :: rest => .exactly c :: compileFrom fuel rest
  | fuel + 1, ('?', false) :: rest => .one :: compileFrom fuel rest
  | fuel + 1, ('*', false) :: rest => .many :: compileFrom fuel rest
  | fuel + 1, ('\\', false) :: (c, _) :: rest => .exactly c :: compileFrom fuel rest
  | fuel + 1, ('[', false) :: rest =>
    match bracket rest with
    | some (m, left) => m :: compileFrom fuel left
    | none => .exactly '[' :: compileFrom fuel rest
  | fuel + 1, (c, false) :: rest => .exactly c :: compileFrom fuel rest

def compile (pattern : List Marked) : List Matcher :=
  compileFrom (pattern.length + 1) pattern

def ofText (t : Text) : List Matcher := compile (t.map fun c => (c, false))

def inRanges (c : Char) (ranges : List (Char × Char)) : Bool :=
  ranges.any fun (low, high) => low ≤ c && c ≤ high

def accepts (m : Matcher) (c : Char) : Bool :=
  match m with
  | .exactly d => c == d
  | .one => true
  | .many => true
  | .among negated ranges => inRanges c ranges != negated

def suffixes : Text → List Text
  | [] => [[]]
  | c :: rest => (c :: rest) :: suffixes rest

/-- What may be left of a text once its start has fitted the pattern, the longest rest first. After
a star, every rest of the longest one may be left. -/
def leftAfter : List Matcher → List Text → List Text
  | [], texts => texts
  | .many :: ms, texts =>
    match texts with
    | [] => []
    | longest :: _ => leftAfter ms (suffixes longest)
  | m :: ms, texts =>
    leftAfter ms (texts.filterMap fun t =>
      match t with
      | c :: rest => if m.accepts c then some rest else none
      | [] => none)

def fits (pattern : List Matcher) (text : Text) : Bool :=
  (leftAfter pattern [text]).any List.isEmpty

def isActive (pattern : List Matcher) : Bool :=
  pattern.any fun m =>
    match m with
    | .exactly _ => false
    | _ => true

def lengths (longest : Bool) (text : Text) : List Nat :=
  let all := List.range (text.length + 1)
  if longest then all.reverse else all

def dropFront (longest : Bool) (pattern : List Matcher) (text : Text) : Text :=
  match (lengths longest text).find? fun n => fits pattern (text.take n) with
  | none => text
  | some n => text.drop n

def dropBack (longest : Bool) (pattern : List Matcher) (text : Text) : Text :=
  match (lengths longest text).find? fun n => fits pattern (text.drop (text.length - n)) with
  | none => text
  | some n => text.take (text.length - n)

end Matcher

end Shell

end Proctor
