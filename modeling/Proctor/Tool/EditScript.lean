import Proctor.Regex.Read
import Proctor.Shell.Escape

/-!
# Scripts of the stream editor

A script is a list of commands, each for all lines or for those that one or two addresses select.
Commands may stand between braces, and branches lead to labels. What is wrong with a script is said
with the number of characters that were read by then.
-/

set_option autoImplicit false

namespace Proctor

namespace Tool

open Shell

namespace Editing

/-- An expression to look for; without one, the last that was used. -/
structure Wanted where
  regex : Option Regex
  manner : Regex.Manner := {}

inductive Address where
  | line (n : Nat)
  | last
  | fitting (w : Wanted)
  | every (first step : Nat)

inductive Stop where
  | at_ (a : Address)
  | after (count : Nat)
  | multiple (n : Nat)

structure Selection where
  first : Option Address := none
  second : Option Stop := none
  negated : Bool := false

inductive Part where
  | text (t : Text)
  | group (n : Nat)
  | upper
  | lower
  | upperNext
  | lowerNext
  | plain

structure Substitution where
  wanted : Wanted
  parts : List Part
  all : Bool := false
  count : Nat := 1
  prints : Bool := false
  file : Option Text := none

inductive Command where
  | opening (stop : Nat)
  | closing
  | append (t : Text)
  | insert (t : Text)
  | change (t : Text)
  | branch (label : Text)
  | branchIf (done : Bool) (label : Text)
  | label (name : Text)
  | delete
  | deleteFirst
  | get
  | getMore
  | hold
  | holdMore
  | exchange
  | list (width : Option Nat)
  | next
  | nextMore
  | print
  | printFirst
  | quit (status : Nat)
  | quitSilently (status : Nat)
  | readFile (path : Text)
  | readLine (path : Text)
  | writeFile (path : Text)
  | writeFirst (path : Text)
  | substitute (s : Substitution)
  | replace (pairs : List (Char × Char))
  | number
  | fileName
  | zap
  | nothing

structure Step where
  selection : Selection
  command : Command

inductive Place where
  /-- Where so many characters are left to read. -/
  | unread (count : Nat)
  | start
  | unsaid

structure Fault where
  message : String
  place : Place
  status : Nat := 1

def fault {α : Type} (message : String) (rest : Text) : Except Fault α :=
  .error { message, place := .unread rest.length }

def isBlank (c : Char) : Bool := c == ' ' || c == '\t' || c == '\r' || c == '\x0b' || c == '\x0c'

def skipBlanks (t : Text) : Text := t.dropWhile isBlank

/-! ### Texts between delimiters -/

def bracketLength (t : Text) : Nat :=
  let start := match t with
    | '^' :: ']' :: _ => 2
    | '^' :: _ => 1
    | ']' :: _ => 1
    | _ => 0
  go (t.length + 1) start (t.drop start)
where
  go : Nat → Nat → Text → Nat
    | 0, n, _ => n
    | _, n, [] => n
    | _, n, ']' :: _ => n + 1
    | fuel + 1, n, '[' :: mark :: rest =>
      if mark == ':' || mark == '.' || mark == '=' then
        match Regex.named mark rest with
        | some (name, left) => go fuel (n + 4 + name.length) left
        | none => go fuel (n + 1) (mark :: rest)
      else go fuel (n + 1) (mark :: rest)
    | fuel + 1, n, c :: rest => if c == '\n' then n else go fuel (n + 1) rest

/-- The text up to a delimiter. A delimiter after a backslash stands for itself. -/
def upTo (delimiter : Char) (isRegex : Bool) : Nat → Text → Text → Option (Text × Text)
  | 0, _, _ => none
  | _, _, [] => none
  | fuel + 1, sofar, c :: rest =>
    if c == delimiter then some (sofar.reverse, rest)
    else if c == '\n' && isRegex then none
    else if c == '\\' then
      match rest with
      | [] => none
      | d :: rest =>
        if d == delimiter && !(d == '&' && !isRegex) then
          upTo delimiter isRegex fuel (d :: sofar) rest
        else if d == 'n' && isRegex then upTo delimiter isRegex fuel ('\n' :: sofar) rest
        else if d == '\n' && isRegex then upTo delimiter isRegex fuel ('\n' :: sofar) rest
        else upTo delimiter isRegex fuel (d :: '\\' :: sofar) rest
    else if c == '[' && isRegex then
      let n := bracketLength rest
      upTo delimiter isRegex fuel ((newlines (rest.take n)).reverse ++ '[' :: sofar) (rest.drop n)
    else upTo delimiter isRegex fuel (c :: sofar) rest
where
  /-- A set of characters with line ends for their escapes. -/
  newlines : Text → Text
    | '\\' :: 'n' :: rest => '\n' :: newlines rest
    | c :: rest => c :: newlines rest
    | [] => []

def digitsOf (base most : Nat) (t : Text) : Text :=
  (t.take most).takeWhile fun c =>
    ((Quantity.hexDigit? c).map fun d => decide (d < base)).getD false

def byNumber (base most : Nat) (t : Text) : Option (Char × Text) :=
  let digits := digitsOf base most t
  if digits.isEmpty then none
  else
    let n := digits.foldl (fun n c => n * base + (Quantity.hexDigit? c).getD 0) 0
    some (Char.ofNat (n % 256), t.drop digits.length)

def escape? (t : Text) : Option (Char × Text) :=
  match t with
  | 'a' :: rest => some ('\x07', rest)
  | 'f' :: rest => some ('\x0c', rest)
  | 'r' :: rest => some ('\r', rest)
  | 't' :: rest => some ('\t', rest)
  | 'v' :: rest => some ('\x0b', rest)
  | 'd' :: rest => byNumber 10 3 rest
  | 'o' :: rest => byNumber 8 3 rest
  | 'x' :: rest => byNumber 16 2 rest
  | 'c' :: c :: rest => some (Char.ofNat (Nat.xor c.toUpper.toNat 64), rest)
  | _ => none

def withCharacters : Nat → Text → Text
  | 0, t => t
  | _, [] => []
  | fuel + 1, '\\' :: rest =>
    match escape? rest with
    | some (c, left) => c :: withCharacters fuel left
    | none =>
      match rest with
      | [] => ['\\']
      | c :: left => '\\' :: c :: withCharacters fuel left
  | fuel + 1, c :: rest => c :: withCharacters fuel rest

def wantedOf (extended : Bool) (t : Text) (manner : Regex.Manner) (rest : Text) :
    Except Fault (Wanted × Nat) :=
  if t.isEmpty then
    if manner.foldsCase || manner.hasLines then
      fault "cannot specify modifiers on empty regexp" rest
    else .ok ({ regex := none, manner }, 9)
  else
    match Regex.read { extended } (withCharacters (t.length + 1) t) with
    | .ok e => .ok ({ regex := some e.regex, manner }, e.groups)
    | .error message =>
      if "character class syntax".toList.isPrefixOf message.toList then
        .error { message, place := .unsaid, status := 4 }
      else fault message rest

/-! ### Addresses -/

def numberOf (t : Text) : Nat × Text :=
  let digits := t.takeWhile Char.isDigit
  ((Text.decimal? digits).getD 0, t.drop digits.length)

def addressFlags : Regex.Manner → Text → Regex.Manner × Text
  | m, 'I' :: rest => addressFlags { m with foldsCase := true } rest
  | m, 'M' :: rest => addressFlags { m with hasLines := true } rest
  | m, rest => (m, rest)

def fittingAddress (extended : Bool) (delimiter : Char) (rest : Text) :
    Except Fault (Address × Text) :=
  match upTo delimiter true (rest.length + 1) [] rest with
  | none => fault "unterminated address regex" []
  | some (t, rest) => do
    let (manner, rest) := addressFlags {} rest
    let (w, _) ← wantedOf extended t manner rest
    return (.fitting w, rest)

def address? (extended : Bool) (t : Text) : Except Fault (Option (Address × Text)) :=
  match t with
  | '/' :: rest => do
    let (a, rest) ← fittingAddress extended '/' rest
    return some (a, rest)
  | '\\' :: c :: rest => do
    let (a, rest) ← fittingAddress extended c rest
    return some (a, rest)
  | '$' :: rest => .ok (some (.last, rest))
  | c :: _ =>
    if c.isDigit then
      let (n, rest) := numberOf t
      match skipBlanks rest with
      | '~' :: after =>
        let (step, rest) := numberOf (skipBlanks after)
        .ok (some (if step = 0 then .line n else .every n step, rest))
      | _ => .ok (some (.line n, rest))
    else if c == '+' || c == '~' then
      fault "invalid usage of +N or ~N as first address" (numberOf t.tail).2
    else .ok none
  | [] => .ok none

def stop? (extended : Bool) (t : Text) : Except Fault (Option (Stop × Text)) :=
  match t with
  | '+' :: rest =>
    let (n, rest) := numberOf rest
    .ok (some (.after n, rest))
  | '~' :: rest =>
    let (n, rest) := numberOf rest
    .ok (some (.multiple n, rest))
  | _ => do
    return (← address? extended t).map fun (a, rest) => (.at_ a, rest)

def selection (extended : Bool) (t : Text) : Except Fault (Selection × Text) := do
  match ← address? extended t with
  | none => negation {} t
  | some (first, rest) =>
    match skipBlanks rest with
    | ',' :: after => do
      let after := skipBlanks after
      match ← stop? extended after with
      | none => fault "unexpected `,'" after.tail
      | some (second, rest) => negation { first := some first, second := some second } rest
    | _ => negation { first := some first } rest
where
  negation (s : Selection) (t : Text) : Except Fault (Selection × Text) :=
    match skipBlanks t with
    | '!' :: rest =>
      let rest := skipBlanks rest
      if rest.head? == some '!' then fault "multiple `!'s" rest.tail
      else .ok ({ s with negated := true }, rest)
    | rest => .ok (s, rest)

/-! ### Commands -/

def ending (t : Text) : Except Fault Text :=
  match skipBlanks t with
  | [] => .ok []
  | '\n' :: rest => .ok rest
  | ';' :: rest => .ok rest
  | '\x7d' :: rest => .ok ('\x7d' :: rest)
  | '#' :: rest => .ok ('#' :: rest)
  | _ :: rest => fault "extra characters after command" rest

def restOfLine (t : Text) : Text × Text :=
  let line := t.takeWhile (· ≠ '\n')
  (line, t.drop (line.length + 1))

def fileOf (t : Text) : Except Fault (Text × Text) :=
  let (name, rest) := restOfLine (skipBlanks t)
  if name.isEmpty then fault "missing filename in r/R/w/W commands" rest else .ok (name, rest)

def labelOf (braces : Bool) (t : Text) : Text × Text :=
  let t := skipBlanks t
  let name := t.takeWhile fun c => !isBlank c && c ≠ '\n' && c ≠ ';' && !(braces && c == '\x7d')
  (name, t.drop name.length)

def textLines : Nat → Text → Text → Text × Text
  | 0, sofar, rest => (sofar.reverse, rest)
  | _, sofar, [] => (sofar.reverse, [])
  | _, sofar, '\n' :: rest => (sofar.reverse, rest)
  | fuel + 1, sofar, '\\' :: rest =>
    match rest with
    | 'n' :: rest => textLines fuel ('\n' :: sofar) rest
    | [] => (sofar.reverse, [])
    | c :: left =>
      match escape? rest with
      | some (d, left) => textLines fuel (d :: sofar) left
      | none => textLines fuel (c :: sofar) left
  | fuel + 1, sofar, c :: rest => textLines fuel (c :: sofar) rest

def textOf (t : Text) : Except Fault (Text × Text) :=
  match skipBlanks t with
  | [] => fault "expected \\ after `a', `c' or `i'" []
  | '\\' :: rest =>
    match skipBlanks rest with
    | [] => .ok ([], [])
    | '\n' :: after => finish (textLines (after.length + 1) [] after)
    | _ => finish (textLines (rest.length + 1) [] rest)
  | '\n' :: rest => fault "expected \\ after `a', `c' or `i'" rest
  | rest => finish (textLines (rest.length + 1) [] rest)
where
  finish (r : Text × Text) : Except Fault (Text × Text) := .ok (r.1 ++ ['\n'], r.2)

def partsOf : Nat → Text → Text → List Part
  | 0, sofar, _ => [.text sofar.reverse]
  | _, sofar, [] => if sofar.isEmpty then [] else [.text sofar.reverse]
  | fuel + 1, sofar, c :: rest =>
    let before : List Part := if sofar.isEmpty then [] else [.text sofar.reverse]
    let special (p : Part) (rest : Text) : List Part := before ++ p :: partsOf fuel [] rest
    if c == '&' then special (.group 0) rest
    else if c == '\\' then
      match rest with
      | [] => partsOf fuel ('\\' :: sofar) []
      | d :: left =>
        if d.isDigit then special (.group (Text.digitValue d)) left
        else
          match d with
          | 'U' => special .upper left
          | 'L' => special .lower left
          | 'u' => special .upperNext left
          | 'l' => special .lowerNext left
          | 'E' => special .plain left
          | 'n' => partsOf fuel ('\n' :: sofar) left
          | _ =>
            match escape? rest with
            | some (e, left) => partsOf fuel (e :: sofar) left
            | none => partsOf fuel (d :: sofar) left
    else partsOf fuel (c :: sofar) rest

structure Flags where
  all : Bool := false
  prints : Bool := false
  count : Option Nat := none
  manner : Regex.Manner := {}
  file : Option Text := none

def flags : Nat → Flags → Text → Except Fault (Flags × Text)
  | 0, f, rest => .ok (f, rest)
  | _, f, [] => .ok (f, [])
  | fuel + 1, f, c :: rest =>
    match c with
    | 'g' =>
      if f.all then fault "multiple `g' options to `s' command" rest
      else flags fuel { f with all := true } rest
    | 'p' =>
      if f.prints then fault "multiple `p' options to `s' command" rest
      else flags fuel { f with prints := true } rest
    | 'i' => flags fuel { f with manner := { f.manner with foldsCase := true } } rest
    | 'I' => flags fuel { f with manner := { f.manner with foldsCase := true } } rest
    | 'm' => flags fuel { f with manner := { f.manner with hasLines := true } } rest
    | 'M' => flags fuel { f with manner := { f.manner with hasLines := true } } rest
    | 'e' => flags fuel f rest
    | 'w' => do
      let (name, rest) ← fileOf rest
      return ({ f with file := some name }, rest)
    | '\n' => .ok (f, rest)
    | ';' => .ok (f, rest)
    | '\x7d' => .ok (f, '\x7d' :: rest)
    | '#' => .ok (f, '#' :: rest)
    | _ =>
      if c.isDigit then
        let (n, left) := numberOf (c :: rest)
        if f.count.isSome then fault "multiple number options to `s' command" left
        else if n = 0 then fault "number option to `s' command may not be zero" left
        else flags fuel { f with count := some n } left
      else if isBlank c then flags fuel f rest
      else fault "unknown option to `s'" rest

def substitution (extended : Bool) (t : Text) : Except Fault (Command × Text) :=
  let cut : Option (Text × Text × Text) := do
    match t with
    | [] => none
    | delimiter :: rest =>
      if delimiter == '\n' || delimiter == '\\' then none
      else
        let (a, rest) ← upTo delimiter true (rest.length + 1) [] rest
        let (b, rest) ← upTo delimiter false (rest.length + 1) [] rest
        return (a, b, rest)
  match cut with
  | none => fault "unterminated `s' command" (unread t)
  | some (a, b, rest) => do
    let parts := partsOf (b.length + 1) [] b
    let (f, rest) ← flags (rest.length + 1) {} rest
    let (wanted, groups) ← wantedOf extended a f.manner rest
    let most := parts.foldl (fun m p =>
      match p with
      | .group n => max m n
      | _ => m) 0
    if groups < most then
      fault ("invalid reference \\" ++ toString most ++ " on `s' command's RHS") rest
    else
      return (.substitute { wanted, parts, all := f.all, count := f.count.getD 1, prints := f.prints
                            file := f.file }, rest)
where
  /-- What is left to read after the line at which the reading stopped. -/
  unread (t : Text) : Text :=
    match t with
    | _ :: rest => rest.dropWhile (· ≠ '\n')
    | [] => []

def plainChars : Text → Text
  | '\\' :: '\\' :: rest => '\\' :: plainChars rest
  | '\\' :: 'n' :: rest => '\n' :: plainChars rest
  | '\\' :: 't' :: rest => '\t' :: plainChars rest
  | c :: rest => c :: plainChars rest
  | [] => []

def replacement (t : Text) : Except Fault (Command × Text) :=
  let cut : Option (Text × Text × Text) := do
    match t with
    | [] => none
    | delimiter :: rest =>
      let (a, rest) ← upTo delimiter false (rest.length + 1) [] rest
      let (b, rest) ← upTo delimiter false (rest.length + 1) [] rest
      return (a, b, rest)
  match cut with
  | none => fault "unterminated `y' command" []
  | some (a, b, rest) =>
    let a := plainChars a
    let b := plainChars b
    if a.length ≠ b.length then fault "strings for `y' command are different lengths" rest
    else do
      let rest ← ending rest
      return (.replace (a.zip b), rest)

def optionalNumber (t : Text) : Option Nat × Text :=
  let t := skipBlanks t
  if (t.head?.map Char.isDigit).getD false then
    let (n, rest) := numberOf t
    (some n, rest)
  else (none, t)

def command (extended : Bool) (s : Selection) (c : Char) (rest : Text) :
    Except Fault (Command × Text) := do
  let plain (k : Command) : Except Fault (Command × Text) := do return (k, ← ending rest)
  let oneAddress (r : Except Fault (Command × Text)) : Except Fault (Command × Text) :=
    if s.second.isSome then fault "command only uses one address" rest else r
  match c with
  | '\x7b' => return (.opening 0, rest)
  | '\x7d' =>
    if s.first.isSome then fault "\x7d doesn't want any addresses" rest
    else return (.closing, ← ending rest)
  | '#' =>
    if s.first.isSome then fault "comments don't accept any addresses" rest
    else return (.nothing, (restOfLine rest).2)
  | ':' =>
    if s.first.isSome then fault ": doesn't want any addresses" rest
    else
      let (name, rest) := labelOf false rest
      if name.isEmpty then fault "\":\" lacks a label" rest else return (.label name, rest)
  | 'a' => do
    let (t, rest) ← textOf rest
    return (.append t, rest)
  | 'i' => do
    let (t, rest) ← textOf rest
    return (.insert t, rest)
  | 'c' => do
    let (t, rest) ← textOf rest
    return (.change t, rest)
  | 'b' => do
    let (name, rest) := labelOf true rest
    return (.branch name, ← ending rest)
  | 't' => do
    let (name, rest) := labelOf true rest
    return (.branchIf true name, ← ending rest)
  | 'T' => do
    let (name, rest) := labelOf true rest
    return (.branchIf false name, ← ending rest)
  | 'd' => plain .delete
  | 'D' => plain .deleteFirst
  | 'g' => plain .get
  | 'G' => plain .getMore
  | 'h' => plain .hold
  | 'H' => plain .holdMore
  | 'x' => plain .exchange
  | 'n' => plain .next
  | 'N' => plain .nextMore
  | 'p' => plain .print
  | 'P' => plain .printFirst
  | '=' => plain .number
  | 'F' => plain .fileName
  | 'z' => plain .zap
  | 'l' => do
    let (n, rest) := optionalNumber rest
    return (.list n, ← ending rest)
  | 'q' => oneAddress do
    let (n, rest) := optionalNumber rest
    return (.quit (n.getD 0), ← ending rest)
  | 'Q' => oneAddress do
    let (n, rest) := optionalNumber rest
    return (.quitSilently (n.getD 0), ← ending rest)
  | 'r' => do
    let (name, rest) ← fileOf rest
    return (.readFile name, rest)
  | 'R' => do
    let (name, rest) ← fileOf rest
    return (.readLine name, rest)
  | 'w' => do
    let (name, rest) ← fileOf rest
    return (.writeFile name, rest)
  | 'W' => do
    let (name, rest) ← fileOf rest
    return (.writeFirst name, rest)
  | 's' => substitution extended rest
  | 'y' => replacement rest
  | 'v' =>
    let (version, rest) := labelOf true rest
    if (Text.decimal? (version.takeWhile (· ≠ '.'))).getD 0 > 4 then
      fault "expected newer version of sed" rest
    else return (.nothing, ← ending rest)
  | c => fault ("unknown command: `" ++ String.singleton c ++ "'") rest

def isBadZero (s : Selection) : Bool :=
  match s.first, s.second with
  | some (.line 0), some (.at_ (.fitting _)) => false
  | some (.line 0), _ => true
  | _, _ => false

def steps (extended : Bool) : Nat → List Nat → Array Step → Text → Except Fault (Array Step)
  | 0, _, done, _ => .ok done
  | fuel + 1, opened, done, t =>
    match t.dropWhile fun c => isBlank c || c == '\n' || c == ';' with
    | [] =>
      if opened.isEmpty then .ok done
      else .error { message := "unmatched `\x7b'", place := .start }
    | start => do
      let (s, rest) ← selection extended start
      match rest with
      | [] => fault "missing command" []
      | '\n' :: rest => fault "missing command" rest
      | c :: rest => do
        if isBadZero s then fault "invalid usage of line address 0" rest
        else
          let (k, rest) ← command extended s c rest
          let here := done.size
          match k with
          | .opening _ =>
            steps extended fuel (here :: opened) (done.push { selection := s, command := k }) rest
          | .closing =>
            match opened with
            | [] => fault "unexpected `\x7d'" (if c == '\x7d' then unspent start else rest)
            | first :: opened =>
              let done := done.modify first fun step => { step with command := .opening here }
              steps extended fuel opened (done.push { selection := s, command := k }) rest
          | .nothing => steps extended fuel opened done rest
          | _ => steps extended fuel opened (done.push { selection := s, command := k }) rest
where
  /-- What is left after a brace. -/
  unspent (t : Text) : Text := (t.dropWhile (· ≠ '\x7d')).tail

def missingLabel? (program : Array Step) : Option Text :=
  let labels := program.toList.filterMap fun s =>
    match s.command with
    | .label name => some name
    | _ => none
  program.toList.findSome? fun s =>
    let name : Text := match s.command with
      | .branch name => name
      | .branchIf _ name => name
      | _ => []
    if name.isEmpty || labels.contains name then none else some name

def read (extended : Bool) (t : Text) : Except Fault (Array Step) := do
  let program ← steps extended (t.length + 1) [] #[] t
  match missingLabel? program with
  | some name =>
    .error
      { message := "can't find label for jump to `" ++ String.ofList name ++ "'"
        place := .unsaid, status := 4 }
  | none => return program

end Editing

end Tool

end Proctor
