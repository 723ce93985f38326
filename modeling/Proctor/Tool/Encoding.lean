import Proctor.Tool.Digest
import Proctor.Tool.Lines

/-!
# Bytes as letters, and digests of files

Bytes are written with sixty-four or thirty-two letters and read back. The digests of files are
shown, and lists of digests are checked.
-/

set_option autoImplicit false

namespace Proctor

namespace Tool

open Shell

namespace Encoding

open Plain (helpOptions)

/-! ### Letters -/

/-- An alphabet: a letter stands for some bits, and letters come in groups. -/
structure Alphabet where
  letters : List Char
  bits : Nat
  /-- The bytes of a group, and the letters. -/
  bytes : Nat
  group : Nat

def sixtyFour : Alphabet :=
  ⟨"ABCDEFGHIJKLMNOPQRSTUVWXYZabcdefghijklmnopqrstuvwxyz0123456789+/".toList, 6, 3, 4⟩

def thirtyTwo : Alphabet := ⟨"ABCDEFGHIJKLMNOPQRSTUVWXYZ234567".toList, 5, 5, 8⟩

namespace Alphabet

variable (a : Alphabet)

/-- A group of bytes as letters. A group that is not full ends with equals signs. -/
def encodeGroup (bytes : List Nat) : Text :=
  let n := Digest.number (bytes ++ List.replicate (a.bytes - bytes.length) 0)
  let used := (8 * bytes.length + a.bits - 1) / a.bits
  (List.range a.group).map fun i =>
    if i < used then
      (a.letters[n / twoTo (a.bits * (a.group - 1 - i)) % twoTo a.bits]?).getD '='
    else '='

def encode (bytes : List Nat) : Text :=
  (Digest.parts a.bytes bytes.length bytes).flatMap a.encodeGroup

def value? (c : Char) : Option Nat :=
  let i := a.letters.findIdx (· == c)
  if i < a.letters.length then some i else none

def decodeGroup (group : Text) : List Nat × Bool :=
  let values := (group.takeWhile fun c => (a.value? c).isSome).filterMap a.value?
  let rest := group.drop values.length
  let count := values.length * a.bits / 8
  let n := (values ++ List.replicate (a.group - values.length) 0).foldl
    (fun n v => n * twoTo a.bits + v) 0
  let fits := group.length = a.group && rest.all (· == '=') &&
    (count * 8 + a.bits - 1) / a.bits = values.length && 0 < count
  ((Digest.bytesOf n a.bytes).take count, fits)

def decode : Nat → Text → List Nat × Bool
  | 0, _ => ([], true)
  | _, [] => ([], true)
  | fuel + 1, t =>
    match a.decodeGroup (t.take a.group) with
    | (bytes, false) => (bytes, false)
    | (bytes, true) =>
      let (more, fits) := decode fuel (t.drop a.group)
      (bytes ++ more, fits)

end Alphabet

def wrapped (width : Nat) : Nat → Text → Text
  | 0, t => t
  | _, [] => []
  | fuel + 1, t =>
    if width = 0 then t else t.take width ++ '\n' :: wrapped width fuel (t.drop width)

def bytesOf (t : Text) : List Nat := t.map Char.toNat

def textOf (bytes : List Nat) : Text := bytes.map Char.ofNat

def based (alphabet : Alphabet) : Work Nat := do
  let a ← Work.arguments
    { letters := "diw:"
      names := [⟨"decode", "d", .nothing⟩, ⟨"ignore-garbage", "i", .nothing⟩,
        ⟨"wrap", "w", .something⟩] ++ helpOptions }
  let width ← match a.get? "w" with
    | none => pure 76
    | some t =>
      match Text.decimal? t with
      | some n => pure n
      | none => Work.fail 1 ("invalid wrap size: ".toList ++ quoted t)
  if let some extra := a.operands[1]? then
    Work.misuse 1 ("extra operand ".toList ++ quoted extra)
  let source := a.operands.headD ['-']
  match ← Work.readSource source with
  | .error .isDirectory => Work.fail 1 "read error: Is a directory".toList
  | .error cause => Work.fail 1 (nameOf source ++ ": ".toList ++ reason cause)
  | .ok t =>
    if a.has "d" then do
      let t := t.filter fun c =>
        c != '\n' && (!a.has "i" || c == '=' || (alphabet.value? c).isSome)
      let (bytes, fits) := alphabet.decode (t.length + 1) t
      Work.say (textOf bytes)
      if fits then return 0 else Work.fail 1 "invalid input".toList
    else do
      let all := alphabet.encode (bytesOf t)
      Work.say (wrapped width (all.length + 1) all)
      return 0

def base64 : Work Nat := based sixtyFour

def base32 : Work Nat := based thirtyTwo

/-! ### Digests of files -/

def hexadecimal (bytes : List Nat) : Text :=
  bytes.flatMap fun b =>
    let digits := Nat.toDigits 16 b
    List.replicate (2 - digits.length) '0' ++ digits

def onOneLine (name : Text) : Text × Bool :=
  let changed := name.flatMap fun c =>
    if c == '\n' then ['\\', 'n'] else if c == '\r' then ['\\', 'r']
    else if c == '\\' then ['\\', '\\'] else [c]
  (changed, changed ≠ name)

def unescaped : Text → Text
  | '\\' :: 'n' :: rest => '\n' :: unescaped rest
  | '\\' :: 'r' :: rest => '\r' :: unescaped rest
  | '\\' :: '\\' :: rest => '\\' :: unescaped rest
  | c :: rest => c :: unescaped rest
  | [] => []

def isHexDigit (c : Char) : Bool :=
  c.isDigit || ('a' ≤ c && c ≤ 'f') || ('A' ≤ c && c ≤ 'F')

def listed? (kind : Digest.Kind) (line : Text) : Option (Text × Text) :=
  let (isEscaped, line) := match line with
    | '\\' :: rest => (true, rest)
    | line => (false, line)
  let name (t : Text) : Text := if isEscaped then unescaped t else t
  let isDigest (t : Text) : Bool := t.length = 2 * kind.length && t.all isHexDigit
  let tag := kind.tag.toList ++ " (".toList
  if tag.isPrefixOf line then
    let rest := line.drop tag.length
    let digest := (rest.reverse.takeWhile isHexDigit).reverse
    let before := rest.take (rest.length - digest.length)
    if isDigest digest && ") = ".toList.isSuffixOf before then
      some (name (before.take (before.length - 4)), digest.map Char.toLower)
    else none
  else
    let digest := line.takeWhile isHexDigit
    match line.drop digest.length with
    | ' ' :: c :: file =>
      if isDigest digest && (c == ' ' || c == '*') && !file.isEmpty then
        some (name file, digest.map Char.toLower)
      else none
    | _ => none

structure Failures where
  malformed : Nat := 0
  unread : Nat := 0
  unmatched : Nat := 0
  proper : Nat := 0
  matched : Nat := 0

structure Checking where
  quiet : Bool
  silent : Bool
  strict : Bool
  warns : Bool
  skipsMissing : Bool

def checkLine (kind : Digest.Kind) (c : Checking) (list : Text) (number : Nat) (f : Failures)
    (line : Text) : Work Failures := do
  match listed? kind line with
  | none => do
    if c.warns then
      Work.complain (nameOf list ++ ": ".toList ++ Text.ofNat number ++
        ": improperly formatted ".toList ++ kind.tag.toList ++ " checksum line".toList)
    return { f with malformed := f.malformed + 1 }
  | some (name, digest) =>
    let f := { f with proper := f.proper + 1 }
    let verdict (t : String) : Work Unit := do
      unless c.silent do
        Work.say ((onOneLine name).1 ++ ": ".toList ++ t.toList ++ ['\n'])
    match ← Work.readSource name with
    | .error cause =>
      if c.skipsMissing && cause = .notFound then return f
      else do
        Work.complain (nameOf name ++ ": ".toList ++ reason cause)
        verdict "FAILED open or read"
        return { f with unread := f.unread + 1 }
    | .ok t =>
      if hexadecimal (kind.digest (bytesOf t)) = digest then do
        unless c.quiet do verdict "OK"
        return { f with matched := f.matched + 1 }
      else do
        verdict "FAILED"
        return { f with unmatched := f.unmatched + 1 }

def warning (count : Nat) (one many : String) : Work Unit := do
  unless count = 0 do
    Work.complain ("WARNING: ".toList ++ Text.ofNat count ++ [' '] ++
      (if count = 1 then one else many).toList)

def checkList (kind : Digest.Kind) (c : Checking) (list : Text) : Work Bool := do
  match ← Work.readSource list with
  | .error cause => do
    Work.complain (nameOf list ++ ": ".toList ++ reason cause)
    return false
  | .ok t =>
    let shown := if list = ['-'] then "'standard input'".toList else nameOf list
    let lines := ((Lines.cut '\n' t).map fun l => (Lines.ended l).1).filter fun l =>
      l.head? != some '#'
    let (_, f) ← lines.foldlM
      (fun ((number, f) : Nat × Failures) line => do
        return (number + 1, ← checkLine kind c shown number f line))
      (1, {})
    if f.proper = 0 then do
      Work.complain (shown ++ ": no properly formatted checksum lines found".toList)
      return false
    unless c.silent do
      warning f.malformed "line is improperly formatted" "lines are improperly formatted"
      warning f.unread "listed file could not be read" "listed files could not be read"
      warning f.unmatched "computed checksum did NOT match" "computed checksums did NOT match"
    if c.skipsMissing && f.matched = 0 && f.unmatched = 0 then
      unless c.silent do Work.complain (shown ++ ": no file was verified".toList)
      return false
    return f.unread = 0 && f.unmatched = 0 && !(c.strict && 0 < f.malformed)

def showOne (kind : Digest.Kind) (mark : Char) (isTagged : Bool) (ending : Char) (source : Text) :
    Work Bool := do
  match ← Lines.readOr Lines.usual source with
  | none => return false
  | some t => do
    let digest := hexadecimal (kind.digest (bytesOf t))
    let (name, isEscaped) := if ending == '\n' then onOneLine source else (source, false)
    Work.say ((if isEscaped then ['\\'] else []) ++
      (if isTagged then
        kind.tag.toList ++ " (".toList ++ name ++ ") = ".toList ++ digest
      else digest ++ [' ', mark] ++ name) ++ [ending])
    return true

def digests (kind : Digest.Kind) : Work Nat := do
  let a ← Work.arguments
    { letters := "bctwz"
      names := [⟨"binary", "b", .nothing⟩, ⟨"check", "c", .nothing⟩, ⟨"tag", "tag", .nothing⟩,
        ⟨"text", "t", .nothing⟩, ⟨"zero", "z", .nothing⟩,
        ⟨"ignore-missing", "ignore-missing", .nothing⟩, ⟨"quiet", "quiet", .nothing⟩,
        ⟨"status", "status", .nothing⟩, ⟨"strict", "strict", .nothing⟩,
        ⟨"warn", "w", .nothing⟩] ++ helpOptions }
  if a.has "c" then
    let c : Checking :=
      { quiet := a.has "quiet", silent := a.has "status", strict := a.has "strict"
        warns := a.has "w", skipsMissing := a.has "ignore-missing" }
    Manage.forEach a.sources (checkList kind c)
  else
    for (key, name) in [("ignore-missing", "--ignore-missing"), ("status", "--status"),
        ("w", "--warn"), ("quiet", "--quiet"), ("strict", "--strict")] do
      if a.has key then
        Work.misuse 1 ("the ".toList ++ name.toList ++
          " option is meaningful only when verifying checksums".toList)
    let mark := if a.lastOf ["b", "t"] = some "b" then '*' else ' '
    Manage.forEach a.sources
      (showOne kind mark (a.has "tag") (if a.has "z" then '\x00' else '\n'))

/-! ### Check sums of files -/

def sumsOf (a : Arguments) (show_ : List Nat → Text) : Work Nat :=
  Manage.forEach a.sources fun source => do
    match ← Lines.readOr Lines.usual source with
    | none => return false
    | some t => do
      Work.say (show_ (bytesOf t) ++
        (if a.operands.isEmpty then [] else ' ' :: source) ++ ['\n'])
      return true

def cksum : Work Nat := do
  let a ← Work.arguments { letters := "", names := helpOptions }
  sumsOf a fun bytes =>
    Text.ofNat (Digest.cyclic bytes) ++ [' '] ++ Text.ofNat bytes.length

def sum : Work Nat := do
  let a ← Work.arguments
    { letters := "rs", names := [⟨"sysv", "s", .nothing⟩] ++ helpOptions }
  sumsOf a fun bytes =>
    if a.lastOf ["r", "s"] = some "s" then
      Text.ofNat (Digest.folded bytes) ++ [' '] ++ Text.ofNat ((bytes.length + 511) / 512)
    else
      Calendar.padded '0' 5 (Text.ofNat (Digest.turning bytes)) ++ [' '] ++
        Calendar.padded ' ' 5 (Text.ofNat ((bytes.length + 1023) / 1024))

end Encoding

end Tool

end Proctor
