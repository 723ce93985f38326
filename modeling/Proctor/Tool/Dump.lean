import Proctor.Tool.Passing

/-!
# Bytes shown and copied in blocks

Lines of bytes are shown as numbers or characters, several ways at once if asked. Lines that repeat
the one before are left out.
-/

set_option autoImplicit false

namespace Proctor

namespace Tool

open Shell

namespace Dump

open Plain (helpOptions)

inductive Kind where
  | octal
  | hexadecimal
  | signed
  | unsigned
  | character
  | name
  deriving DecidableEq, Repr, Inhabited

structure Spec where
  kind : Kind
  size : Nat := 1
  /-- The characters are shown at the end of a line. -/
  trailer : Bool := false
  deriving DecidableEq, Repr, Inhabited

def Spec.width (s : Spec) : Nat :=
  match s.kind with
  | .octal => (8 * s.size + 2) / 3
  | .hexadecimal => 2 * s.size
  | .signed => if s.size = 1 then 4 else if s.size = 2 then 6 else if s.size = 4 then 11 else 20
  | .unsigned => if s.size = 1 then 3 else if s.size = 2 then 5 else if s.size = 4 then 10 else 20
  | .character => 3
  | .name => 3

def nameOfByte (n : Nat) : Text :=
  let names := ["nul", "soh", "stx", "etx", "eot", "enq", "ack", "bel", "bs", "ht", "nl", "vt",
    "ff", "cr", "so", "si", "dle", "dc1", "dc2", "dc3", "dc4", "nak", "syn", "etb", "can", "em",
    "sub", "esc", "fs", "gs", "rs", "us", "sp"]
  let n := n % 128
  if n = 127 then "del".toList
  else
    match names[n]? with
    | some s => s.toList
    | none => [Char.ofNat n]

def characterOf (n : Nat) : Text :=
  match n with
  | 0 => "\\0".toList
  | 7 => "\\a".toList
  | 8 => "\\b".toList
  | 9 => "\\t".toList
  | 10 => "\\n".toList
  | 11 => "\\v".toList
  | 12 => "\\f".toList
  | 13 => "\\r".toList
  | n => if 32 ≤ n && n < 127 then [Char.ofNat n] else Permission.octal n 3

def zeroed (width : Nat) (digits : Text) : Text :=
  List.replicate (width - digits.length) '0' ++ digits

def shownValue (s : Spec) (bytes : List Nat) : Text :=
  let n := bytes.reverse.foldl (fun n b => n * 256 + b) 0
  match s.kind with
  | .octal => zeroed s.width (Nat.toDigits 8 n)
  | .hexadecimal => zeroed s.width (Nat.toDigits 16 n)
  | .unsigned => Text.ofNat n
  | .signed =>
    let most := twoTo (8 * s.size)
    Text.ofInt (if most / 2 ≤ n then (n : Int) - (most : Nat) else n)
  | .character => characterOf n
  | .name => nameOfByte n

/-- The numbers of a line, each right in its room. The room left over by others is spread. -/
def shownFields (s : Spec) (fields padding : Nat) : Nat → Nat → List Nat → Text
  | 0, _, _ => []
  | _, _, [] => []
  | i + 1, left, bytes =>
    let next := padding * i / fields
    let value := shownValue s ((bytes.take s.size) ++ List.replicate (s.size - bytes.length) 0)
    Calendar.padded ' ' (left - next + s.width) value ++
      shownFields s fields padding i next (bytes.drop s.size)

structure Style where
  specs : List Spec
  /-- Base and width of addresses; none if they are left out. -/
  base : Option (Nat × Nat) := some (8, 7)
  perLine : Nat := 16
  repeats : Bool := false

def Style.room (s : Style) : Nat :=
  (s.specs.map fun x => (x.width + 1) * (s.perLine / x.size)).foldl max 0

def address (s : Style) (n : Nat) : Text :=
  match s.base with
  | none => []
  | some (base, width) => zeroed width (Nat.toDigits base n)

def trailer (bytes : List Nat) : Text :=
  "  >".toList ++ (bytes.map fun b => if 32 ≤ b && b < 127 then Char.ofNat b else '.') ++ ['<']

def shownLine (s : Style) (offset : Nat) (bytes : List Nat) : Text :=
  let one (isFirst : Bool) (x : Spec) : Text :=
    let fields := s.perLine / x.size
    let padding := s.room - x.width * fields
    let text := shownFields x fields padding fields padding bytes
    let start := if isFirst then address s offset
      else List.replicate ((s.base.map Prod.snd).getD 0) ' '
    let blank := fields - (bytes.length + x.size - 1) / x.size
    start ++ text ++
      (if x.trailer then
        List.replicate (x.width * blank + padding * blank / fields) ' ' ++ trailer bytes
       else []) ++ ['\n']
  match s.specs with
  | [] => []
  | first :: others => one true first ++ others.flatMap (one false)

/-- All lines, given the one before and whether a star stands for some. -/
def lines (s : Style) : Nat → Nat → Option (List Nat) → Bool → List Nat → Text
  | 0, _, _, _, _ => []
  | _, offset, _, _, [] => if s.base.isSome then address s offset ++ ['\n'] else []
  | fuel + 1, offset, last, starred, bytes =>
    let line := bytes.take s.perLine
    let rest := bytes.drop s.perLine
    if !s.repeats && line.length = s.perLine && last = some line then
      (if starred then [] else "*\n".toList) ++
        lines s fuel (offset + line.length) last true rest
    else shownLine s offset line ++ lines s fuel (offset + line.length) (some line) false rest

/-! ### Types -/

def kind? : Char → Option Kind
  | 'o' => some .octal
  | 'x' => some .hexadecimal
  | 'd' => some .signed
  | 'u' => some .unsigned
  | 'c' => some .character
  | 'a' => some .name
  | _ => none

def specs (whole : Text) : Nat → Text → Except Text (List Spec)
  | 0, _ => .ok []
  | _, [] => .ok []
  | fuel + 1, c :: rest => do
    match kind? c with
    | none => .error ("invalid character ".toList ++ quoted [c] ++ " in type string ".toList ++
        quoted whole)
    | some kind =>
      let digits := rest.takeWhile Char.isDigit
      let (size, rest) : Nat × Text :=
        if kind = .character || kind = .name then (1, rest)
        else if !digits.isEmpty then ((Text.decimal? digits).getD 0, rest.drop digits.length)
        else
          match rest with
          | 'C' :: rest => (1, rest)
          | 'S' :: rest => (2, rest)
          | 'I' :: rest => (4, rest)
          | 'L' :: rest => (8, rest)
          | rest => (4, rest)
      if !([1, 2, 4, 8].contains size) then
        .error ("invalid type string ".toList ++ quoted whole ++
          ";\nthis system doesn't provide a ".toList ++ Text.ofNat size ++
          "-byte integral type".toList)
      else
        let (trailer, rest) := match rest with
          | 'z' :: rest => (true, rest)
          | rest => (false, rest)
        return { kind, size, trailer } :: (← specs whole fuel rest)

def oldType? : String → Option String
  | "a" => some "a"
  | "b" => some "o1"
  | "c" => some "c"
  | "d" => some "u2"
  | "i" => some "dI"
  | "l" => some "dL"
  | "o" => some "o2"
  | "s" => some "d2"
  | "x" => some "x2"
  | "h" => some "x2"
  | _ => none

def specsOf : List (String × Text) → Work (List Spec)
  | [] => return []
  | (key, value) :: rest => do
    let t : Option Text := if key = "t" then some value else (oldType? key).map String.toList
    match t with
    | none => specsOf rest
    | some t =>
      match specs t (t.length + 1) t with
      | .ok list => return list ++ (← specsOf rest)
      | .error message => Work.fail 1 message

def readAll : List Text → Work (List Text × Bool)
  | [] => return ([], true)
  | operand :: rest => do
    match ← Work.readSource operand with
    | .ok t => do
      let (more, isFine) ← readAll rest
      return (t :: more, isFine)
    | .error cause => do
      Work.complain (nameOf operand ++ ": ".toList ++ reason cause)
      let (more, _) ← readAll rest
      return (more, false)

def numberFor (a : Arguments) (key : String) : Work (Option Nat) :=
  match a.get? key with
  | none => pure none
  | some t =>
    match Manage.size? t with
    | some n => pure (some n)
    | none => Work.fail 1 ("invalid -".toList ++ key.toList ++ " argument ".toList ++ quoted t)

def od : Work Nat := do
  let a ← Work.arguments
    { letters := "abcdhiloxsvA:j:N:S:t:w::"
      names := [⟨"skip-bytes", "j", .something⟩, ⟨"address-radix", "A", .something⟩,
        ⟨"read-bytes", "N", .something⟩, ⟨"format", "t", .something⟩,
        ⟨"output-duplicates", "v", .nothing⟩, ⟨"width", "w", .maybe⟩] ++ helpOptions }
  let base ←
    match a.get? "A" with
    | none => pure (some (8, 7))
    | some t =>
      match t.head? with
      | some 'd' => pure (some (10, 7))
      | some 'o' => pure (some (8, 7))
      | some 'x' => pure (some (16, 6))
      | some 'n' => pure none
      | _ => Work.fail 1 ("invalid output address radix ".toList ++ quoted (t.take 1) ++
          "; it must be one character from [doxn]".toList)
  let skipped ← numberFor a "j"
  let most ← numberFor a "N"
  let chosen ← specsOf a.options
  let chosen := if chosen.isEmpty then [{ kind := .octal, size := 2 }] else chosen
  let unit := (chosen.map Spec.size).foldl Nat.lcm 1
  let width ←
    match a.get? "w" with
    | none => pure 16
    | some [] => pure 32
    | some t =>
      match Manage.size? t with
      | none => Work.fail 1 ("invalid -w argument ".toList ++ quoted t)
      | some n =>
        if n = 0 || n % unit ≠ 0 then do
          Work.complain ("warning: invalid width ".toList ++ Text.ofNat n ++ "; using ".toList ++
            Text.ofNat unit ++ " instead".toList)
          pure unit
        else pure n
  let (parts, isFine) ← readAll a.sources
  let all := parts.flatten.map Char.toNat
  let skip := skipped.getD 0
  if all.length < skip then Work.fail 1 "cannot skip past end of combined input".toList
  else
    let bytes := match most with
      | some n => (all.drop skip).take n
      | none => all.drop skip
    let s : Style := { specs := chosen, base, perLine := width, repeats := a.has "v" }
    if isFine || !parts.isEmpty then
      Work.say (lines s (bytes.length + 1) skip none false bytes)
    return if isFine then 0 else 1

/-! ### Copying in blocks -/

structure Copying where
  source : Option Text := none
  target : Option Text := none
  input : Nat := 512
  output : Nat := 512
  count : Option Nat := none
  skip : Nat := 0
  seek : Nat := 0
  conversions : List Text := []
  quiet : Bool := false
  noRate : Bool := false

def copying : Copying → List Text → Except Text Copying
  | c, [] => .ok c
  | c, operand :: rest => do
    let (key, value) := Text.cutAt (· == '=') operand
    let unknown : Except Text Copying :=
      .error ("unrecognized operand ".toList ++ quoted operand ++
        "\nTry 'dd --help' for more information.".toList)
    let number (t : Text) : Except Text Nat :=
      match Manage.size? t with
      | some n => .ok n
      | none => .error ("invalid number: ".toList ++ quoted t)
    match value with
    | none => unknown
    | some v =>
      match String.ofList key with
      | "if" => copying { c with source := some v } rest
      | "of" => copying { c with target := some v } rest
      | "bs" => do
        let n ← number v
        copying { c with input := n, output := n } rest
      | "ibs" => do copying { c with input := ← number v } rest
      | "obs" => do copying { c with output := ← number v } rest
      | "cbs" => copying c rest
      | "count" => do copying { c with count := some (← number v) } rest
      | "skip" => do copying { c with skip := ← number v } rest
      | "iseek" => do copying { c with skip := ← number v } rest
      | "seek" => do copying { c with seek := ← number v } rest
      | "oseek" => do copying { c with seek := ← number v } rest
      | "conv" => copying { c with conversions := c.conversions ++ Text.split ',' v } rest
      | "iflag" => copying c rest
      | "oflag" => copying c rest
      | "status" =>
        copying { c with quiet := v = "none".toList, noRate := v = "noxfer".toList } rest
      | _ => unknown

def readUpTo (descriptor : Nat) (limit : Option Nat) : Nat → List Text → Nat →
    Work (Except Cause Text)
  | 0, parts, _ => return .ok parts.reverse.flatten
  | fuel + 1, parts, total => do
    if (limit.map fun n => decide (n ≤ total)).getD false then
      return .ok (((parts.reverse.flatten : Text)).take (limit.getD 0))
    else
      match ← Work.readPart descriptor with
      | .error cause => return .error cause
      | .ok [] => return .ok parts.reverse.flatten
      | .ok t => do
        let total := total + t.length
        match limit with
        | some n => if n < total then Work.giveBack descriptor (total - n)
        | none => pure ()
        readUpTo descriptor limit fuel (t :: parts) total

def converted (c : Copying) (t : Text) : Text :=
  let has (s : String) : Bool := c.conversions.contains s.toList
  let t := if has "ucase" then t.map Char.toUpper else if has "lcase" then t.map Char.toLower else t
  if has "swab" then swapped t else t
where
  swapped : Text → Text
    | a :: b :: rest => b :: a :: swapped rest
    | t => t

def putAt (c : Copying) (path t : Text) : Work (Except Cause Unit) := do
  let keeps := c.conversions.contains "notrunc".toList
  let start := c.seek * c.output
  Work.change fun f => do
    let (number, f) ← f.openForWriting (pathOf path) { truncates := !keeps && c.seek = 0 }
    let old := (f.get number).content
    let kept := if keeps then old else Manage.resized old start
    let f := if (f.get number).isRegular then f.setBody number (.file kept) else f
    return ((), f.writeAt number start t.toBytes)

def records (total block : Nat) : Text :=
  Text.ofNat (total / block) ++ ['+'] ++ Text.ofNat (if total % block = 0 then 0 else 1)

def dd : Work Nat := do
  let q ← Work.request
  match copying {} (q.arguments.filter (· ≠ "--".toList)) with
  | .error message => Work.fail 1 message
  | .ok c => do
    if c.input = 0 || c.output = 0 then Work.fail 1 "invalid number: '0'".toList
    let opened ←
      match c.source with
      | none => pure (.ok 0)
      | some path => Work.ask (.open_ path)
    match opened with
    | .error cause =>
      Work.fail 1 ("failed to open ".toList ++ shellQuoted (c.source.getD []) ++ ": ".toList ++
        reason cause)
    | .ok d => do
      let limit := c.count.map fun n => (n + c.skip) * c.input
      match ← readUpTo d limit Work.readLimit [] 0 with
      | .error cause =>
        Work.fail 1 ("error reading ".toList ++
          shellQuoted (c.source.getD "standard input".toList) ++ ": ".toList ++ reason cause)
      | .ok all => do
        let t := converted c (all.drop (c.skip * c.input))
        match c.target with
        | none => Passing.put t
        | some path =>
          match ← putAt c path t with
          | .ok _ => pure ()
          | .error cause =>
            Work.fail 1 ("failed to open ".toList ++ shellQuoted path ++ ": ".toList ++
              reason cause)
        if !c.quiet then do
          let _ ← Work.writeTo 2
            (records t.length c.input ++ " records in\n".toList ++ records t.length c.output ++
              " records out\n".toList ++
              (if c.noRate then []
               else Text.ofNat t.length ++ " bytes copied, 0.0001 s, ".toList ++
                 Text.ofNat (t.length / 100) ++ " MB/s\n".toList))
        return 0

end Dump

end Tool

end Proctor
