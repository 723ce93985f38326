import Proctor.Tool.Options

/-!
# Dates and times

Times are counted in nanoseconds since the start of 1970, in universal time. They are read from the
usual ways of writing them and shown as a format says.
-/

set_option autoImplicit false

namespace Proctor

namespace Tool

open Shell

namespace Calendar

/-- Nanoseconds in a second; a day is counted in seconds. -/
def second : Nat := 1000000000

def day : Nat := 86400

def daysTo (year : Int) (month number : Nat) : Int :=
  let y : Int := if month ≤ 2 then year - 1 else year
  let era := y / 400
  let yearOfEra := y - era * 400
  let m : Int := if 2 < month then (month : Int) - 3 else (month : Int) + 9
  let dayOfYear := (153 * m + 2) / 5 + (number : Int) - 1
  let dayOfEra := yearOfEra * 365 + yearOfEra / 4 - yearOfEra / 100 + dayOfYear
  era * 146097 + dayOfEra - 719468

structure Moment where
  year : Int
  month : Nat
  number : Nat
  hour : Nat
  minute : Nat
  second : Nat
  /-- Counted from Sunday. -/
  weekday : Nat
  /-- Counted from zero. -/
  dayOfYear : Nat

def momentAt (seconds : Int) : Moment :=
  let days := seconds / day
  let rest := (seconds % day).toNat
  let z := days + 719468
  let era := z / 146097
  let dayOfEra := z - era * 146097
  let yearOfEra := (dayOfEra - dayOfEra / 1460 + dayOfEra / 36524 - dayOfEra / 146096) / 365
  let dayOfYear := dayOfEra - (365 * yearOfEra + yearOfEra / 4 - yearOfEra / 100)
  let m := (5 * dayOfYear + 2) / 153
  let number := (dayOfYear - (153 * m + 2) / 5 + 1).toNat
  let month := (if m < 10 then m + 3 else m - 9).toNat
  let year := yearOfEra + era * 400 + (if month ≤ 2 then 1 else 0)
  { year, month, number, hour := rest / 3600, minute := rest / 60 % 60, second := rest % 60
    weekday := ((days + 4) % 7).toNat, dayOfYear := (days - daysTo year 1 1).toNat }

def months : List String :=
  ["January", "February", "March", "April", "May", "June", "July", "August", "September",
   "October", "November", "December"]

def weekdays : List String :=
  ["Sunday", "Monday", "Tuesday", "Wednesday", "Thursday", "Friday", "Saturday"]

def isLeap (year : Int) : Bool := (year % 4 == 0 && year % 100 != 0) || year % 400 == 0

def lengthOf (year : Int) (month : Nat) : Nat :=
  if month = 2 then if isLeap year then 29 else 28
  else if [4, 6, 9, 11].contains month then 30
  else 31

def seconds? (year : Int) (month number hour minute second : Nat) : Option Int :=
  if month < 1 || 12 < month || number < 1 || lengthOf year month < number || 23 < hour ||
      59 < minute || 60 < second then none
  else some (daysTo year month number * day + hour * 3600 + minute * 60 + second)

/-- Seconds since 1970 of a time written as digits: year, month, day, hour, minute, and maybe
seconds after a point. -/
def stamp? (t : Text) : Option Nat := do
  let (digits, after) := Text.cutAt (· == '.') t
  let s ← match after with
    | none => some 0
    | some s => if s.length = 2 then Text.decimal? s else none
  let n ← Text.decimal? digits
  let year ←
    if digits.length = 12 then some (n / 100000000)
    else if digits.length = 10 then
      let y := n / 100000000
      some ((if y < 69 then 2000 else 1900) + y)
    else none
  let rest := n % 100000000
  let time ← seconds? year (rest / 1000000) (rest / 10000 % 100) (rest / 100 % 100) (rest % 100) s
  return time.toNat

/-! ### Reading -/

structure Draft where
  date : Option (Int × Nat × Nat) := none
  time : Option (Nat × Nat × Nat) := none
  zone : Int := 0
  /-- Seconds to add. -/
  shift : Int := 0
  monthShift : Int := 0

def tokens : Nat → Text → List Text
  | 0, _ => []
  | _, [] => []
  | fuel + 1, c :: rest =>
    if c == ' ' || c == '\t' || c == ',' then tokens fuel rest
    else if c.isDigit then
      let more := rest.takeWhile Char.isDigit
      (c :: more) :: tokens fuel (rest.drop more.length)
    else if c.isAlpha then
      let more := rest.takeWhile Char.isAlpha
      (c :: more).map Char.toLower :: tokens fuel (rest.drop more.length)
    else [c] :: tokens fuel rest

def monthNamed? (t : Text) : Option Nat :=
  if t.length < 3 then none
  else (months.findIdx? fun m => t.isPrefixOf (m.toList.map Char.toLower)).map (· + 1)

def isWeekday (t : Text) : Bool :=
  3 ≤ t.length && weekdays.any fun d => t.isPrefixOf (d.toList.map Char.toLower)

def unit? (t : Text) : Option (Nat × Nat) :=
  let t := if 3 < t.length && t.getLast? == some 's' then t.dropLast else t
  match String.ofList t with
  | "second" => some (1, 0)
  | "sec" => some (1, 0)
  | "minute" => some (60, 0)
  | "min" => some (60, 0)
  | "hour" => some (3600, 0)
  | "day" => some (day, 0)
  | "week" => some (7 * day, 0)
  | "fortnight" => some (14 * day, 0)
  | "month" => some (0, 1)
  | "year" => some (0, 12)
  | _ => none

def shiftBy (d : Draft) (n : Int) (u : Nat × Nat) : Draft :=
  { d with shift := d.shift + n * u.1, monthShift := d.monthShift + n * u.2 }

def zoneOf (digits : Text) : Option Int := do
  let n ← Text.decimal? digits
  if digits.length ≤ 2 then return n * 3600
  else return (n / 100 * 3600 + n % 100 * 60 : Nat)

def parse : Nat → Draft → List Text → Option Draft
  | 0, _, _ => none
  | _, d, [] => some d
  | fuel + 1, d, tokens =>
    let number (t : Text) : Nat := (Text.decimal? t).getD 0
    let isNumber (t : Text) : Bool := (Text.decimal? t).isSome
    let go := parse fuel
    match tokens with
    | [] => some d
    | a :: ['-'] :: b :: ['-'] :: c :: rest =>
      if isNumber a && isNumber b && isNumber c && d.date.isNone then
        go { d with date := some (number a, number b, number c) } rest
      else none
    | a :: [':'] :: b :: [':'] :: c :: ['.'] :: _ :: rest =>
      if isNumber a && isNumber b && isNumber c && d.time.isNone then
        go { d with time := some (number a, number b, number c) } rest
      else none
    | a :: [':'] :: b :: [':'] :: c :: rest =>
      if isNumber a && isNumber b && isNumber c && d.time.isNone then
        go { d with time := some (number a, number b, number c) } rest
      else none
    | a :: [':'] :: b :: rest =>
      if isNumber a && isNumber b && d.time.isNone then
        go { d with time := some (number a, number b, 0) } rest
      else none
    | a :: ['/'] :: b :: ['/'] :: c :: rest =>
      if !(isNumber a && isNumber b && isNumber c && d.date.isNone) then none
      else if a.length = 4 then go { d with date := some (number a, number b, number c) } rest
      else go { d with date := some (number c, number a, number b) } rest
    | [sign] :: b :: rest =>
      if sign == '+' || sign == '-' then
        let signed (n : Int) : Int := if sign == '-' then -n else n
        match rest with
        | u :: more =>
          match unit? u with
          | some u => go (shiftBy d (signed (number b)) u) more
          | none => (zoneOf b).bind fun z => go { d with zone := signed z } rest
        | [] =>
          if d.time.isSome then (zoneOf b).bind fun z => go { d with zone := signed z } []
          else none
      else if [sign] = ['z'] || [sign] = ['t'] then go d (b :: rest)
      else word fuel d [sign] (b :: rest)
    | a :: rest => word fuel d a rest
where
  /-- Reads a part that stands for itself. -/
  word (fuel : Nat) (d : Draft) (a : Text) (rest : List Text) : Option Draft :=
    let number (t : Text) : Nat := (Text.decimal? t).getD 0
    let go := parse fuel
    match String.ofList a with
    | "now" => go d rest
    | "today" => go d rest
    | "utc" => go d rest
    | "gmt" => go d rest
    | "z" => go d rest
    | "t" => go d rest
    | "ago" => go { d with shift := -d.shift, monthShift := -d.monthShift } rest
    | "yesterday" => go (shiftBy d (-1) (day, 0)) rest
    | "tomorrow" => go (shiftBy d 1 (day, 0)) rest
    | "midnight" => go { d with time := some (0, 0, 0) } rest
    | "noon" => go { d with time := some (12, 0, 0) } rest
    | _ =>
      if (Text.decimal? a).isSome then
        match rest with
        | b :: more =>
          match unit? b, monthNamed? b, more with
          | some u, _, _ => go (shiftBy d (number a) u) more
          | none, some m, y :: more =>
            if (Text.decimal? y).isSome then
              go { d with date := some ((number y : Int), m, number a) } more
            else none
          | none, _, _ => compact fuel d a rest
        | [] => compact fuel d a rest
      else if a = "next".toList || a = "last".toList then
        match rest with
        | u :: more =>
          (unit? u).bind fun u => go (shiftBy d (if a = "next".toList then 1 else -1) u) more
        | [] => none
      else if isWeekday a then go d rest
      else
        match monthNamed? a, rest with
        | some m, n :: y :: more =>
          if (Text.decimal? n).isSome && (Text.decimal? y).isSome && y.length = 4 then
            go { d with date := some ((number y : Int), m, number n) } more
          else none
        | _, _ =>
          match unit? a with
          | some u => go (shiftBy d 1 u) rest
          | none => none
  /-- A date of digits only. -/
  compact (fuel : Nat) (d : Draft) (a : Text) (rest : List Text) : Option Draft :=
    let n := (Text.decimal? a).getD 0
    if a.length = 8 && d.date.isNone then
      parse fuel { d with date := some ((n / 10000 : Nat), n / 100 % 100, n % 100) } rest
    else if (a.length = 4 || a.length ≤ 2) && d.time.isNone then
      parse fuel { d with time := some (if a.length = 4 then (n / 100, n % 100, 0) else (n, 0, 0)) }
        rest
    else none

def shiftMonths (year : Int) (month : Nat) (by_ : Int) : Int × Nat :=
  let total := year * 12 + ((month : Int) - 1) + by_
  (total / 12, (total % 12).toNat + 1)

def date? (now : Nat) (t : Text) : Option Nat :=
  match t with
  | '@' :: rest =>
    let (whole, part) := Text.cutAt (· == '.') rest
    let fraction := ((part.getD []) ++ List.replicate 9 '0').take 9
    match Text.decimal? whole, Text.decimal? fraction with
    | some n, some f => some (n * second + f)
    | _, _ => none
  | _ => do
    let d ← parse (2 * t.length + 2) {} (tokens (t.length + 1) t)
    let present := momentAt (now / second : Nat)
    let isExact := d.date.isNone && d.time.isNone && !t.isEmpty
    let (year, month, number) := d.date.getD (present.year, present.month, present.number)
    let (hour, minute, s) := d.time.getD
      (if isExact then (present.hour, present.minute, present.second) else (0, 0, 0))
    let _ ← seconds? year month number hour minute s
    let (year, month) := shiftMonths year month d.monthShift
    let base := daysTo year month number * day + hour * 3600 + minute * 60 + s
    let total := base - d.zone + d.shift
    if total < 0 then none
    else some (total.toNat * second + (if isExact then now % second else 0))

/-! ### Showing -/

def padded (c : Char) (width : Nat) (t : Text) : Text := List.replicate (width - t.length) c ++ t

/-- The number of the week of a year, and that year, where weeks belong to the year that has more of
their days. -/
def weekOf (m : Moment) : Int × Nat :=
  let fromMonday := (m.weekday + 6) % 7
  let week := (m.dayOfYear + 10 - (fromMonday + 1)) / 7
  let weeksIn (year : Int) : Nat :=
    let first := (momentAt (daysTo year 1 1 * day)).weekday
    if first = 4 || (isLeap year && first = 3) then 53 else 52
  if week = 0 then (m.year - 1, weeksIn (m.year - 1))
  else if weeksIn m.year < week then (m.year + 1, 1)
  else (m.year, week)

def field? (nanoseconds : Nat) (m : Moment) (c : Char) : Option (Char × Nat × Text) :=
  let seconds := nanoseconds / second
  let zeros (width n : Nat) := some ('0', width, Text.ofNat n)
  let blanks (width n : Nat) := some (' ', width, Text.ofNat n)
  let plain (s : String) := some (' ', 0, s.toList)
  let two (n : Nat) : String := String.ofList (padded '0' 2 (Text.ofNat n))
  let hour12 := if m.hour % 12 = 0 then 12 else m.hour % 12
  let weekday := weekdays[m.weekday]?.getD ""
  let month := months[m.month - 1]?.getD ""
  let short (s : String) : String := String.ofList (s.toList.take 3)
  let year := m.year.toNat
  let clock := two m.hour ++ ":" ++ two m.minute ++ ":" ++ two m.second
  let half := if m.hour < 12 then "AM" else "PM"
  match c with
  | '%' => plain "%"
  | 'n' => plain "\n"
  | 't' => plain "\t"
  | 'Y' => some ('0', 0, Text.ofInt m.year)
  | 'C' => zeros 2 (year / 100)
  | 'y' => zeros 2 (year % 100)
  | 'm' => zeros 2 m.month
  | 'd' => zeros 2 m.number
  | 'e' => blanks 2 m.number
  | 'H' => zeros 2 m.hour
  | 'I' => zeros 2 hour12
  | 'k' => blanks 2 m.hour
  | 'l' => blanks 2 hour12
  | 'M' => zeros 2 m.minute
  | 'S' => zeros 2 m.second
  | 'N' => zeros 9 (nanoseconds % second)
  | 's' => some ('0', 0, Text.ofNat seconds)
  | 'j' => zeros 3 (m.dayOfYear + 1)
  | 'u' => some ('0', 1, Text.ofNat (if m.weekday = 0 then 7 else m.weekday))
  | 'w' => some ('0', 1, Text.ofNat m.weekday)
  | 'q' => some ('0', 1, Text.ofNat ((m.month - 1) / 3 + 1))
  | 'U' => zeros 2 ((m.dayOfYear + 7 - m.weekday) / 7)
  | 'W' => zeros 2 ((m.dayOfYear + 7 - (m.weekday + 6) % 7) / 7)
  | 'V' => zeros 2 (weekOf m).2
  | 'G' => some ('0', 0, Text.ofInt (weekOf m).1)
  | 'g' => zeros 2 ((weekOf m).1.toNat % 100)
  | 'a' => plain (short weekday)
  | 'A' => plain weekday
  | 'b' => plain (short month)
  | 'h' => plain (short month)
  | 'B' => plain month
  | 'p' => plain half
  | 'P' => plain (if m.hour < 12 then "am" else "pm")
  | 'Z' => plain "UTC"
  | 'z' => plain "+0000"
  | 'D' => plain (two m.month ++ "/" ++ two m.number ++ "/" ++ two (year % 100))
  | 'x' => plain (two m.month ++ "/" ++ two m.number ++ "/" ++ two (year % 100))
  | 'F' => plain (toString year ++ "-" ++ two m.month ++ "-" ++ two m.number)
  | 'T' => plain clock
  | 'X' => plain clock
  | 'R' => plain (two m.hour ++ ":" ++ two m.minute)
  | 'r' => plain (two hour12 ++ ":" ++ two m.minute ++ ":" ++ two m.second ++ " " ++ half)
  | 'c' =>
    plain (short weekday ++ " " ++ short month ++ " " ++
      String.ofList (padded ' ' 2 (Text.ofNat m.number)) ++ " " ++ clock ++ " " ++ toString year)
  | _ => none

def format (nanoseconds : Nat) (m : Moment) : Nat → Text → Text
  | 0, _ => []
  | _, [] => []
  | fuel + 1, '%' :: rest =>
    let flags := rest.takeWhile fun c => "-_0^#+".toList.contains c
    let after := rest.drop flags.length
    let digits := after.takeWhile Char.isDigit
    let after := after.drop digits.length
    match after with
    | [] => '%' :: rest
    | ':' :: 'z' :: after => "+00:00".toList ++ format nanoseconds m fuel after
    | c :: after =>
      match field? nanoseconds m c with
      | none => '%' :: flags ++ digits ++ c :: format nanoseconds m fuel after
      | some (fill, width, text) =>
        let fill := if flags.contains '_' then ' ' else if flags.contains '0' then '0' else fill
        let width := match Text.decimal? digits with
          | some n => n
          | none => if flags.contains '-' then 0 else width
        let text := if c == 'N' && !digits.isEmpty then
            (padded '0' 9 text).take width
          else if flags.contains '-' then
            match text.dropWhile (fun c => c == '0' && (fill == '0')) with
            | [] => text.take 1
            | t => t
          else text
        let text :=
          if flags.contains '^' then text.map Char.toUpper
          else if flags.contains '#' then
            text.map (if c == 'Z' || c == 'p' then Char.toLower else Char.toUpper)
          else text
        padded fill width text ++ format nanoseconds m fuel after
  | fuel + 1, c :: rest => c :: format nanoseconds m fuel rest

def shown (nanoseconds : Nat) (t : Text) : Text :=
  format nanoseconds (momentAt (nanoseconds / second : Nat)) (t.length + 1) t

/-! ### The tool -/

def date : Work Nat := do
  let a ← Work.arguments
    { letters := "d:f:I::Rr:s:u"
      names := [⟨"date", "d", .something⟩, ⟨"iso-8601", "I", .maybe⟩, ⟨"rfc-email", "R", .nothing⟩,
        ⟨"rfc-2822", "R", .nothing⟩, ⟨"rfc-822", "R", .nothing⟩, ⟨"rfc-3339", "rfc", .something⟩,
        ⟨"reference", "r", .something⟩, ⟨"set", "s", .something⟩, ⟨"utc", "u", .nothing⟩,
        ⟨"universal", "u", .nothing⟩, ⟨"uct", "u", .nothing⟩, ⟨"file", "f", .something⟩,
        ⟨"debug", "debug", .nothing⟩, ⟨"help", "help", .nothing⟩,
        ⟨"version", "version", .nothing⟩] }
  let f ← Work.files
  let clock : Text := "%H:%M:%S".toList
  let precise (precision : Text) (middle zone : String) : Text :=
    if precision = "hours".toList then ("%F" ++ middle ++ "%H" ++ zone).toList
    else if precision = "minutes".toList then ("%F" ++ middle ++ "%H:%M" ++ zone).toList
    else if precision = "seconds".toList then ("%F" ++ middle ++ "%T" ++ zone).toList
    else if precision = "ns".toList then ("%F" ++ middle ++ "%T,%N" ++ zone).toList
    else "%F".toList
  let usual : Text :=
    match a.get? "I", a.get? "rfc", a.has "R" with
    | some precision, _, _ => precise precision "T" "%:z"
    | none, some precision, _ => precise precision " " "%:z"
    | none, none, true => "%a, %d %b %Y ".toList ++ clock ++ " %z".toList
    | none, none, false => "%a %b %e ".toList ++ clock ++ " %Z %Y".toList
  let time ← timeOf f a
  match a.operands with
  | [] => do
    Work.say (shown time usual ++ ['\n'])
    return 0
  | [('+' :: wanted)] => do
    Work.say (shown time wanted ++ ['\n'])
    return 0
  | [operand] =>
    Work.fail 1 ("invalid date ".toList ++ quoted operand)
  | _ :: extra :: _ => Work.misuse 1 ("extra operand ".toList ++ quoted extra)
where
  timeOf (f : Files) (a : Arguments) : Work Nat :=
    match a.get? "d", a.get? "r" with
    | some t, _ =>
      match date? f.now t with
      | some time => pure time
      | none => Work.fail 1 ("invalid date ".toList ++ quoted t)
    | none, some path =>
      match f.node (pathOf path) with
      | .ok node => pure node.changed
      | .error cause => Work.fail 1 (nameOf path ++ ": ".toList ++ reason cause)
    | none, none => pure f.now

end Calendar

end Tool

end Proctor
