import Proctor.Shell.Text

/-!
# Names in messages

Tools put the names they complain about between quotes, so that blanks and characters that cannot be
seen are told apart from the message. Some quote every name, others only those that need it.
-/

set_option autoImplicit false

namespace Proctor

namespace Tool

open Shell

namespace Quoting

def escapeLetter? : Char → Option Char
  | '\x07' => some 'a'
  | '\x08' => some 'b'
  | '\x0c' => some 'f'
  | '\n' => some 'n'
  | '\r' => some 'r'
  | '\t' => some 't'
  | '\x0b' => some 'v'
  | _ => none

def octalDigit (n : Nat) : Char := Char.ofNat ('0'.toNat + n % 8)

def escape (c : Char) : Text :=
  match escapeLetter? c with
  | some letter => ['\\', letter]
  | none => ['\\', octalDigit (c.toNat / 64), octalDigit (c.toNat / 8), octalDigit c.toNat]

def isShown (c : Char) : Bool := 32 ≤ c.toNat && c.toNat < 127

end Quoting

open Quoting

def quoted (t : Text) : Text :=
  '\'' :: t.flatMap (fun c =>
    if c == '\'' || c == '\\' then ['\\', c] else if isShown c then [c] else escape c) ++ ['\'']

namespace Quoting

def isHarmless (c : Char) : Bool := c.isAlphanum || "%+,-./:]_\x7b\x7d '".toList.contains c

/-- Parts of a name that can be shown, and those that cannot, from just after an opening quote. -/
def shellParts : Text → Text
  | [] => ['\'']
  | c :: rest =>
    if isShown c then (if c == '\'' then "'\\''".toList else [c]) ++ shellParts rest
    else "'$'".toList ++ escape c ++ hiddenParts rest
where
  /-- Within a part that cannot be shown. -/
  hiddenParts : Text → Text
    | [] => ['\'']
    | c :: rest =>
      if isShown c then
        "''".toList ++ (if c == '\'' then "'\\''".toList else [c]) ++ shellParts rest
      else escape c ++ hiddenParts rest

def needsQuotes (t : Text) : Bool :=
  t.isEmpty || t.any (fun c => !isShown c || " !\"$&()*;<=>[\\^|?'\x60".toList.contains c) ||
    t.head? == some '#' || t.head? == some '~' || t = ['\x7b'] || t = ['\x7d']

end Quoting

def shellQuoted (t : Text) : Text :=
  if t.contains '\'' && t.all isHarmless then '"' :: t ++ ['"'] else '\'' :: shellParts t

def nameOf (t : Text) : Text := if needsQuotes t then shellQuoted t else t

end Tool

end Proctor
