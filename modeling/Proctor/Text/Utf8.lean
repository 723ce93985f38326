/-!
# Bytes and text

Files, paths and the output of programs are byte strings; what is compared, quoted and printed is
text. The decoder here never fails: it reads one byte at a time, keeps the character begun so far,
and writes one replacement character for each longest prefix of a character that the next byte (or
the end) refuses. Strict decoding succeeds when nothing is refused.
-/

set_option autoImplicit false

namespace Proctor

abbrev Bytes := List UInt8

namespace Utf8

def encode (s : List Char) : Bytes :=
  s.flatMap String.utf8EncodeChar

def replacement : Char := Char.ofNat 0xFFFD

/-- A character begun but not ended: how many bytes it still wants, the bounds on the next one, and
the bits read so far. -/
structure Begun where
  need : Nat
  low : Nat
  high : Nat
  value : Nat
  deriving DecidableEq, Repr

inductive Reading where
  | whole (c : Char)
  | more (begun : Begun)
  | refused
  deriving DecidableEq, Repr

/-- The first byte of a character. The bounds on the second byte shut out overlong forms,
surrogates and values past the last code point. -/
def lead (b : UInt8) : Reading :=
  let n := b.toNat
  if n < 0x80 then .whole (Char.ofNat n)
  else if n < 0xC2 then .refused
  else if n < 0xE0 then .more ⟨1, 0x80, 0xBF, n - 0xC0⟩
  else if n = 0xE0 then .more ⟨2, 0xA0, 0xBF, 0⟩
  else if n = 0xED then .more ⟨2, 0x80, 0x9F, 0xD⟩
  else if n < 0xF0 then .more ⟨2, 0x80, 0xBF, n - 0xE0⟩
  else if n = 0xF0 then .more ⟨3, 0x90, 0xBF, 0⟩
  else if n < 0xF4 then .more ⟨3, 0x80, 0xBF, n - 0xF0⟩
  else if n = 0xF4 then .more ⟨3, 0x80, 0x8F, 4⟩
  else .refused

def Begun.next (p : Begun) (b : UInt8) : Reading :=
  if p.low ≤ b.toNat ∧ b.toNat ≤ p.high then
    let value := p.value * 64 + (b.toNat - 0x80)
    if p.need ≤ 1 then .whole (Char.ofNat value) else .more ⟨p.need - 1, 0x80, 0xBF, value⟩
  else .refused

/-- The decoder between two bytes: the character begun, and the text so far, last character
first. -/
structure Decoder where
  begun : Option Begun := none
  output : List Char := []
  deriving DecidableEq, Repr

def start (output : List Char) (b : UInt8) : Decoder :=
  match lead b with
  | .whole c => { output := c :: output }
  | .more p => { begun := some p, output }
  | .refused => { output := replacement :: output }

def Decoder.step (d : Decoder) (b : UInt8) : Decoder :=
  match d.begun with
  | none => start d.output b
  | some p =>
    match p.next b with
    | .whole c => { output := c :: d.output }
    | .more q => { begun := some q, output := d.output }
    | .refused => start (replacement :: d.output) b

def Decoder.finish (d : Decoder) : List Char :=
  match d.begun with
  | none => d.output.reverse
  | some _ => (replacement :: d.output).reverse

def decodeLossy (bytes : Bytes) : List Char :=
  (bytes.foldl Decoder.step {}).finish

def decode? (bytes : Bytes) : Option (List Char) :=
  let text := decodeLossy bytes
  if encode text = bytes then some text else none

end Utf8

def Bytes.ofString (s : String) : Bytes :=
  Utf8.encode s.toList

def Bytes.lossy (bytes : Bytes) : String :=
  String.ofList (Utf8.decodeLossy bytes)

def Bytes.text? (bytes : Bytes) : Option String :=
  (Utf8.decode? bytes).map String.ofList

end Proctor
