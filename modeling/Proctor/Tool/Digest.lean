import Proctor.Decimal.Power

/-!
# Digests of bytes

A text of any length is boiled down to a number of fixed length. The text is filled up to whole
blocks, the last of which ends with the length, and the blocks are stirred one after the other into
a few words. The constants that are stirred in are digits of roots of primes and of sines.
-/

set_option autoImplicit false

namespace Proctor

namespace Tool

namespace Digest

def number (bytes : List Nat) : Nat := bytes.foldl (fun n b => n * 256 + b) 0

def bytesOf (n : Nat) : Nat → List Nat
  | 0 => []
  | count + 1 => n / twoTo (8 * count) % 256 :: bytesOf n count

def parts (length : Nat) : Nat → List Nat → List (List Nat)
  | 0, _ => []
  | _, [] => []
  | fuel + 1, bytes => bytes.take length :: parts length fuel (bytes.drop length)

structure Layout where
  /-- The bytes of a word; a block has sixteen words. -/
  word : Nat := 4
  lowestFirst : Bool := false

namespace Layout

variable (l : Layout)

def bits : Nat := 8 * l.word

def cut (n : Nat) : Nat := n % twoTo l.bits

def rotateLeft (count n : Nat) : Nat :=
  l.cut (n * twoTo count) + n / twoTo (l.bits - count)

def rotateRight (count n : Nat) : Nat := l.rotateLeft (l.bits - count) n

def flip (n : Nat) : Nat := twoTo l.bits - 1 - n

def turned (bytes : List Nat) : List Nat := if l.lowestFirst then bytes.reverse else bytes

/-- Whole blocks: the bytes, a bit that is set, room, and the number of bits. -/
def filled (bytes : List Nat) : List Nat :=
  let block := 16 * l.word
  let last := 2 * l.word
  let room := (block - (bytes.length + 1 + last) % block) % block
  bytes ++ 128 :: List.replicate room 0 ++ l.turned (bytesOf (8 * bytes.length) last)

def blocks (bytes : List Nat) : List (Array Nat) :=
  let all := l.filled bytes
  (parts (16 * l.word) all.length all).map fun block =>
    ((parts l.word 16 block).map fun w => number (l.turned w)).toArray

def digest (start : List Nat) (stir : Array Nat → List Nat → List Nat) (bytes : List Nat) :
    List Nat :=
  let final := (l.blocks bytes).foldl
    (fun words block => List.zipWith (fun a b => l.cut (a + b)) words (stir block words)) start
  final.flatMap fun w => l.turned (bytesOf w l.word)

end Layout

/-! ### Constants -/

def isPrime (n : Nat) : Bool := 2 ≤ n && (List.range n).all fun d => d < 2 || n % d ≠ 0

def primes : List Nat := (List.range 410).filter isPrime

def root (power : Nat) (n : Nat) : Nat → Nat → Nat
  | 0, found => found
  | bit + 1, found =>
    let next := found + twoTo bit
    root power n bit (if Nat.pow next power ≤ n then next else found)

def rootBits (power bits n : Nat) : Nat :=
  root power (n * twoTo (power * bits)) (bits + 12) 0 % twoTo bits

/-! ### The kinds -/

structure Turns where
  big0 : Nat × Nat × Nat
  big1 : Nat × Nat × Nat
  small0 : Nat × Nat × Nat
  small1 : Nat × Nat × Nat

def turns32 : Turns := ⟨(2, 13, 22), (6, 11, 25), (7, 18, 3), (17, 19, 10)⟩

def turns64 : Turns := ⟨(28, 34, 39), (14, 18, 41), (1, 8, 7), (19, 61, 6)⟩

def constants32 : List Nat := (primes.take 64).map (rootBits 3 32)

def constants64 : List Nat := (primes.take 80).map (rootBits 3 64)

def extended (next : Array Nat → Nat → Nat) (count : Nat) (block : Array Nat) : Array Nat :=
  (List.range count).foldl (fun w i => w.push (next w (i + 16))) block

def wordAt (w : Array Nat) (i : Nat) : Nat := w[i]?.getD 0

def stirEight (l : Layout) (t : Turns) (constants : List Nat) (block : Array Nat)
    (words : List Nat) : List Nat :=
  let big (t : Nat × Nat × Nat) (n : Nat) : Nat :=
    l.rotateRight t.1 n ^^^ l.rotateRight t.2.1 n ^^^ l.rotateRight t.2.2 n
  let small (t : Nat × Nat × Nat) (n : Nat) : Nat :=
    l.rotateRight t.1 n ^^^ l.rotateRight t.2.1 n ^^^ n / twoTo t.2.2
  let next (w : Array Nat) (i : Nat) : Nat :=
    l.cut (small t.small1 (wordAt w (i - 2)) + wordAt w (i - 7) +
      small t.small0 (wordAt w (i - 15)) + wordAt w (i - 16))
  let schedule := extended next (constants.length - 16) block
  (constants.zip schedule.toList).foldl
    (fun words (k, w) =>
      match words with
      | [a, b, c, d, e, f, g, h] =>
        let first := h + big t.big1 e + ((e &&& f) ^^^ (l.flip e &&& g)) + k + w
        let second := big t.big0 a + ((a &&& b) ^^^ (a &&& c) ^^^ (b &&& c))
        [l.cut (first + second), a, b, c, l.cut (d + first), e, f, g]
      | words => words)
    words

def stirFive (block : Array Nat) (words : List Nat) : List Nat :=
  let l : Layout := {}
  let next (w : Array Nat) (i : Nat) : Nat :=
    l.rotateLeft 1
      (wordAt w (i - 3) ^^^ wordAt w (i - 8) ^^^ wordAt w (i - 14) ^^^ wordAt w (i - 16))
  let schedule := extended next 64 block
  (List.range 80).foldl
    (fun words i =>
      match words with
      | [a, b, c, d, e] =>
        let (f, k) :=
          if i < 20 then ((b &&& c) ||| (l.flip b &&& d), 0x5a827999)
          else if i < 40 then (b ^^^ c ^^^ d, 0x6ed9eba1)
          else if i < 60 then ((b &&& c) ||| (b &&& d) ||| (c &&& d), 0x8f1bbcdc)
          else (b ^^^ c ^^^ d, 0xca62c1d6)
        [l.cut (l.rotateLeft 5 a + f + e + k + wordAt schedule i), a, l.rotateLeft 30 b, c, d]
      | words => words)
    words

def sineBits (n : Nat) : Nat :=
  ((Float.sin (Float.ofNat n)).abs * 4294967296.0).floor.toUInt64.toNat

def sines : Array Nat := ((List.range 64).map fun i => sineBits (i + 1)).toArray

def stirFour (block : Array Nat) (words : List Nat) : List Nat :=
  let l : Layout := { lowestFirst := true }
  let counts : List (List Nat) :=
    [[7, 12, 17, 22], [5, 9, 14, 20], [4, 11, 16, 23], [6, 10, 15, 21]]
  (List.range 64).foldl
    (fun words i =>
      match words with
      | [a, b, c, d] =>
        let (f, place) :=
          if i < 16 then ((b &&& c) ||| (l.flip b &&& d), i)
          else if i < 32 then ((d &&& b) ||| (l.flip d &&& c), 5 * i + 1)
          else if i < 48 then (b ^^^ c ^^^ d, 3 * i + 5)
          else (c ^^^ (b ||| l.flip d), 7 * i)
        let count := ((counts[i / 16]?.getD [])[i % 4]?).getD 0
        let sum := l.cut (a + f + wordAt sines i + wordAt block (place % 16))
        [d, l.cut (b + l.rotateLeft count sum), b, c]
      | words => words)
    words

inductive Kind where
  | md5
  | sha1
  | sha224
  | sha256
  | sha384
  | sha512
  deriving DecidableEq, Repr, Inhabited

def Kind.tag : Kind → String
  | .md5 => "MD5"
  | .sha1 => "SHA1"
  | .sha224 => "SHA224"
  | .sha256 => "SHA256"
  | .sha384 => "SHA384"
  | .sha512 => "SHA512"

def Kind.length : Kind → Nat
  | .md5 => 16
  | .sha1 => 20
  | .sha224 => 28
  | .sha256 => 32
  | .sha384 => 48
  | .sha512 => 64

def startFive : List Nat := [0x67452301, 0xefcdab89, 0x98badcfe, 0x10325476, 0xc3d2e1f0]

def Kind.digest (k : Kind) (bytes : List Nat) : List Nat :=
  let first := primes.take 8
  let second := (primes.drop 8).take 8
  let narrow (start : List Nat) : List Nat :=
    let l : Layout := {}
    l.digest start (stirEight l turns32 constants32) bytes
  let wide (start : List Nat) : List Nat :=
    let l : Layout := { word := 8 }
    l.digest start (stirEight l turns64 constants64) bytes
  let all := match k with
    | .md5 => ({ lowestFirst := true } : Layout).digest (startFive.take 4) stirFour bytes
    | .sha1 => ({} : Layout).digest startFive stirFive bytes
    | .sha224 => narrow (second.map fun p => rootBits 2 64 p % twoTo 32)
    | .sha256 => narrow (first.map (rootBits 2 32))
    | .sha384 => wide (second.map (rootBits 2 64))
    | .sha512 => wide (first.map (rootBits 2 64))
  all.take k.length

/-! ### Check sums -/

def remainderStep (r byte : Nat) : Nat :=
  (List.range 8).foldl
    (fun r _ =>
      let doubled := r * 2
      if twoTo 32 ≤ doubled then (doubled - twoTo 32) ^^^ 0x04c11db7 else doubled)
    (r ^^^ byte * twoTo 24)

def lengthBytes : Nat → Nat → List Nat
  | 0, _ => []
  | _, 0 => []
  | fuel + 1, n => n % 256 :: lengthBytes fuel (n / 256)

def cyclic (bytes : List Nat) : Nat :=
  twoTo 32 - 1 - (bytes ++ lengthBytes 16 bytes.length).foldl remainderStep 0

def turning (bytes : List Nat) : Nat :=
  bytes.foldl (fun s b => (s / 2 + s % 2 * 32768 + b) % 65536) 0

/-- The sum of the bytes, with what is carried out of sixteen bits added twice. -/
def folded (bytes : List Nat) : Nat :=
  let sum := bytes.foldl (· + ·) 0 % twoTo 32
  let sum := sum % 65536 + sum / 65536
  sum % 65536 + sum / 65536

end Digest

end Tool

end Proctor
