import Proctor.Decimal.Shortest

/-!
# Durations

A duration is whole seconds and nanoseconds. For people it is written as seconds, held to a binary
fraction: a limit in the fewest digits, the length of a run with two places.
-/

set_option autoImplicit false

namespace Proctor

structure Duration where
  seconds : Nat
  nanoseconds : Nat := 0
  deriving DecidableEq, Repr, Inhabited

namespace Duration

def nanosecondsPerSecond : Nat := 1000000000

def ofSeconds (n : Nat) : Duration := ⟨n, 0⟩

def ofNanoseconds (n : Nat) : Duration :=
  ⟨n / nanosecondsPerSecond, n % nanosecondsPerSecond⟩

def ofMilliseconds (n : Nat) : Duration := ofNanoseconds (n * 1000000)

def toNanoseconds (d : Duration) : Nat :=
  d.seconds * nanosecondsPerSecond + d.nanoseconds

/-- The duration in seconds: the whole seconds and the rest are each rounded, then their sum. -/
def inSeconds (d : Duration) : Binary :=
  let sum := do
    let whole ← Binary.ofRatio d.seconds 1
    let rest ← Binary.ofRatio d.nanoseconds nanosecondsPerSecond
    whole.add rest
  sum.getD ⟨0, 0⟩

def render (d : Duration) : String := d.inSeconds.shortest.render

def renderFixed (d : Duration) : String := d.inSeconds.fixed 2

end Duration

end Proctor
