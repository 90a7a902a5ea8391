import ServiceMesh.Number.Binary64

/-! Spans of time in whole nanoseconds, below 2^64 seconds. -/
namespace ServiceMesh

structure Duration where
  nanos : Nat
  inRange : nanos < 18_446_744_073_709_551_616 * 1_000_000_000
deriving DecidableEq

namespace Duration

def ofNanos? (nanos : Nat) : Option Duration :=
  if inRange : nanos < 18_446_744_073_709_551_616 * 1_000_000_000 then some ⟨nanos, inRange⟩ else none

def zero : Duration := ⟨0, by decide⟩

instance : Inhabited Duration := ⟨zero⟩

def ofMillis (millis : UInt64) : Duration :=
  ⟨millis.toNat * 1_000_000, by have := millis.toNat_lt; omega⟩

/-- The sum, if it is in range. -/
def add? (a b : Duration) : Option Duration := ofNanos? (a.nanos + b.nanos)

/-- The duration nearest to a number of seconds, if it is in range. -/
def ofSeconds? (seconds : Rat) : Option Duration :=
  ofNanos? (Number.roundHalfEven (seconds * 1_000_000_000)).toNat

/-- Whole milliseconds, capped at the largest 64-bit number. -/
def toMillis (d : Duration) : UInt64 := UInt64.ofNat (min (d.nanos / 1_000_000) (UInt64.size - 1))

end Duration

end ServiceMesh
