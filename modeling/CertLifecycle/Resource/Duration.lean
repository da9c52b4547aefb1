/-!
Spans of time: whole seconds in 64 bits, and the nanoseconds of the last second.
-/

namespace CertLifecycle

structure Duration where
  secs : UInt64
  nanos : Nat
  nanos_lt : nanos < 1000000000
  deriving DecidableEq

namespace Duration

/-- The span of these seconds and nanoseconds. Whole seconds among the nanoseconds are carried over;
the seconds must still fit. -/
def ofParts? (secs nanos : Nat) : Option Duration :=
  let total := secs + nanos / 1000000000
  if total < UInt64.size then
    some ⟨UInt64.ofNat total, nanos % 1000000000, Nat.mod_lt _ (by decide)⟩
  else none

end Duration

end CertLifecycle
