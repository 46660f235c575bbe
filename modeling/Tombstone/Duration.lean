/-!
# Durations

A duration is a natural number of nanoseconds, so that no two units in use need rounding to be
compared.
-/

namespace Tombstone

/-- A length of time. -/
structure Duration where
  /-- The number of nanoseconds. -/
  nanos : Nat
  deriving DecidableEq, Repr, Inhabited

namespace Duration

/-- A number of microseconds. -/
def ofMicros (micros : Nat) : Duration := ⟨micros * 1000⟩

/-- A number of milliseconds. -/
def ofMillis (millis : Nat) : Duration := ⟨millis * 1000000⟩

/-- A number of seconds and further nanoseconds. -/
def ofSecs (secs nanos : Nat) : Duration := ⟨secs * 1000000000 + nanos⟩

/-- The whole microseconds. -/
def micros (duration : Duration) : Nat := duration.nanos / 1000

/-- The whole milliseconds. -/
def millis (duration : Duration) : Nat := duration.nanos / 1000000

/-- The whole seconds. -/
def secs (duration : Duration) : Nat := duration.nanos / 1000000000

/-- The nanoseconds beyond the whole seconds. -/
def subsecNanos (duration : Duration) : Nat := duration.nanos % 1000000000

instance : LT Duration := ⟨fun left right => left.nanos < right.nanos⟩

instance (left right : Duration) : Decidable (left < right) :=
  inferInstanceAs (Decidable (left.nanos < right.nanos))

end Duration

end Tombstone
