import Tombstone.Timestamp

/-!
# Clocks

A clock is read through an underlying source, of which only the readings still to come are known:
the source may stand still, jump or run backwards. A direct clock shows what the source shows. A
monotonic clock never shows less than it has observed before. A running clock adds the time that was
slept through since the start to what the source shows.
-/

namespace Tombstone

/-- How a clock uses its source. -/
inductive ClockMode where
  /-- The source is shown as it is. -/
  | direct
  /-- The latest time observed so far is shown. -/
  | monotonic
  /-- The time slept through is added. -/
  | running
  deriving DecidableEq, Repr, Inhabited

/-- A clock with the readings that its source has in store. -/
structure Clock where
  /-- How the source is used. -/
  mode : ClockMode
  /-- What the source shows at each reading. -/
  source : Nat → Timestamp
  /-- The number of readings taken. -/
  readings : Nat := 0
  /-- The latest time observed by a monotonic clock. -/
  highest : Timestamp := Timestamp.zero
  /-- The milliseconds slept through since the start. -/
  slept : Nat := 0

/-- What a reading gave. -/
structure Reading where
  time : Timestamp
  /-- The time that the source gave. -/
  observed : Timestamp
  deriving DecidableEq, Repr

namespace Clock

/-- A clock over a hand that stays where it is put. -/
def manual (mode : ClockMode) (time : Timestamp) : Clock := { mode, source := fun _ => time }

/-- What the source shows at the next reading. -/
def hand (clock : Clock) : Timestamp := clock.source clock.readings

/-- Puts the hand of the source to a time, where it stays. -/
def set (clock : Clock) (time : Timestamp) : Clock := { clock with source := fun _ => time }

/-- The time that the source gives at the next reading. -/
def observed (clock : Clock) : Timestamp :=
  match clock.mode with
  | .direct | .monotonic => clock.hand
  | .running => clock.hand.advance (clock.slept * 1000)

def read (clock : Clock) : Reading × Clock :=
  let observed := clock.observed
  match clock.mode with
  | .direct | .running =>
      ({ time := observed, observed }, { clock with readings := clock.readings + 1 })
  | .monotonic =>
      let time := max clock.highest observed
      ({ time, observed }, { clock with readings := clock.readings + 1, highest := time })

end Clock

end Tombstone
