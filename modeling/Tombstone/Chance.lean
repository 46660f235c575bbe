import Tombstone.Binary64

/-!
# Chances

The chance of an event is counted in parts of 2⁶⁴, so that drawing a 64-bit word decides it. A
chance given as a decimal number is first rounded to the binary number nearest to it.
-/

namespace Tombstone

/-- How likely an event is. -/
structure Chance where
  /-- The number of 64-bit words for which the event happens. -/
  words : Nat
  deriving DecidableEq, Repr, Inhabited

namespace Chance

/-- The chance of an event that always happens. -/
def always : Chance := ⟨UInt64.size⟩

/-- The chance of an event that never happens. -/
def never : Chance := ⟨0⟩

/-- Whether the event happens for every word, so that none has to be drawn. -/
def isCertain (chance : Chance) : Bool := UInt64.size ≤ chance.words

/-- The chance that is `digits` divided by ten to the power `places`, and certain if that is one or
more. -/
def ofDecimal (digits places : Nat) : Chance :=
  if digits = 0 then never
  else if Nat.log2 digits + 400 < places then never
  else if Nat.pow 10 places ≤ digits then always
  else ⟨Binary64.scaledFraction digits (Nat.pow 10 places)⟩

end Chance

end Tombstone
