/-!
# Timestamps

A timestamp is a 64-bit count of microseconds since the epoch. Durations are natural numbers of
microseconds. A timestamp that is moved stops at the first or at the last instant; only the hand of
a clock goes past the last instant and starts again at the epoch. The lemmas below say so through
`Timestamp.toNat`.
-/

namespace Tombstone

/-- A point in time, in microseconds since the epoch. -/
structure Timestamp where
  /-- Microseconds since the epoch. -/
  micros : UInt64
  deriving DecidableEq, Hashable, Repr, Inhabited

namespace Timestamp

/-- The number of microseconds since the epoch. -/
def toNat (time : Timestamp) : Nat := time.micros.toNat

def zero : Timestamp := ⟨0⟩

def instants : Nat := UInt64.size

/-- The instant `count` microseconds after the epoch, or the last instant if that is later. -/
def ofNat (count : Nat) : Timestamp := ⟨UInt64.ofNat (min count (instants - 1))⟩

instance : LT Timestamp := ⟨fun left right => left.toNat < right.toNat⟩

instance : LE Timestamp := ⟨fun left right => left.toNat ≤ right.toNat⟩

instance (left right : Timestamp) : Decidable (left < right) :=
  inferInstanceAs (Decidable (left.toNat < right.toNat))

instance (left right : Timestamp) : Decidable (left ≤ right) :=
  inferInstanceAs (Decidable (left.toNat ≤ right.toNat))

instance : Max Timestamp := ⟨fun left right => if left ≤ right then right else left⟩

/-- The instant `micros` later, or the last instant. -/
def advance (time : Timestamp) (micros : Nat) : Timestamp := ofNat (time.toNat + micros)

/-- The instant `micros` later, counted on from the epoch past the last instant. -/
def advanceWrapping (time : Timestamp) (micros : Nat) : Timestamp :=
  ⟨time.micros + UInt64.ofNat micros⟩

/-- The instant `micros` earlier, or the epoch. -/
def rewind (time : Timestamp) (micros : Nat) : Timestamp := ofNat (time.toNat - micros)

/-- The time from `earlier` to `time`, nothing if `earlier` is the later one. -/
def since (time earlier : Timestamp) : Nat := time.toNat - earlier.toNat

/-- How a timestamp is shown: the count with its unit. -/
def display (time : Timestamp) : String := toString time.toNat ++ "us"

theorem toNat_lt (time : Timestamp) : time.toNat < instants := time.micros.toNat_lt

theorem toNat_inj {left right : Timestamp} : left.toNat = right.toNat ↔ left = right := by
  constructor
  · intro equal
    cases left
    cases right
    exact congrArg Timestamp.mk (UInt64.toNat_inj.1 equal)
  · intro equal
    rw [equal]

theorem lt_iff {left right : Timestamp} : left < right ↔ left.toNat < right.toNat := Iff.rfl

theorem le_iff {left right : Timestamp} : left ≤ right ↔ left.toNat ≤ right.toNat := Iff.rfl

@[simp]
theorem toNat_zero : zero.toNat = 0 := rfl

@[simp]
theorem toNat_ofNat (count : Nat) : (ofNat count).toNat = min count (instants - 1) := by
  have bound : min count (instants - 1) < UInt64.size := by
    simp only [instants, UInt64.size]
    omega
  simp only [ofNat, toNat]
  rw [UInt64.toNat_ofNat']
  exact Nat.mod_eq_of_lt bound

@[simp]
theorem ofNat_toNat (time : Timestamp) : ofNat time.toNat = time := by
  apply toNat_inj.1
  have bound := time.toNat_lt
  rw [toNat_ofNat]
  omega

@[simp]
theorem toNat_advance (time : Timestamp) (micros : Nat) :
    (time.advance micros).toNat = min (time.toNat + micros) (instants - 1) := by
  simp [advance]

@[simp]
theorem toNat_advanceWrapping (time : Timestamp) (micros : Nat) :
    (time.advanceWrapping micros).toNat = (time.toNat + micros) % instants := by
  simp only [advanceWrapping, toNat, UInt64.toNat_add, UInt64.toNat_ofNat']
  exact Nat.add_mod_mod _ _ _

/-- Up to the last instant it makes no difference where the time after it starts. -/
theorem advanceWrapping_eq_advance {time : Timestamp} {micros : Nat}
    (room : time.toNat + micros < instants) : time.advanceWrapping micros = time.advance micros := by
  apply toNat_inj.1
  rw [toNat_advanceWrapping, toNat_advance, Nat.mod_eq_of_lt room]
  omega

@[simp]
theorem toNat_rewind (time : Timestamp) (micros : Nat) :
    (time.rewind micros).toNat = time.toNat - micros := by
  have bound := time.toNat_lt
  rw [rewind, toNat_ofNat]
  omega

@[simp]
theorem toNat_max (left right : Timestamp) :
    (max left right).toNat = max left.toNat right.toNat := by
  simp only [Max.max]
  split
  · next order => exact (Nat.max_eq_right order).symm
  · next order => exact (Nat.max_eq_left (Nat.le_of_lt (Nat.lt_of_not_le order))).symm

end Timestamp

end Tombstone
