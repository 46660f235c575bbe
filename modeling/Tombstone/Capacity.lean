import Tombstone.Packet

/-!
# Packing ids into packets

A capacity is the largest number of bytes a packet may have. It must hold a header with one id, and
no more ids than the header's 16-bit count can describe. Packing fills every packet but the last,
and makes one packet without ids when there is nothing to tell.
-/

namespace Tombstone

/-- Why a number of bytes is no packet capacity. -/
inductive CapacityError where
  /-- Not even a header and one id fit. -/
  | tooSmall (bytes : Nat)
  /-- More ids would fit than can be counted. -/
  | tooLarge (bytes : Nat)
  deriving DecidableEq, Repr

def CapacityError.message : CapacityError → String
  | tooSmall bytes =>
      "Packet capacity of " ++ toString bytes ++
        " bytes cannot hold a header and one entity id (29 bytes)"
  | tooLarge bytes =>
      "Packet capacity of " ++ toString bytes ++
        " bytes exceeds the 1048573 bytes a 16-bit count can describe"

/-- The largest number of bytes that a packet may have. -/
structure Capacity where
  bytes : Nat
  /-- A header and one id fit. -/
  holds_one : Header.width + EntityId.width ≤ bytes
  /-- The ids that fit can be counted. -/
  countable : bytes ≤ Header.width + EntityId.width * 65535
  deriving DecidableEq, Repr

namespace Capacity

def ofBytes (bytes : Nat) : Except CapacityError Capacity :=
  if holds_one : Header.width + EntityId.width ≤ bytes then
    if countable : bytes ≤ Header.width + EntityId.width * 65535 then
      .ok { bytes, holds_one, countable }
    else
      .error (.tooLarge bytes)
  else
    .error (.tooSmall bytes)

theorem bytes_of_ofBytes {bytes : Nat} {capacity : Capacity} (made : ofBytes bytes = .ok capacity) :
    capacity.bytes = bytes := by
  unfold ofBytes at made
  split at made
  · split at made
    · cases made
      rfl
    · cases made
  · cases made

/-- The largest number of ids that a packet can carry. -/
def idLimit (capacity : Capacity) : Nat := (capacity.bytes - Header.width) / EntityId.width

theorem idLimit_pos (capacity : Capacity) : 0 < capacity.idLimit := by
  have holds := capacity.holds_one
  have room : EntityId.width ≤ capacity.bytes - Header.width := by omega
  exact Nat.div_pos room (by decide)

theorem idLimit_le (capacity : Capacity) : capacity.idLimit ≤ 65535 := by
  have bound := capacity.countable
  simp only [idLimit, Header.width, EntityId.width] at *
  omega

/-- The number of packets that tell about `count` deletions. -/
def packetCount (capacity : Capacity) (count : Nat) : Nat :=
  max 1 ((count + capacity.idLimit - 1) / capacity.idLimit)

/-- The ids of each packet: full ones first, and a single empty one when there is no id. -/
def split (capacity : Capacity) (ids : List EntityId) : List (List EntityId) :=
  match chunksOf capacity.idLimit ids with
  | [] => [[]]
  | chunks => chunks

/-- The packets that tell about the deletion of `ids`; packet `index` has the number `number index`.
-/
def pack (capacity : Capacity) (flags : UInt8) (sentAt : Timestamp) (number : Nat → UInt16)
    (ids : List EntityId) : List Packet :=
  (capacity.split ids).mapIdx fun index chunk =>
    { header := { flags, sequence := number index, sentAt, count := UInt16.ofNat chunk.length }
      ids := chunk }

end Capacity

/-- Sequence numbers counted up from `start`, back to zero after the last 16-bit number. -/
def numbersFrom (start : UInt16) (index : Nat) : UInt16 := start + UInt16.ofNat index

end Tombstone
