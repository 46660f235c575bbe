import Tombstone.EntityId
import Tombstone.Timestamp

/-!
# Deletion packets

A packet tells a session which entities were deleted. It is a header of 13 bytes (flags, sequence
number, time of sending and number of ids, each least significant byte first) followed by that many
ids of 16 bytes. Reading accepts exactly the byte strings that writing produces: a header's length
and a payload of the declared size are all that reading checks.
-/

namespace Tombstone

/-- What a packet says about itself. -/
structure Header where
  /-- Bits whose meaning is left to the application. -/
  flags : UInt8
  /-- The packet's place in the sequence of packets built for its session. -/
  sequence : UInt16
  /-- When the window of deletions was read. -/
  sentAt : Timestamp
  count : UInt16
  deriving DecidableEq, Repr, Inhabited

/-- Why a byte string is not a packet. -/
inductive DecodeError where
  /-- The bytes are too few for a header. -/
  | truncated (actual : Nat)
  /-- The payload is not as long as the declared number of ids. -/
  | countMismatch (declared : UInt16) (payload : Nat)
  deriving DecidableEq, Repr

def DecodeError.message : DecodeError → String
  | truncated actual =>
      "Packet truncated: expected at least 13 bytes, got " ++ toString actual
  | countMismatch declared payload =>
      "Declared count " ++ toString declared.toNat ++ " does not match a payload of " ++
        toString payload ++ " bytes"

namespace Header

/-- The number of bytes of a header. -/
def width : Nat := 13

def toBytes (header : Header) : Bytes :=
  Bytes.littleEndian 1 header.flags.toNat ++ Bytes.littleEndian 2 header.sequence.toNat ++
    Bytes.littleEndian 8 header.sentAt.toNat ++ Bytes.littleEndian 2 header.count.toNat

/-- Reads the header at the front of a byte string. -/
def ofBytes (bytes : Bytes) : Except DecodeError Header :=
  if bytes.length < width then
    .error (.truncated bytes.length)
  else
    let field (start length : Nat) : Nat :=
      Bytes.readLittleEndian ((bytes.drop start).take length)
    .ok
      { flags := UInt8.ofNat (field 0 1)
        sequence := UInt16.ofNat (field 1 2)
        sentAt := ⟨UInt64.ofNat (field 3 8)⟩
        count := UInt16.ofNat (field 11 2) }

@[simp]
theorem length_toBytes (header : Header) : header.toBytes.length = width := by
  simp [toBytes, width]

end Header

/-- A header with the ids that follow it. -/
structure Packet where
  header : Header
  ids : List EntityId
  deriving DecidableEq, Repr, Inhabited

namespace Packet

def toBytes (packet : Packet) : Bytes :=
  packet.header.toBytes ++ packet.ids.flatMap EntityId.toBytes

/-- Reads a byte string that is a whole packet. -/
def ofBytes (bytes : Bytes) : Except DecodeError Packet := do
  let header ← Header.ofBytes bytes
  let payload := bytes.drop Header.width
  if payload.length = EntityId.width * header.count.toNat then
    return { header, ids := (chunksOf EntityId.width payload).map EntityId.ofBytes }
  throw (.countMismatch header.count payload.length)

/-- The number of bytes of the packet. -/
def size (packet : Packet) : Nat := Header.width + EntityId.width * packet.ids.length

@[simp]
theorem length_toBytes (packet : Packet) : packet.toBytes.length = packet.size := by
  have payload : (packet.ids.flatMap EntityId.toBytes).length =
      EntityId.width * packet.ids.length := by
    induction packet.ids with
    | nil => rfl
    | cons id rest ih =>
        simp only [List.flatMap_cons, List.length_append, EntityId.length_toBytes, ih,
          List.length_cons, Nat.mul_succ]
        omega
  simp [toBytes, size, payload]

end Packet

end Tombstone
