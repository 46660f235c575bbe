import Tombstone.Proofs.Packing

/-!
# Reading back what was written

A header is read back from its bytes whatever follows them, and a packet whose header counts its ids
is read back from its bytes. So a receiver finds in the packets of a window exactly the ids of the
window.
-/

namespace Tombstone

/-- A number written behind `start` bytes is read back from there. -/
theorem readLittleEndian_field {bytes front : Bytes} {start width number : Nat}
    (written : front ++ Bytes.littleEndian width number <+: bytes)
    (front_length : front.length = start)
    (fits : number < numeralBound 256 width) :
    Bytes.readLittleEndian ((bytes.drop start).take width) = number := by
  rcases written with ⟨rest, rfl⟩
  have found : (Bytes.littleEndian width number ++ rest).take width =
      Bytes.littleEndian width number :=
    List.take_left' (Bytes.length_littleEndian width number)
  rw [← front_length, List.append_assoc, List.drop_left, found]
  exact Bytes.readLittleEndian_littleEndian fits

theorem Header.ofBytes_toBytes_append (header : Header) (payload : Bytes) :
    Header.ofBytes (header.toBytes ++ payload) = .ok header := by
  have long : ¬(header.toBytes ++ payload).length < Header.width := by
    rw [List.length_append, Header.length_toBytes]
    omega
  -- Each field stands at the end of a front of the header.
  have count_front : header.toBytes <+: header.toBytes ++ payload := List.prefix_append ..
  have sentAt_front := (List.prefix_append ..).trans count_front
  have sequence_front := (List.prefix_append ..).trans sentAt_front
  have flags_front : [] ++ Bytes.littleEndian 1 header.flags.toNat <+: header.toBytes ++ payload :=
    (List.prefix_append ..).trans sequence_front
  generalize header.toBytes ++ payload = bytes at *
  have flags : Bytes.readLittleEndian ((bytes.drop 0).take 1) = header.flags.toNat :=
    readLittleEndian_field flags_front rfl header.flags.toNat_lt
  have sequence : Bytes.readLittleEndian ((bytes.drop 1).take 2) = header.sequence.toNat :=
    readLittleEndian_field sequence_front (by simp) header.sequence.toNat_lt
  have sentAt : Bytes.readLittleEndian ((bytes.drop 3).take 8) = header.sentAt.toNat :=
    readLittleEndian_field sentAt_front (by simp) header.sentAt.toNat_lt
  have count : Bytes.readLittleEndian ((bytes.drop 11).take 2) = header.count.toNat :=
    readLittleEndian_field count_front (by simp) header.count.toNat_lt
  rw [Header.ofBytes, if_neg long]
  simp only [flags, sequence, sentAt, count, Timestamp.toNat, UInt8.ofNat_toNat, UInt16.ofNat_toNat,
    UInt64.ofNat_toNat]

theorem chunksOf_flatMap_toBytes (ids : List EntityId) :
    chunksOf EntityId.width (ids.flatMap EntityId.toBytes) = ids.map EntityId.toBytes := by
  have positive : 0 < EntityId.width := by decide
  induction ids with
  | nil => simp
  | cons id rest ih =>
      have nonempty : (id :: rest).flatMap EntityId.toBytes ≠ [] := by
        intro empty
        have lengths := congrArg List.length empty
        simp [EntityId.width] at lengths
      rw [chunksOf_eq_cons positive nonempty, List.flatMap_cons, List.take_left' id.length_toBytes,
        List.drop_left' id.length_toBytes, ih, List.map_cons]

theorem Packet.ofBytes_toBytes {packet : Packet}
    (counted : packet.header.count.toNat = packet.ids.length) :
    Packet.ofBytes packet.toBytes = .ok packet := by
  have payload : packet.toBytes.drop Header.width = packet.ids.flatMap EntityId.toBytes := by
    rw [Packet.toBytes, ← Header.length_toBytes packet.header, List.drop_left]
  have payload_length :
      (packet.toBytes.drop Header.width).length = EntityId.width * packet.header.count.toNat := by
    rw [List.length_drop, Packet.length_toBytes, Packet.size, counted, Nat.add_sub_cancel_left]
  have ids : (packet.ids.map EntityId.toBytes).map EntityId.ofBytes = packet.ids := by
    simp [Function.comp_def]
  rw [Packet.ofBytes, Packet.toBytes, Header.ofBytes_toBytes_append]
  rw [Packet.toBytes] at payload payload_length
  simp only [bind, Except.bind, if_pos payload_length]
  rw [payload, chunksOf_flatMap_toBytes, ids]
  rfl

end Tombstone
