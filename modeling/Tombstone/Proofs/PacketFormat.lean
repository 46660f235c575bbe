import Tombstone.Proofs.PacketRoundTrip

/-!
# What the reader of packets accepts

Thirteen bytes are always a header, and a number of bytes that is a multiple of sixteen is always a
list of ids. So a byte string is too short for a header, or it is a header with a payload of another
length than the header declares, or it is what writing some packet gives. Reading tells these three
apart, and in the last case it gives the packet back. A packet's length is fixed by its header, so
that no packet is the beginning of another.
-/

namespace Tombstone

/-! ## Every string of a field's width is a field -/

theorem Bytes.exists_littleEndian {bytes : Bytes} {width : Nat} (whole : bytes.length = width) :
    ∃ number, number < numeralBound 256 width ∧ Bytes.littleEndian width number = bytes := by
  refine ⟨Bytes.readLittleEndian bytes, ?_, ?_⟩
  · rw [← whole]
    exact Bytes.readLittleEndian_lt bytes
  · rw [← whole]
    exact Bytes.littleEndian_readLittleEndian bytes

theorem Header.exists_toBytes_append {bytes : Bytes} (long : Header.width ≤ bytes.length) :
    ∃ (header : Header) (payload : Bytes), bytes = header.toBytes ++ payload := by
  simp only [Header.width] at long
  have field : ∀ start width, start + width ≤ 13 → ∃ number, number < numeralBound 256 width ∧
      Bytes.littleEndian width number = (bytes.drop start).take width := by
    intro start width within
    apply Bytes.exists_littleEndian
    rw [List.length_take, List.length_drop]
    omega
  rcases field 0 1 (by omega) with ⟨flags, flags_lt, flags_eq⟩
  rcases field 1 2 (by omega) with ⟨sequence, sequence_lt, sequence_eq⟩
  rcases field 3 8 (by omega) with ⟨sentAt, sentAt_lt, sentAt_eq⟩
  rcases field 11 2 (by omega) with ⟨count, count_lt, count_eq⟩
  refine ⟨{ flags := UInt8.ofNat flags, sequence := UInt16.ofNat sequence,
            sentAt := ⟨UInt64.ofNat sentAt⟩, count := UInt16.ofNat count }, bytes.drop 13, ?_⟩
  have flags_toNat : (UInt8.ofNat flags).toNat = flags := Nat.mod_eq_of_lt flags_lt
  have sequence_toNat : (UInt16.ofNat sequence).toNat = sequence := Nat.mod_eq_of_lt sequence_lt
  have sentAt_toNat : (UInt64.ofNat sentAt).toNat = sentAt := Nat.mod_eq_of_lt sentAt_lt
  have count_toNat : (UInt16.ofNat count).toNat = count := Nat.mod_eq_of_lt count_lt
  rw [Header.toBytes, Timestamp.toNat, flags_toNat, sequence_toNat, sentAt_toNat, count_toNat,
    flags_eq, sequence_eq, sentAt_eq, count_eq]
  -- The fields are taken from the string one behind the other.
  rw [List.drop_zero, ← List.take_add, ← List.take_add, ← List.take_add, List.take_append_drop]

theorem EntityId.exists_flatMap_toBytes {payload : Bytes} {count : Nat}
    (whole : payload.length = EntityId.width * count) :
    ∃ ids : List EntityId, ids.length = count ∧ payload = ids.flatMap EntityId.toBytes := by
  induction count generalizing payload with
  | zero =>
      refine ⟨[], rfl, ?_⟩
      exact List.eq_nil_of_length_eq_zero whole
  | succ count ih =>
      rw [Nat.mul_succ] at whole
      have first : (payload.take EntityId.width).length = EntityId.width := by
        rw [List.length_take]
        omega
      have rest : (payload.drop EntityId.width).length = EntityId.width * count := by
        rw [List.length_drop]
        omega
      rcases ih rest with ⟨ids, ids_length, rest_eq⟩
      refine ⟨EntityId.ofBytes (payload.take EntityId.width) :: ids, ?_, ?_⟩
      · rw [List.length_cons, ids_length]
      · rw [List.flatMap_cons, ← rest_eq, EntityId.toBytes_ofBytes first, List.take_append_drop]

/-! ## Reading by cases -/

namespace Packet

theorem ofBytes_of_short {bytes : Bytes} (short : bytes.length < Header.width) :
    Packet.ofBytes bytes = .error (.truncated bytes.length) := by
  rw [Packet.ofBytes, Header.ofBytes, if_pos short]
  rfl

theorem ofBytes_of_mismatch {header : Header} {payload : Bytes}
    (mismatch : payload.length ≠ EntityId.width * header.count.toNat) :
    Packet.ofBytes (header.toBytes ++ payload) =
      .error (.countMismatch header.count payload.length) := by
  have behind : (header.toBytes ++ payload).drop Header.width = payload :=
    List.drop_left' header.length_toBytes
  rw [Packet.ofBytes, Header.ofBytes_toBytes_append]
  simp only [bind, Except.bind, behind, if_neg mismatch]
  rfl

/-- A byte string is short, or has a payload of the wrong length, or is a packet. -/
theorem ofBytes_cases (bytes : Bytes) :
    bytes.length < Header.width ∨
      (∃ (header : Header) (payload : Bytes), bytes = header.toBytes ++ payload ∧
        payload.length ≠ EntityId.width * header.count.toNat) ∨
      ∃ packet : Packet, packet.header.count.toNat = packet.ids.length ∧
        bytes = packet.toBytes := by
  by_cases long : Header.width ≤ bytes.length
  · right
    rcases Header.exists_toBytes_append long with ⟨header, payload, bytes_eq⟩
    by_cases fitting : payload.length = EntityId.width * header.count.toNat
    · right
      rcases EntityId.exists_flatMap_toBytes fitting with ⟨ids, ids_length, payload_eq⟩
      refine ⟨{ header, ids }, ids_length.symm, ?_⟩
      rw [bytes_eq, payload_eq, Packet.toBytes]
    · left
      exact ⟨header, payload, bytes_eq, fitting⟩
  · left
    exact Nat.lt_of_not_le long

theorem ofBytes_eq_ok_iff {bytes : Bytes} {packet : Packet} :
    Packet.ofBytes bytes = .ok packet ↔
      packet.header.count.toNat = packet.ids.length ∧ bytes = packet.toBytes := by
  constructor
  · intro read
    rcases ofBytes_cases bytes with short | ⟨header, payload, rfl, mismatch⟩ |
      ⟨written, counted, rfl⟩
    · rw [ofBytes_of_short short] at read
      cases read
    · rw [ofBytes_of_mismatch mismatch] at read
      cases read
    · rw [Packet.ofBytes_toBytes counted] at read
      cases read
      exact ⟨counted, rfl⟩
  · rintro ⟨counted, rfl⟩
    exact Packet.ofBytes_toBytes counted

/-- No packet is a proper beginning of another. -/
theorem eq_of_begins {front bytes : Bytes} {first second : Packet}
    (readFirst : Packet.ofBytes front = .ok first) (readSecond : Packet.ofBytes bytes = .ok second)
    (begins : front <+: bytes) : front = bytes := by
  rcases ofBytes_eq_ok_iff.mp readFirst with ⟨countedFirst, front_eq⟩
  rcases ofBytes_eq_ok_iff.mp readSecond with ⟨countedSecond, bytes_eq⟩
  rcases begins with ⟨rest, extended⟩
  -- Both begin with the same thirteen bytes, which fix the length.
  have header_eq : first.header = second.header := by
    have fromFirst := Header.ofBytes_toBytes_append first.header
      (first.ids.flatMap EntityId.toBytes ++ rest)
    have fromSecond := Header.ofBytes_toBytes_append second.header
      (second.ids.flatMap EntityId.toBytes)
    rw [← List.append_assoc, ← Packet.toBytes, ← front_eq, extended] at fromFirst
    rw [← Packet.toBytes, ← bytes_eq, fromFirst] at fromSecond
    exact Except.ok.inj fromSecond
  have length_eq : front.length = bytes.length := by
    rw [front_eq, bytes_eq, length_toBytes, length_toBytes, size, size, ← countedFirst,
      ← countedSecond, header_eq]
  have none_left : rest = [] := by
    rw [← extended, List.length_append] at length_eq
    apply List.eq_nil_of_length_eq_zero
    omega
  rw [← extended, none_left, List.append_nil]

/-- The number of ids that the twelfth and the thirteenth byte declare. -/
def declaredIds (bytes : Bytes) : Nat := (bytes.getD 11 0).toNat + 256 * (bytes.getD 12 0).toNat

theorem declaredIds_toBytes_append (header : Header) (payload : Bytes) :
    declaredIds (header.toBytes ++ payload) = header.count.toNat := by
  have count_lt : header.count.toNat < 65536 := header.count.toNat_lt
  have low : (header.toBytes ++ payload).getD 11 0 = UInt8.ofNat (header.count.toNat % 256) := rfl
  have high : (header.toBytes ++ payload).getD 12 0 =
      UInt8.ofNat (header.count.toNat / 256 % 256) := rfl
  rw [declaredIds, low, high, UInt8.toNat_ofNat', UInt8.toNat_ofNat']
  omega

/-- What reading gives, by the length of the string and the number of ids that it declares. -/
theorem ofBytes_verdict (bytes : Bytes) :
    (bytes.length < 13 ∧ Packet.ofBytes bytes = .error (.truncated bytes.length)) ∨
      (∃ count : UInt16, 13 ≤ bytes.length ∧ bytes.length - 13 ≠ 16 * declaredIds bytes ∧
        count.toNat = declaredIds bytes ∧
        Packet.ofBytes bytes = .error (.countMismatch count (bytes.length - 13))) ∨
      ∃ packet, 13 ≤ bytes.length ∧ bytes.length - 13 = 16 * declaredIds bytes ∧
        Packet.ofBytes bytes = .ok packet := by
  rcases ofBytes_cases bytes with short | ⟨header, payload, rfl, mismatch⟩ |
    ⟨packet, counted, rfl⟩
  · exact Or.inl ⟨short, ofBytes_of_short short⟩
  · right
    left
    have length_eq : (header.toBytes ++ payload).length = 13 + payload.length := by
      rw [List.length_append, Header.length_toBytes, Header.width]
    have payload_length : (header.toBytes ++ payload).length - 13 = payload.length := by omega
    refine ⟨header.count, by omega, ?_, ?_, ?_⟩
    · rw [payload_length, declaredIds_toBytes_append]
      exact mismatch
    · exact (declaredIds_toBytes_append header payload).symm
    · rw [payload_length]
      exact ofBytes_of_mismatch mismatch
  · right
    right
    have length_eq : packet.toBytes.length = 13 + 16 * packet.ids.length := length_toBytes packet
    refine ⟨packet, by omega, ?_, Packet.ofBytes_toBytes counted⟩
    rw [Packet.toBytes, declaredIds_toBytes_append, ← Packet.toBytes, counted]
    omega

/-- Reading tells exactly the packets from other byte strings and says what is wrong with those.
What it gives for a packet was written as that string and as no other, and neither a proper
beginning nor a proper extension of the string is a packet. -/
theorem ofBytes_accepts_exactly_written (bytes : Bytes) :
    (∀ actual, Packet.ofBytes bytes = .error (.truncated actual) ↔
      bytes.length < 13 ∧ actual = bytes.length) ∧
    (∀ count payload, Packet.ofBytes bytes = .error (.countMismatch count payload) ↔
      13 ≤ bytes.length ∧ bytes.length - 13 ≠ 16 * declaredIds bytes ∧
        count.toNat = declaredIds bytes ∧ payload = bytes.length - 13) ∧
    ((∃ packet, Packet.ofBytes bytes = .ok packet) ↔
      13 ≤ bytes.length ∧ bytes.length - 13 = 16 * declaredIds bytes) ∧
    (∀ packet, Packet.ofBytes bytes = .ok packet ↔
      packet.ids.length = packet.header.count.toNat ∧
        packet.header.toBytes ++ packet.ids.flatMap EntityId.toBytes = bytes) ∧
    (∀ packet other, Packet.ofBytes bytes = .ok packet → Packet.ofBytes other = .ok packet →
      other = bytes) ∧
    ∀ packet other found, Packet.ofBytes bytes = .ok packet → Packet.ofBytes other = .ok found →
      other <+: bytes ∨ bytes <+: other → other = bytes := by
  refine ⟨?_, ?_, ?_, ?_, ?_, ?_⟩
  · intro actual
    rcases ofBytes_verdict bytes with ⟨short, read⟩ | ⟨count, long, _, _, read⟩ |
      ⟨packet, long, _, read⟩
    · simp [read, short, eq_comm]
    · simp [read, Nat.not_lt.mpr long]
    · simp [read, Nat.not_lt.mpr long]
  · intro count payload
    rcases ofBytes_verdict bytes with ⟨short, read⟩ | ⟨found, long, mismatch, declared, read⟩ |
      ⟨packet, long, fitting, read⟩
    · simp [read, Nat.not_le.mpr short]
    · rw [read]
      constructor
      · rintro ⟨⟩
        exact ⟨long, mismatch, declared, rfl⟩
      · rintro ⟨_, _, count_eq, rfl⟩
        rw [UInt16.toNat_inj.mp (declared.trans count_eq.symm)]
    · simp [read, fitting]
  · rcases ofBytes_verdict bytes with ⟨short, read⟩ | ⟨found, long, mismatch, declared, read⟩ |
      ⟨packet, long, fitting, read⟩
    · simp [read, Nat.not_le.mpr short]
    · simp [read, mismatch]
    · simp [read, long, fitting]
  · intro packet
    constructor
    · intro read
      rcases ofBytes_eq_ok_iff.mp read with ⟨counted, bytes_eq⟩
      exact ⟨counted.symm, bytes_eq.symm⟩
    · rintro ⟨counted, written⟩
      exact ofBytes_eq_ok_iff.mpr ⟨counted.symm, written.symm⟩
  · intro packet other read readOther
    rw [(ofBytes_eq_ok_iff.mp readOther).2, (ofBytes_eq_ok_iff.mp read).2]
  · rintro packet other found read readOther (shorter | longer)
    · exact eq_of_begins readOther read shorter
    · exact (eq_of_begins read readOther longer).symm

end Packet

end Tombstone
