import Tombstone.Proofs.PacketRoundTrip

/-!
# Filling packets one id after the other

Packets can also be filled while the ids come in. An id that finds a full packet pending lets it be
closed under the next number of a counter, and the last packet is closed when no more ids come. At
any moment the closed packets are full, and they hold, with the pending ids behind them, the ids
that came. Therefore filling makes the packets that packing makes, with one number taken for each of
them. No other packets that fit the capacity carry the same ids in a smaller number.
-/

namespace Tombstone

/-! ## Numbers -/

theorem numbersFrom_succ (start : UInt16) (index : Nat) :
    numbersFrom start index + 1 = numbersFrom start (index + 1) := by
  apply UInt16.toNat_inj.mp
  simp only [numbersFrom, UInt16.toNat_add, UInt16.toNat_ofNat', UInt16.toNat_one]
  omega

theorem toNat_numbersFrom (start : UInt16) (index : Nat) :
    (numbersFrom start index).toNat = (start.toNat + index) % 65536 := by
  simp only [numbersFrom, UInt16.toNat_add, UInt16.toNat_ofNat']
  omega

/-- Full chunks with a last one behind them are the chunks of the list that they make up. -/
theorem chunksOf_flatten_append {α : Type} {size : Nat} {chunks : List (List α)} {last : List α}
    (positive : 0 < size) (full : ∀ chunk ∈ chunks, chunk.length = size)
    (within : last.length ≤ size) (last_ne : last ≠ []) :
    chunksOf size (chunks.flatten ++ last) = chunks ++ [last] := by
  induction chunks with
  | nil =>
      rw [List.flatten_nil, List.nil_append, chunksOf_eq_cons positive last_ne,
        List.take_of_length_le within, List.drop_of_length_le within, chunksOf_nil]
      rfl
  | cons first rest ih =>
      rcases List.forall_mem_cons.mp full with ⟨first_full, rest_full⟩
      have nonempty : first ++ (rest.flatten ++ last) ≠ [] := by
        simp [last_ne]
      rw [List.flatten_cons, List.append_assoc, chunksOf_eq_cons positive nonempty,
        List.take_left' first_full, List.drop_left' first_full, ih rest_full, List.cons_append]

namespace Capacity

/-! ## The filling of packets -/

def frame (flags : UInt8) (sentAt : Timestamp) (number : Nat → UInt16) (index : Nat)
    (chunk : List EntityId) : Packet :=
  { header := { flags, sequence := number index, sentAt, count := UInt16.ofNat chunk.length }
    ids := chunk }

/-- Packets in the making. -/
structure Filling where
  /-- The packets that are finished. -/
  closed : List Packet := []
  /-- The ids for the next packet. -/
  pending : List EntityId := []
  /-- The number of the next packet. -/
  counter : UInt16
  deriving Repr

/-- Makes a packet of the pending ids. -/
def Filling.close (flags : UInt8) (sentAt : Timestamp) (filling : Filling) : Filling :=
  { closed := filling.closed ++ [frame flags sentAt (fun _ => filling.counter) 0 filling.pending]
    counter := filling.counter + 1 }

/-- Takes an id in; a full packet is closed first. -/
def Filling.add (capacity : Capacity) (flags : UInt8) (sentAt : Timestamp) (filling : Filling)
    (id : EntityId) : Filling :=
  let ready :=
    if filling.pending.length = capacity.idLimit then filling.close flags sentAt else filling
  { ready with pending := ready.pending ++ [id] }

/-- Closes the last packet, which is without ids if none came. -/
def Filling.finish (flags : UInt8) (sentAt : Timestamp) (filling : Filling) : Filling :=
  if filling.pending = [] ∧ filling.closed ≠ [] then filling else filling.close flags sentAt

/-- Fills packets with ids one after the other. -/
def fill (capacity : Capacity) (flags : UInt8) (sentAt : Timestamp) (start : UInt16)
    (ids : List EntityId) : Filling :=
  (ids.foldl (Filling.add capacity flags sentAt) { counter := start }).finish flags sentAt

section Filling

variable {capacity : Capacity} {flags : UInt8} {sentAt : Timestamp} {start : UInt16}
  {ids seen : List EntityId} {chunks : List (List EntityId)} {filling : Filling}

/-- After some ids, each closed packet holds a full chunk of them, and the rest is pending. -/
structure Partway (capacity : Capacity) (flags : UInt8) (sentAt : Timestamp) (start : UInt16)
    (seen : List EntityId) (chunks : List (List EntityId)) (filling : Filling) : Prop where
  closed_eq : filling.closed = chunks.mapIdx (frame flags sentAt (numbersFrom start))
  counter_eq : filling.counter = numbersFrom start chunks.length
  full : ∀ chunk ∈ chunks, chunk.length = capacity.idLimit
  within : filling.pending.length ≤ capacity.idLimit
  untouched : filling.pending = [] → chunks = []
  seen_eq : chunks.flatten ++ filling.pending = seen

theorem partway_nil (capacity : Capacity) (flags : UInt8) (sentAt : Timestamp) (start : UInt16) :
    Partway capacity flags sentAt start [] [] { counter := start } := by
  refine ⟨rfl, ?_, ?_, Nat.zero_le _, fun _ => rfl, rfl⟩
  · simp [numbersFrom]
  · simp

theorem Partway.closed_close (partway : Partway capacity flags sentAt start seen chunks filling) :
    (filling.close flags sentAt).closed =
      (chunks ++ [filling.pending]).mapIdx (frame flags sentAt (numbersFrom start)) := by
  rw [Filling.close, List.mapIdx_append, partway.closed_eq, partway.counter_eq]
  simp [frame]

theorem Partway.counter_close (partway : Partway capacity flags sentAt start seen chunks filling) :
    (filling.close flags sentAt).counter =
      numbersFrom start (chunks ++ [filling.pending]).length := by
  rw [Filling.close, partway.counter_eq, numbersFrom_succ, List.length_append,
    List.length_singleton]

theorem add_of_full (full : filling.pending.length = capacity.idLimit) (id : EntityId) :
    filling.add capacity flags sentAt id = { filling.close flags sentAt with pending := [id] } := by
  rw [Filling.add, if_pos full]
  rfl

theorem add_of_room (room : filling.pending.length ≠ capacity.idLimit) (id : EntityId) :
    filling.add capacity flags sentAt id =
      { filling with pending := filling.pending ++ [id] } := by
  rw [Filling.add, if_neg room]

theorem Partway.add (partway : Partway capacity flags sentAt start seen chunks filling)
    (id : EntityId) :
    ∃ chunks, Partway capacity flags sentAt start (seen ++ [id]) chunks
      (filling.add capacity flags sentAt id) := by
  by_cases full : filling.pending.length = capacity.idLimit
  · -- The pending ids become the last full chunk.
    rw [add_of_full full]
    refine ⟨chunks ++ [filling.pending], partway.closed_close, partway.counter_close, ?_,
      capacity.idLimit_pos, ?_, ?_⟩
    · intro chunk chunk_mem
      rcases List.mem_append.mp chunk_mem with earlier | last
      · exact partway.full chunk earlier
      · rw [List.mem_singleton.mp last, full]
    · simp
    · simp [← partway.seen_eq]
  · have below := Nat.lt_of_le_of_ne partway.within full
    rw [add_of_room full]
    refine ⟨chunks, partway.closed_eq, partway.counter_eq, partway.full, ?_, ?_, ?_⟩
    · rw [List.length_append, List.length_singleton]
      exact below
    · simp
    · rw [← partway.seen_eq, List.append_assoc]

theorem Partway.addAll (partway : Partway capacity flags sentAt start seen chunks filling)
    (ids : List EntityId) :
    ∃ chunks, Partway capacity flags sentAt start (seen ++ ids) chunks
      (ids.foldl (Filling.add capacity flags sentAt) filling) := by
  induction ids generalizing seen chunks filling with
  | nil => exact ⟨chunks, by rwa [List.append_nil]⟩
  | cons id rest ih =>
      rcases partway.add id with ⟨_, next⟩
      rcases ih next with ⟨final, done⟩
      refine ⟨final, ?_⟩
      rwa [List.append_assoc, List.singleton_append] at done

theorem Partway.split_eq (partway : Partway capacity flags sentAt start seen chunks filling) :
    capacity.split seen = chunks ++ [filling.pending] := by
  rw [Capacity.split_eq, ← partway.seen_eq]
  by_cases none_pending : filling.pending = []
  · simp [none_pending, partway.untouched none_pending]
  · rw [if_neg (by simp [none_pending])]
    exact chunksOf_flatten_append capacity.idLimit_pos partway.full partway.within none_pending

theorem Partway.finish_eq (partway : Partway capacity flags sentAt start seen chunks filling) :
    filling.finish flags sentAt = filling.close flags sentAt := by
  rw [Filling.finish, if_neg]
  rintro ⟨none_pending, some_closed⟩
  apply some_closed
  rw [partway.closed_eq, partway.untouched none_pending, List.mapIdx_nil]

/-- When no more ids come, the pending ones are all that is left to close. -/
theorem exists_partway (capacity : Capacity) (flags : UInt8) (sentAt : Timestamp) (start : UInt16)
    (ids : List EntityId) :
    ∃ chunks filling, Partway capacity flags sentAt start ids chunks filling ∧
      capacity.fill flags sentAt start ids = filling.close flags sentAt := by
  rcases (partway_nil capacity flags sentAt start).addAll ids with ⟨chunks, partway⟩
  rw [List.nil_append] at partway
  exact ⟨chunks, _, partway, partway.finish_eq⟩

theorem closed_fill (capacity : Capacity) (flags : UInt8) (sentAt : Timestamp) (start : UInt16)
    (ids : List EntityId) :
    (capacity.fill flags sentAt start ids).closed =
      capacity.pack flags sentAt (numbersFrom start) ids := by
  rcases exists_partway capacity flags sentAt start ids with ⟨chunks, filling, partway, fill_eq⟩
  rw [fill_eq, partway.closed_close, ← partway.split_eq]
  rfl

theorem counter_fill (capacity : Capacity) (flags : UInt8) (sentAt : Timestamp) (start : UInt16)
    (ids : List EntityId) :
    (capacity.fill flags sentAt start ids).counter =
      numbersFrom start (capacity.packetCount ids.length) := by
  rcases exists_partway capacity flags sentAt start ids with ⟨chunks, filling, partway, fill_eq⟩
  rw [fill_eq, partway.counter_close, ← partway.split_eq, length_split]

/-- All packets but the last are full, and the last is empty only if there is no id at all. -/
theorem exists_pack_eq (capacity : Capacity) (flags : UInt8) (sentAt : Timestamp) (start : UInt16)
    (ids : List EntityId) :
    ∃ front last, capacity.pack flags sentAt (numbersFrom start) ids = front ++ [last] ∧
      (∀ packet ∈ front, packet.ids.length = capacity.idLimit) ∧ (ids ≠ [] → last.ids ≠ []) := by
  rcases exists_partway capacity flags sentAt start ids with ⟨chunks, filling, partway, fill_eq⟩
  rw [← closed_fill, fill_eq, Filling.close]
  refine ⟨_, _, rfl, ?_, ?_⟩
  · intro packet packet_mem
    rw [partway.closed_eq] at packet_mem
    rcases List.mem_mapIdx.mp packet_mem with ⟨index, inBounds, rfl⟩
    exact partway.full _ (List.getElem_mem inBounds)
  · intro some_id last_empty
    have none_pending : filling.pending = [] := last_empty
    apply some_id
    rw [← partway.seen_eq, none_pending, partway.untouched none_pending]
    rfl

end Filling

/-! ## The smallest number of packets -/

theorem packetCount_le_iff {capacity : Capacity} {count packets : Nat} :
    capacity.packetCount count ≤ packets ↔ 0 < packets ∧ count ≤ packets * capacity.idLimit := by
  have positive := capacity.idLimit_pos
  constructor
  · intro enough
    have grown := Nat.mul_le_mul_right capacity.idLimit enough
    exact ⟨Nat.lt_of_lt_of_le (capacity.packetCount_pos count) enough,
      Nat.le_trans (capacity.length_le_packetCount_mul count) grown⟩
  · rintro ⟨some_packet, room⟩
    apply Nat.max_le.mpr
    refine ⟨some_packet, ?_⟩
    apply Nat.le_of_lt_succ
    rw [Nat.div_lt_iff_lt_mul positive, Nat.succ_mul]
    omega

/-- Packets that fit the capacity carry no more ids than full ones. -/
theorem length_flatMap_ids_le {capacity : Capacity} {packets : List Packet}
    (fitting : ∀ packet ∈ packets, packet.toBytes.length ≤ capacity.bytes) :
    (packets.flatMap (·.ids)).length ≤ packets.length * capacity.idLimit := by
  induction packets with
  | nil => simp
  | cons packet rest ih =>
      rcases List.forall_mem_cons.mp fitting with ⟨fits, restFits⟩
      have within : packet.ids.length ≤ capacity.idLimit := by
        simp only [Packet.length_toBytes, Packet.size, idLimit, Header.width, EntityId.width]
          at fits ⊢
        omega
      have restWithin := ih restFits
      rw [List.flatMap_cons, List.length_append, List.length_cons, Nat.succ_mul]
      omega

/-- What packing brings about: `packets` carry the ids in order, are read back from their bytes, and
are as few as the capacity allows; `counter` is the number for the packet to come. -/
structure Encoded (capacity : Capacity) (flags : UInt8) (sentAt : Timestamp) (start : UInt16)
    (ids : List EntityId) (packets : List Packet) (counter : UInt16) : Prop where
  length_eq : packets.length = capacity.packetCount ids.length
  bytes_le : ∀ packet ∈ packets, packet.toBytes.length ≤ capacity.bytes
  /-- Each is as long as its count says. -/
  bytes_eq : ∀ packet ∈ packets,
    packet.toBytes.length = 13 + 16 * packet.header.count.toNat
  /-- All but the last are full, and the last is empty only if there are no ids. -/
  filled : ∃ front last, packets = front ++ [last] ∧
    (∀ packet ∈ front, packet.ids.length = capacity.idLimit) ∧ (ids ≠ [] → last.ids ≠ [])
  /-- No other packets that fit the capacity and carry the ids are fewer. -/
  fewest : ∀ others : List Packet, others ≠ [] →
    (∀ packet ∈ others, packet.toBytes.length ≤ capacity.bytes) →
    others.flatMap (·.ids) = ids → packets.length ≤ others.length
  /-- The header is the one that its bytes say. -/
  header_read : ∀ packet ∈ packets, Header.ofBytes packet.toBytes = .ok packet.header
  /-- Its count is the number of the ids, without truncation. -/
  count_eq : ∀ packet ∈ packets, packet.header.count.toNat = packet.ids.length
  common : ∀ packet ∈ packets, packet.header.flags = flags ∧ packet.header.sentAt = sentAt
  /-- The packets are numbered from the start, and zero follows the last 16-bit number. -/
  sequence_eq : ∀ index (inBounds : index < packets.length),
    packets[index].header.sequence.toNat = (start.toNat + index) % 65536
  /-- The counter has moved by one for each packet. -/
  counter_eq : counter.toNat = (start.toNat + capacity.packetCount ids.length) % 65536
  decoded : packets.map (fun packet => Packet.ofBytes packet.toBytes) = packets.map .ok
  ids_eq : packets.flatMap (·.ids) = ids

/-- With every number of bytes that is a capacity, whatever the ids and the first number are, the
packets read back to the ids and cannot be fewer. The packets and the counter are those of the
gradual filling. -/
theorem pack_reads_back_in_fewest_packets (bytes : Nat) (capacity : Capacity) (flags : UInt8)
    (sentAt : Timestamp) (start : UInt16) (ids : List EntityId)
    (accepted : Capacity.ofBytes bytes = .ok capacity) :
    let filling := capacity.fill flags sentAt start ids
    let packets := capacity.pack flags sentAt (numbersFrom start) ids
    capacity.bytes = bytes ∧ filling.closed = packets ∧
      Encoded capacity flags sentAt start ids packets filling.counter := by
  intro filling packets
  have length_eq : packets.length = capacity.packetCount ids.length := length_pack
  refine ⟨bytes_of_ofBytes accepted, closed_fill capacity flags sentAt start ids,
    { length_eq
      bytes_le := ?_
      bytes_eq := ?_
      filled := exists_pack_eq capacity flags sentAt start ids
      fewest := ?_
      header_read := ?_
      count_eq := fun packet packet_mem => (packed_of_mem_pack packet_mem).count_eq
      common := ?_
      sequence_eq := ?_
      counter_eq := ?_
      decoded := ?_
      ids_eq := flatMap_ids_pack }⟩
  · intro packet packet_mem
    rw [Packet.length_toBytes]
    exact (packed_of_mem_pack packet_mem).size_le
  · intro packet packet_mem
    rw [Packet.length_toBytes, (packed_of_mem_pack packet_mem).count_eq]
    rfl
  · intro others others_ne fitting ids_eq
    rw [length_eq, packetCount_le_iff, ← ids_eq]
    exact ⟨List.length_pos_iff.mpr others_ne, length_flatMap_ids_le fitting⟩
  · intro packet _
    exact Header.ofBytes_toBytes_append packet.header (packet.ids.flatMap EntityId.toBytes)
  · intro packet packet_mem
    have packed := packed_of_mem_pack packet_mem
    exact ⟨packed.flags_eq, packed.sentAt_eq⟩
  · intro index inBounds
    rw [← toNat_numbersFrom]
    simp only [packets, pack, List.getElem_mapIdx]
  · rw [counter_fill, toNat_numbersFrom]
  · apply List.map_congr_left
    intro packet packet_mem
    exact Packet.ofBytes_toBytes (packed_of_mem_pack packet_mem).count_eq

/-- Fifty bytes hold two ids with some bytes to spare, and the numbers go round after the first of
three packets. -/
theorem pack_reads_back_five :
    let capacity : Capacity := ⟨50, by decide, by decide⟩
    let ids : List EntityId := [.ofNat 9, .ofNat 4, .ofNat 9, .ofNat 0, .ofNat 7]
    let filling := capacity.fill 3 ⟨77⟩ 65535 ids
    let packets := capacity.pack 3 ⟨77⟩ (numbersFrom 65535) ids
    Capacity.ofBytes 50 = .ok capacity ∧ capacity.bytes = 50 ∧ filling.closed = packets ∧
      Encoded capacity 3 ⟨77⟩ 65535 ids packets filling.counter := by
  intro capacity ids filling packets
  have accepted : Capacity.ofBytes 50 = .ok capacity := rfl
  exact ⟨accepted, pack_reads_back_in_fewest_packets 50 capacity 3 ⟨77⟩ 65535 ids accepted⟩

end Capacity

end Tombstone
