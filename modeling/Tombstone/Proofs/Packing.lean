import Tombstone.Capacity

/-!
# Packing loses nothing

A window of ids is cut into chunks that fill a packet, and each chunk becomes a packet. What the
first packets carry is therefore a front of the window, as long as so many full packets reach, and
all packets together carry the whole window. Every packet fits the capacity, and its header counts
its ids.
-/

namespace Tombstone

/-! ## Chunks -/

section Chunks

variable {α : Type} {size : Nat}

@[simp]
theorem chunksOf_nil : chunksOf size ([] : List α) = [] := by
  simp [chunksOf, chunksOf.go]

/-- Chunks found earlier only stand in front of the others. -/
theorem chunksOf_go_append (items : List α) (found earlier : List (List α)) :
    chunksOf.go size items (found ++ earlier) =
      earlier.reverse ++ chunksOf.go size items found := by
  fun_induction chunksOf.go size items found with
  | case1 found => simp [chunksOf.go]
  | case2 found first rest zero =>
      rw [chunksOf.go, if_pos zero]
      simp
  | case3 found first rest positive ih =>
      rw [chunksOf.go, if_neg positive]
      exact ih

theorem chunksOf_eq_cons {items : List α} (positive : 0 < size) (nonempty : items ≠ []) :
    chunksOf size items = items.take size :: chunksOf size (items.drop size) := by
  cases items with
  | nil => exact absurd rfl nonempty
  | cons first rest =>
      rw [chunksOf, chunksOf.go, if_neg (Nat.ne_of_gt positive)]
      exact chunksOf_go_append ((first :: rest).drop size) [] [(first :: rest).take size]

/-- Induction that takes one chunk after the other off a list. -/
theorem chunk_induction {motive : List α → Prop} (positive : 0 < size) (nil : motive [])
    (chunk : ∀ items, items ≠ [] → motive (items.drop size) → motive items) (items : List α) :
    motive items := by
  by_cases nonempty : items = []
  · exact nonempty ▸ nil
  · exact chunk items nonempty (chunk_induction positive nil chunk (items.drop size))
termination_by items.length
decreasing_by
  have := List.length_pos_iff.mpr nonempty
  rw [List.length_drop]
  omega

theorem length_chunksOf (positive : 0 < size) (items : List α) :
    (chunksOf size items).length = (items.length + size - 1) / size := by
  induction items using chunk_induction positive with
  | nil =>
      have below : size - 1 < size := by omega
      simp [Nat.div_eq_of_lt below]
  | chunk items nonempty ih =>
      have some_item := List.length_pos_iff.mpr nonempty
      rw [chunksOf_eq_cons positive nonempty, List.length_cons, ih, List.length_drop]
      by_cases more : size ≤ items.length
      · have shifted : items.length + size - 1 = (items.length - size + size - 1) + size := by omega
        rw [shifted, Nat.add_div_right _ positive]
      · have none_left : items.length - size + size - 1 < size := by omega
        have last : items.length + size - 1 = (items.length - 1) + size := by omega
        have below : items.length - 1 < size := by omega
        rw [last, Nat.add_div_right _ positive, Nat.div_eq_of_lt none_left, Nat.div_eq_of_lt below]

theorem length_le_of_mem_chunksOf (positive : 0 < size) {items chunk : List α}
    (chunk_mem : chunk ∈ chunksOf size items) : chunk.length ≤ size := by
  induction items using chunk_induction positive with
  | nil => simp at chunk_mem
  | chunk items nonempty ih =>
      rw [chunksOf_eq_cons positive nonempty] at chunk_mem
      rcases List.mem_cons.mp chunk_mem with rfl | later
      · exact List.length_take_le size items
      · exact ih later

/-- The first chunks make up a front of the list. -/
theorem flatten_take_chunksOf (positive : 0 < size) (items : List α) (count : Nat) :
    ((chunksOf size items).take count).flatten = items.take (count * size) := by
  induction items using chunk_induction positive generalizing count with
  | nil => simp
  | chunk items nonempty ih =>
      cases count with
      | zero => simp
      | succ count =>
          rw [chunksOf_eq_cons positive nonempty, List.take_succ_cons, List.flatten_cons, ih count,
            Nat.succ_mul, Nat.add_comm, List.take_add]

end Chunks

namespace Capacity

/-! ## The ids of each packet -/

theorem split_eq (capacity : Capacity) (ids : List EntityId) :
    capacity.split ids = if ids = [] then [[]] else chunksOf capacity.idLimit ids := by
  simp only [split]
  by_cases empty : ids = []
  · simp [empty]
  · rw [if_neg empty, chunksOf_eq_cons capacity.idLimit_pos empty]

theorem length_split (capacity : Capacity) (ids : List EntityId) :
    (capacity.split ids).length = capacity.packetCount ids.length := by
  have positive := capacity.idLimit_pos
  rw [split_eq, packetCount]
  split
  · next empty =>
      have below : capacity.idLimit - 1 < capacity.idLimit := by omega
      simp [empty, Nat.div_eq_of_lt below]
  · next nonempty =>
      have some_id := List.length_pos_iff.mpr nonempty
      have enough : capacity.idLimit ≤ ids.length + capacity.idLimit - 1 := by omega
      have some_packet := Nat.div_pos enough positive
      rw [length_chunksOf positive]
      omega

theorem length_le_of_mem_split {capacity : Capacity} {ids chunk : List EntityId}
    (chunk_mem : chunk ∈ capacity.split ids) : chunk.length ≤ capacity.idLimit := by
  rw [split_eq] at chunk_mem
  split at chunk_mem
  · simp [List.mem_singleton.mp chunk_mem]
  · exact length_le_of_mem_chunksOf capacity.idLimit_pos chunk_mem

theorem flatten_take_split (capacity : Capacity) (ids : List EntityId) (count : Nat) :
    ((capacity.split ids).take count).flatten = ids.take (count * capacity.idLimit) := by
  rw [split_eq]
  split
  · next empty => cases count <;> simp [empty]
  · exact flatten_take_chunksOf capacity.idLimit_pos ids count

theorem flatten_split (capacity : Capacity) (ids : List EntityId) :
    (capacity.split ids).flatten = ids := by
  rw [split_eq]
  split
  · next empty => simp [empty]
  · exact flatten_chunksOf capacity.idLimit ids

/-! ## Packets -/

variable {capacity : Capacity} {flags : UInt8} {sentAt : Timestamp} {number : Nat → UInt16}
  {ids : List EntityId}

theorem map_ids_pack :
    (capacity.pack flags sentAt number ids).map (·.ids) = capacity.split ids := by
  apply List.ext_getElem?
  intro index
  simp [pack, Function.comp_def]

theorem length_pack :
    (capacity.pack flags sentAt number ids).length = capacity.packetCount ids.length := by
  rw [pack, List.length_mapIdx, length_split]

/-- As many full packets as are needed hold all of the ids. -/
theorem length_le_packetCount_mul (capacity : Capacity) (count : Nat) :
    count ≤ capacity.packetCount count * capacity.idLimit := by
  have positive := capacity.idLimit_pos
  have rounded : (count + capacity.idLimit - 1) / capacity.idLimit ≤ capacity.packetCount count :=
    Nat.le_max_right ..
  have enough := Nat.lt_div_mul_add positive (a := count + capacity.idLimit - 1)
  have grown := Nat.mul_le_mul_right capacity.idLimit rounded
  omega

theorem packetCount_pos (capacity : Capacity) (count : Nat) : 0 < capacity.packetCount count :=
  Nat.lt_of_lt_of_le Nat.zero_lt_one (Nat.le_max_left ..)

/-- All packets together carry the whole window. -/
theorem flatMap_ids_pack :
    (capacity.pack flags sentAt number ids).flatMap (·.ids) = ids := by
  rw [List.flatMap_def, map_ids_pack, flatten_split]

/-- The first packets carry a front of the window. -/
theorem flatMap_ids_take_pack (count : Nat) :
    ((capacity.pack flags sentAt number ids).take count).flatMap (·.ids) =
      ids.take (count * capacity.idLimit) := by
  rw [List.flatMap_def, List.map_take, map_ids_pack, flatten_take_split]

/-- A packet of a window has the common flags and time, counts its ids, and does not have too many.
-/
structure Packed (capacity : Capacity) (flags : UInt8) (sentAt : Timestamp) (packet : Packet) :
    Prop where
  flags_eq : packet.header.flags = flags
  sentAt_eq : packet.header.sentAt = sentAt
  count_eq : packet.header.count.toNat = packet.ids.length
  length_le : packet.ids.length ≤ capacity.idLimit

theorem packed_of_mem_pack {packet : Packet}
    (packet_mem : packet ∈ capacity.pack flags sentAt number ids) :
    Packed capacity flags sentAt packet := by
  rcases List.mem_mapIdx.mp packet_mem with ⟨index, inBounds, rfl⟩
  have fits := length_le_of_mem_split (List.getElem_mem inBounds)
  have countable := capacity.idLimit_le
  refine ⟨rfl, rfl, ?_, fits⟩
  rw [UInt16.toNat_ofNat']
  exact Nat.mod_eq_of_lt (by omega)

theorem Packed.size_le {packet : Packet} (packed : Packed capacity flags sentAt packet) :
    packet.size ≤ capacity.bytes := by
  have holds := capacity.holds_one
  have within := packed.length_le
  simp only [Packet.size, idLimit, Header.width, EntityId.width] at *
  omega

end Capacity

end Tombstone
