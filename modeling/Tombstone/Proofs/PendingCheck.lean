import Tombstone.Proofs.CollectionLeaves
import Tombstone.Proofs.FlushTrail
import Tombstone.Proofs.LedgerHistory
import Tombstone.Proofs.RoundOrder

/-!
# The check for something pending

Whether anything is pending for a session is told from the first bucket of the session's window,
while a flush goes through the whole window. The two agree, as no bucket is ever empty. So a flush
with something pending builds no packet without ids, and a flush with nothing pending builds a single
packet, which is only a header. A dispatch round flushes where the check says so. Hence whatever it
puts into a queue carries ids, and each session that it passes over would have been sent a header.
-/

namespace Tombstone

theorem ne_nil_of_mem_chunksOf {α : Type} {size : Nat} (positive : 0 < size)
    {items chunk : List α} (chunk_mem : chunk ∈ chunksOf size items) : chunk ≠ [] := by
  induction items using chunk_induction positive with
  | nil => simp at chunk_mem
  | chunk items nonempty ih =>
      rw [chunksOf_eq_cons positive nonempty] at chunk_mem
      rcases List.mem_cons.mp chunk_mem with rfl | later
      · simp [nonempty, Nat.ne_of_gt positive]
      · exact ih later

namespace Capacity

variable {capacity : Capacity} {flags : UInt8} {sentAt : Timestamp} {number : Nat → UInt16}
  {ids : List EntityId}

theorem ids_ne_nil_of_mem_pack (nonempty : ids ≠ []) {packet : Packet}
    (packet_mem : packet ∈ capacity.pack flags sentAt number ids) : packet.ids ≠ [] := by
  have chunk_mem : packet.ids ∈ capacity.split ids := by
    rw [← map_ids_pack]
    exact List.mem_map_of_mem packet_mem
  rw [split_eq, if_neg nonempty] at chunk_mem
  exact ne_nil_of_mem_chunksOf capacity.idLimit_pos chunk_mem

/-- With nothing to tell, there is one packet, which has no ids. -/
theorem exists_pack_nil :
    ∃ packet, capacity.pack flags sentAt number [] = [packet] ∧ packet.ids = [] := by
  have ids_eq : (capacity.pack flags sentAt number []).map (·.ids) = [[]] := by
    rw [map_ids_pack, split_eq, if_pos rfl]
  rcases List.map_eq_singleton_iff.mp ids_eq with ⟨packet, pack_eq, no_ids⟩
  exact ⟨packet, pack_eq, no_ids⟩

end Capacity

theorem RoundSummary.sent?_eq_some_iff {outcome : Option (Except FlushError FlushSummary)}
    {summary : FlushSummary} : sent? outcome = some summary ↔ outcome = some (.ok summary) := by
  cases outcome with
  | none => simp [sent?]
  | some result => cases result <;> simp [sent?]

namespace State

/-- The packets that a flush of a session builds; none if the session is not connected. -/
def packetsOf (settings : Settings) (session : SessionId) (state : State) : List Packet :=
  match state.registry.cursor? session with
  | none => []
  | some cursor => packetsFor settings state session cursor state.clock.read.1.time

section Check

variable {settings : Settings} {session : SessionId} {state : State} {cursor : Timestamp}

theorem packetsOf_eq (found : state.registry.cursor? session = some cursor) :
    state.packetsOf settings session =
      packetsFor settings state session cursor state.clock.read.1.time := by
  simp only [packetsOf, found]

theorem packetsOf_of_connected {entry : Session}
    (connected : state.registry.find? session = some entry) :
    state.packetsOf settings session =
      packetsFor settings state session entry.cursor state.clock.read.1.time :=
  packetsOf_eq (by rw [Registry.cursor?, connected, Option.map_some])

theorem ofBytes_of_mem_packetsOf {packet : Packet}
    (packet_mem : packet ∈ state.packetsOf settings session) :
    Packet.ofBytes packet.toBytes = .ok packet := by
  simp only [packetsOf] at packet_mem
  split at packet_mem
  · cases packet_mem
  · exact (mem_packetsFor packet_mem).1

theorem hasNews_iff_idsAfter (ordered : state.ledger.Ordered)
    (found : state.registry.cursor? session = some cursor) :
    state.hasNews settings session = true ↔
      state.ledger.idsAfter (windowStart settings cursor) ≠ [] := by
  simp only [hasNews, found]
  rw [ordered.hasRecordAfter_iff, Ledger.idsAfter_eq_map, ne_eq, ne_eq, List.map_eq_nil_iff]

theorem hasNews_iff_packetsOf (ordered : state.ledger.Ordered) :
    state.hasNews settings session = true ↔
      ∃ packet ∈ state.packetsOf settings session, packet.ids ≠ [] := by
  cases found : state.registry.cursor? session with
  | none => simp [hasNews, packetsOf, found]
  | some cursor =>
      have window : (state.packetsOf settings session).flatMap (·.ids) =
          state.ledger.idsAfter (windowStart settings cursor) := by
        rw [packetsOf_eq found, flatMap_ids_packetsFor]
      rw [hasNews_iff_idsAfter ordered found, ← window, ne_eq, List.flatMap_eq_nil_iff]
      simp only [Classical.not_forall, exists_prop, ne_eq]

theorem hasNews_iff_window (ordered : state.ledger.Ordered) :
    state.hasNews settings session = true ↔
      ∃ cursor, state.registry.cursor? session = some cursor ∧
        ∃ record ∈ state.ledger.records,
          cursor.toNat - settings.skewTolerance < record.deletedAt.toNat := by
  constructor
  · intro news
    rcases Registry.isConnected_iff_cursor?.mp (isConnected_of_hasNews news) with ⟨cursor, found⟩
    have some_id := (hasNews_iff_idsAfter ordered found).mp news
    rw [Ledger.idsAfter_eq_map, ne_eq, List.map_eq_nil_iff] at some_id
    rcases List.exists_mem_of_ne_nil _ some_id with ⟨record, record_mem⟩
    rcases ordered.mem_recordsAfter.mp record_mem with ⟨held, later⟩
    exact ⟨cursor, found, record, held, windowStart_lt_iff.mp later⟩
  · rintro ⟨cursor, found, record, held, later⟩
    exact hasNews_of_mem ordered found held (windowStart_lt_iff.mpr later)

/-- With something pending, no packet of a flush is without ids. -/
theorem ids_ne_nil_of_hasNews (ordered : state.ledger.Ordered)
    (news : state.hasNews settings session = true) :
    ∀ packet ∈ state.packetsOf settings session, packet.ids ≠ [] := by
  intro packet packet_mem
  rcases Registry.isConnected_iff_cursor?.mp (isConnected_of_hasNews news) with ⟨cursor, found⟩
  rw [packetsOf_eq found] at packet_mem
  exact Capacity.ids_ne_nil_of_mem_pack ((hasNews_iff_idsAfter ordered found).mp news) packet_mem

/-- With nothing pending, a flush of a connected session builds just a header. -/
theorem packetsOf_of_idle (ordered : state.ledger.Ordered)
    (connected : state.registry.isConnected session = true)
    (idle : state.hasNews settings session = false) :
    ∃ packet, state.packetsOf settings session = [packet] ∧ packet.ids = [] ∧
      packet.toBytes.length = Header.width := by
  rcases Registry.isConnected_iff_cursor?.mp connected with ⟨cursor, found⟩
  have no_ids : state.ledger.idsAfter (windowStart settings cursor) = [] := by
    apply Classical.byContradiction
    intro some_id
    rw [(hasNews_iff_idsAfter ordered found).mpr some_id] at idle
    cases idle
  rw [packetsOf_eq found, packetsFor, no_ids]
  rcases Capacity.exists_pack_nil with ⟨packet, pack_eq, packet_ids⟩
  refine ⟨packet, pack_eq, packet_ids, ?_⟩
  simp [Packet.length_toBytes, Packet.size, packet_ids]

end Check

/-- How the check for something pending goes with a flush from the same state. -/
structure CheckAgrees (settings : Settings) (session : SessionId) (state : State) : Prop where
  /-- Something is pending just if a flush builds a packet with an id. -/
  pending_iff : state.hasNews settings session = true ↔
    ∃ packet ∈ state.packetsOf settings session, packet.ids ≠ []
  /-- It is pending just if the session is connected and its window is not empty. -/
  window_iff : state.hasNews settings session = true ↔
    ∃ cursor, state.registry.cursor? session = some cursor ∧
      ∃ record ∈ state.ledger.records,
        cursor.toNat - settings.skewTolerance < record.deletedAt.toNat
  /-- If nothing is pending for a connected session, a flush builds just a header. -/
  header_only : state.registry.isConnected session = true →
    state.hasNews settings session = false →
    ∃ packet, state.packetsOf settings session = [packet] ∧ packet.ids = [] ∧
      packet.toBytes.length = Header.width
  /-- A flush numbers the packets that it builds. -/
  numbered : ∀ entry, state.registry.find? session = some entry →
    ∃ after, (state.flush settings session).2.registry.find? session = some after ∧
      after.sequence = entry.sequence + UInt16.ofNat (state.packetsOf settings session).length
  /-- It hands over the first of them. -/
  handed_over : state.gainedBy settings session <+:
    (state.packetsOf settings session).map Packet.toBytes
  /-- If it succeeds, it has handed over all of them. -/
  complete : ∀ summary, (state.flush settings session).1 = .ok summary →
    state.gainedBy settings session = (state.packetsOf settings session).map Packet.toBytes ∧
      summary.packetsSent = (state.packetsOf settings session).length ∧
      summary.idsSent = ((state.packetsOf settings session).flatMap (·.ids)).length

/-- What a dispatch round tells, and whom it passes over. -/
structure RoundAgrees (settings : Settings) (state : State) (order : List SessionId) : Prop where
  /-- Each packet that the round puts into a queue is read back with an id. -/
  told : ∀ session, ∃ packets : List Packet,
    (state.flushAllIn settings order).2.transport.queue session =
        state.transport.queue session ++ packets.map Packet.toBytes ∧
      ∀ packet ∈ packets, Packet.ofBytes packet.toBytes = .ok packet ∧ packet.ids ≠ []
  /-- Each flush that it counts as successful sent an id. -/
  counted :
    let sent := (outcomes settings state order).filterMap RoundSummary.sent?
    (state.flushAllIn settings order).1.flushed = sent.length ∧
      ∀ summary ∈ sent, 1 ≤ summary.idsSent
  /-- A session that is passed over would have been sent just a header. -/
  passed_over : ∀ earlier session later, order = earlier ++ session :: later →
    session ∈ state.registry.ids →
    let reached := (state.flushAllIn settings earlier).2
    reached.outcome settings session = none →
    ∃ packet, reached.packetsOf settings session = [packet] ∧ packet.ids = [] ∧
      packet.toBytes.length = Header.width

section Agreement

variable {settings : Settings} {session : SessionId} {state : State}

theorem Sound.checkAgrees (sound : state.Sound) : CheckAgrees settings session state where
  pending_iff := hasNews_iff_packetsOf sound.ordered
  window_iff := hasNews_iff_window sound.ordered
  header_only := packetsOf_of_idle sound.ordered
  numbered := by
    intro entry connected
    rcases flushed_of_connected settings sound.quiet connected with ⟨delivery, flushed⟩
    refine ⟨_, flushed.entry_eq, ?_⟩
    rw [Session.sequence_afterFlush, packetsOf_of_connected connected]
  handed_over := by
    cases connected : state.registry.find? session with
    | none =>
        rw [gainedBy_of_unknown connected]
        exact List.nil_prefix
    | some entry =>
        rw [packetsOf_of_connected connected]
        exact gained_prefix_flush sound.quiet connected
  complete := by
    intro summary succeeded
    cases connected : state.registry.find? session with
    | none =>
        rw [flush_of_unknown connected] at succeeded
        cases succeeded
    | some entry =>
        rcases flushed_of_connected settings sound.quiet connected with ⟨delivery, flushed⟩
        rw [packetsOf_of_connected connected, flatMap_ids_packetsFor]
        rw [flushed.result_eq] at succeeded
        cases refusal : delivery.refusal with
        | some error => simp [Delivery.result, refusal] at succeeded
        | none =>
            have complete := flushed.complete refusal
            simp only [Delivery.result, refusal, Except.ok.injEq] at succeeded
            rw [← succeeded, flushed.gained_eq, complete, List.take_length]
            exact ⟨rfl, rfl, rfl⟩

/-- The outcomes of a round are those of visits in states that the round comes through. -/
theorem exists_of_mem_outcomes (sound : state.Sound) {order : List SessionId}
    {outcome : Option (Except FlushError FlushSummary)}
    (outcome_mem : outcome ∈ outcomes settings state order) :
    ∃ reached : State, reached.Sound ∧
      ∃ session, reached.outcome settings session = outcome := by
  induction order generalizing state with
  | nil => cases outcome_mem
  | cons first rest ih =>
      rcases List.mem_cons.mp outcome_mem with rfl | later
      · exact ⟨state, sound, first, rfl⟩
      · exact ih (sound.visited settings first) later

/-- The packets of a flush that were handed over. -/
def packetsGained (settings : Settings) (session : SessionId) (state : State) : List Packet :=
  (state.packetsOf settings session).take (state.gainedBy settings session).length

theorem gainedBy_eq (sound : state.Sound) :
    state.gainedBy settings session =
      (state.packetsGained settings session).map Packet.toBytes := by
  have agrees : CheckAgrees settings session state := sound.checkAgrees
  rw [packetsGained, List.map_take]
  exact List.prefix_iff_eq_take.mp agrees.handed_over

theorem one_le_idsSent (sound : state.Sound) {summary : FlushSummary}
    (outcome_eq : state.outcome settings session = some (.ok summary)) : 1 ≤ summary.idsSent := by
  simp only [outcome] at outcome_eq
  split at outcome_eq
  · next news =>
      have agrees : CheckAgrees settings session state := sound.checkAgrees
      rcases agrees.complete summary (Option.some.inj outcome_eq) with ⟨_, _, ids_eq⟩
      rcases agrees.pending_iff.mp news with ⟨packet, packet_mem, some_id⟩
      rw [ids_eq, Nat.one_le_iff_ne_zero, ne_eq, List.length_eq_zero_iff, List.flatMap_eq_nil_iff]
      exact fun none_told => some_id (none_told packet packet_mem)
  · cases outcome_eq

theorem Sound.roundAgrees (sound : state.Sound) (order : List SessionId) :
    RoundAgrees settings state order where
  told := by
    intro session
    refine ⟨(flushesOf settings session state order).flatMap (packetsGained settings session),
      ?_, ?_⟩
    · rw [flushAllIn_eq, queue_round settings sound, List.map_flatMap, List.flatMap_def,
        List.flatMap_def]
      congr 2
      exact List.map_congr_left fun flushed flushed_mem =>
        gainedBy_eq (sound_of_mem_flushesOf sound flushed_mem)
    · intro packet packet_mem
      rcases List.mem_flatMap.mp packet_mem with ⟨flushed, flushed_mem, gained_mem⟩
      have soundFlushed := sound_of_mem_flushesOf sound flushed_mem
      have news := (outcome_of_mem_flushesOf flushed_mem).1
      have built := List.mem_of_mem_take gained_mem
      exact ⟨ofBytes_of_mem_packetsOf built,
        ids_ne_nil_of_hasNews soundFlushed.ordered news packet built⟩
  counted := by
    constructor
    · rw [flushAllIn_eq, RoundSummary.foldl_count]
      exact Nat.zero_add _
    · intro summary summary_mem
      rcases List.mem_filterMap.mp summary_mem with ⟨outcome, outcome_mem, sent_eq⟩
      rcases exists_of_mem_outcomes sound outcome_mem with ⟨reached, soundReached, session, rfl⟩
      exact one_le_idsSent soundReached (RoundSummary.sent?_eq_some_iff.mp sent_eq)
  passed_over := by
    intro earlier session later _ session_mem reached passed
    have soundReached : reached.Sound := sound.flushAllIn settings earlier
    have connected : reached.registry.isConnected session = true := by
      rw [Registry.isConnected_iff_mem_ids]
      simpa only [reached, flushAllIn_eq, ids_foldl_visited sound.quiet] using session_mem
    apply packetsOf_of_idle soundReached.ordered connected
    cases news : reached.hasNews settings session with
    | false => rfl
    | true => simp [outcome, news] at passed

end Agreement

end State

namespace Service

/-- In whatever state a run arrives, the check for something pending agrees with what a flush builds
there, and a dispatch round goes by it, in whatever order it visits the sessions. -/
theorem pending_check_agrees (settings : Settings) (clock : Clock) (steps : List Step) :
    let state := ((start settings clock).run steps).state
    (∀ session, State.CheckAgrees settings session state) ∧
      ∀ order, State.RoundAgrees settings state order := by
  intro state
  have sound : state.Sound := sound_run (State.sound_start clock) steps
  exact ⟨fun _ => sound.checkAgrees, sound.roundAgrees⟩

end Service

end Tombstone
