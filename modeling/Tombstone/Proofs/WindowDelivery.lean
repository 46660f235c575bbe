import Tombstone.Proofs.CursorMoves
import Tombstone.Proofs.LedgerOrder
import Tombstone.Proofs.PacketRoundTrip

/-!
# A flush delivers the window

A session's window are the records held that were deleted after its cursor less the skew tolerance.
A successful flush puts packets into the session's inbox from which the receiver reads exactly the
ids of the window, in the order of the records. Apart from that only the session's own entry and the
clock are touched.
-/

namespace Tombstone

/-- Settings by which two ids fill a packet and a window starts ten microseconds early. -/
def Settings.pairs : Settings where
  config := { skewTolerance := 10, maxPacketBytes := 45 }
  capacity := ⟨45, by decide, by decide⟩
  capacity_bytes := rfl
  skewTolerance_ne_zero := by decide
  dispatchInterval_ne_zero := by decide
  pruneInterval_ne_zero := by decide

/-- A receiver reads in some bytes a packet that has an id. -/
def Tells (bytes : Bytes) (id : EntityId) : Prop :=
  ∃ packet, Packet.ofBytes bytes = .ok packet ∧ id ∈ packet.ids

namespace State

theorem windowStart_lt_iff {settings : Settings} {cursor time : Timestamp} :
    windowStart settings cursor < time ↔ cursor.toNat - settings.skewTolerance < time.toNat := by
  rw [windowStart, Timestamp.lt_iff, Timestamp.toNat_rewind]

/-- What is stamped at a cursor or later is in the window, except for the very first instant. -/
theorem windowStart_lt_of_le {settings : Settings} {cursor time : Timestamp}
    (positive : Timestamp.zero < time) (not_before : cursor ≤ time) :
    windowStart settings cursor < time := by
  have tolerance : settings.skewTolerance ≠ 0 := fun zero =>
    settings.skewTolerance_ne_zero (UInt64.toNat_inj.mp zero)
  rw [Timestamp.lt_iff, Timestamp.toNat_zero] at positive
  rw [Timestamp.le_iff] at not_before
  rw [windowStart_lt_iff]
  omega

section Packets

variable {settings : Settings} {state : State} {session : SessionId} {cursor snapshot : Timestamp}

/-- A packet that a flush builds fits the configured size and is read back from its bytes. -/
theorem mem_packetsFor {packet : Packet}
    (packet_mem : packet ∈ packetsFor settings state session cursor snapshot) :
    Packet.ofBytes packet.toBytes = .ok packet ∧
      packet.header.flags = settings.config.packetFlags ∧ packet.header.sentAt = snapshot ∧
      packet.toBytes.length ≤ settings.config.maxPacketBytes.toNat := by
  have packed := Capacity.packed_of_mem_pack packet_mem
  refine ⟨Packet.ofBytes_toBytes packed.count_eq, packed.flags_eq, packed.sentAt_eq, ?_⟩
  rw [Packet.length_toBytes, ← settings.capacity_bytes]
  exact packed.size_le

theorem length_packetsFor :
    (packetsFor settings state session cursor snapshot).length =
      settings.capacity.packetCount
        (state.ledger.idsAfter (windowStart settings cursor)).length :=
  Capacity.length_pack

theorem flatMap_ids_packetsFor :
    (packetsFor settings state session cursor snapshot).flatMap (·.ids) =
      state.ledger.idsAfter (windowStart settings cursor) :=
  Capacity.flatMap_ids_pack

/-- Every id of the window is in one of the packets. -/
theorem exists_mem_packetsFor {id : EntityId}
    (pending : id ∈ state.ledger.idsAfter (windowStart settings cursor)) :
    ∃ packet ∈ packetsFor settings state session cursor snapshot, id ∈ packet.ids := by
  rw [← flatMap_ids_packetsFor] at pending
  exact List.mem_flatMap.mp pending

end Packets

/-- The inbox into which a successful flush put its packets, and the delivery behind it. -/
theorem flush_ok {settings : Settings} {state : State} {session : SessionId} {entry : Session}
    {summary : FlushSummary} (quiet : state.Quiet)
    (connected : state.registry.find? session = some entry)
    (succeeded : (state.flush settings session).1 = .ok summary) :
    let snapshot := state.clock.read.1.time
    let packets := packetsFor settings state session entry.cursor snapshot
    ∃ delivery transport journal name inbox,
      delivery.refusal = none ∧ delivery.packets = packets.length ∧
      delivery.bytes = Header.width * packets.length +
        EntityId.width * (state.ledger.idsAfter (windowStart settings entry.cursor)).length ∧
      state.transport.Leads session name inbox ∧
      state.transport.Gained transport session (packets.map Packet.toBytes) ∧
      summary =
        { packetsSent := delivery.packets
          bytesSent := delivery.bytes
          idsSent := (state.ledger.idsAfter (windowStart settings entry.cursor)).length
          snapshot } ∧
      (state.flush settings session).2 =
        { state with
          clock := state.clock.read.2
          registry := state.registry.adjust session (·.afterFlush packets.length delivery snapshot)
          transport
          journal } := by
  intro snapshot packets
  rcases flush_of_connected settings quiet connected with
    ⟨delivery, transport, journal, delivered, flush_eq⟩
  rw [flush_eq] at succeeded ⊢
  cases refusal : delivery.refusal with
  | some error => simp [Delivery.result, refusal] at succeeded
  | none =>
      -- There is always a packet, so there was an inbox with room.
      have some_packet : 0 < packets.length := by
        rw [length_packetsFor]
        exact Capacity.packetCount_pos ..
      rcases delivered.of_complete refusal some_packet with ⟨complete, ⟨name, inbox, leads⟩, gained⟩
      have bytes := delivered.bytes_eq
      rw [List.take_of_length_le (Nat.le_of_eq complete.symm), flatMap_ids_packetsFor, complete]
        at bytes
      refine ⟨delivery, transport, journal, name, inbox, refusal, complete, bytes, leads, gained,
        ?_, rfl⟩
      simpa [Delivery.result, refusal] using succeeded.symm

/-- The packets by which the queue of a session is longer than before. -/
def gained (before after : State) (session : SessionId) : List Bytes :=
  (after.transport.queue session).drop (before.transport.queue session).length

theorem gained_append {before middle after : State} {session : SessionId}
    (first : before.transport.queue session <+: middle.transport.queue session)
    (later : middle.transport.queue session <+: after.transport.queue session) :
    before.gained after session = before.gained middle session ++ middle.gained after session := by
  rcases first with ⟨front, middle_eq⟩
  rcases later with ⟨rest, after_eq⟩
  simp only [gained, ← after_eq, ← middle_eq, List.append_assoc, List.drop_left]
  rw [← List.append_assoc, List.drop_left]

/-- What a flush puts into the queue of its session is a front of the packets that it builds. -/
theorem gained_prefix_flush {settings : Settings} {state : State} {session : SessionId}
    {entry : Session} (quiet : state.Quiet)
    (connected : state.registry.find? session = some entry) :
    state.gained (state.flush settings session).2 session <+:
      (packetsFor settings state session entry.cursor state.clock.read.1.time).map
        Packet.toBytes := by
  rcases flush_of_connected settings quiet connected with ⟨_, _, _, delivered, flush_eq⟩
  rw [gained, flush_eq]
  rcases delivered.gained.queue_cases with same | longer
  · simp [same]
  · simpa [longer] using (List.take_prefix _ _).map Packet.toBytes

/-- Whether or not a flush succeeds, its packets carry the ids of the window, and no others come into
the queue. -/
theorem flush_sends_window (settings : Settings) {state : State} {session : SessionId}
    {cursor : Timestamp} (quiet : state.Quiet) (ordered : state.ledger.Ordered)
    (found : state.registry.cursor? session = some cursor) :
    let packets := packetsFor settings state session cursor state.clock.read.1.time
    state.gained (state.flush settings session).2 session <+: packets.map Packet.toBytes ∧
      ∃ window : List Record, packets.flatMap (·.ids) = window.map (·.id) ∧
        ∀ record ∈ window, state.ledger.holds record.id record.deletedAt = true ∧
          cursor.toNat - settings.skewTolerance < record.deletedAt.toNat := by
  intro packets
  rcases Option.map_eq_some_iff.mp found with ⟨entry, connected, rfl⟩
  refine ⟨gained_prefix_flush quiet connected,
    state.ledger.recordsAfter (windowStart settings entry.cursor),
    flatMap_ids_packetsFor.trans (Ledger.idsAfter_eq_map ..), ?_⟩
  intro record record_mem
  rcases ordered.mem_recordsAfter.mp record_mem with ⟨held, later⟩
  exact ⟨Ledger.holds_iff_mem_records.mpr held, windowStart_lt_iff.mp later⟩

/-- A successful flush tells the session every id of its window. -/
theorem flush_tells {settings : Settings} {state : State} {session : SessionId} {entry : Session}
    {summary : FlushSummary} {id : EntityId} (quiet : state.Quiet)
    (connected : state.registry.find? session = some entry)
    (succeeded : (state.flush settings session).1 = .ok summary)
    (pending : id ∈ state.ledger.idsAfter (windowStart settings entry.cursor)) :
    ∃ bytes ∈ state.gained (state.flush settings session).2 session, Tells bytes id := by
  rcases flush_ok quiet connected succeeded with
    ⟨_, transport, _, _, _, _, _, _, leads, gained_eq, _, after_eq⟩
  rcases exists_mem_packetsFor pending with ⟨packet, packet_mem, id_mem⟩
  refine ⟨packet.toBytes, ?_, packet, (mem_packetsFor packet_mem).1, id_mem⟩
  rw [after_eq, gained, gained_eq.queue_eq leads, List.drop_left]
  exact List.mem_map_of_mem packet_mem

/-- What a successful flush has brought about: `sent` came into the inbox `name` of the session,
which the receiver reads as `packets` with the ids of `window`. -/
structure WindowDelivered (settings : Settings) (before after : State) (session : SessionId)
    (entry : Session) (summary : FlushSummary) (name : InboxName) (inbox : Inbox)
    (sent : List Bytes) (packets : List Packet) (window : List Record) : Prop where
  /-- The session's connection leads to the inbox. -/
  leads : before.transport.Leads session name inbox
  /-- The packets stand behind what waited in the inbox. -/
  inbox_eq : after.transport.inboxes.find? name = some (inbox.push sent)
  /-- All of them can be read. -/
  decoded : sent.map Packet.ofBytes = packets.map .ok
  /-- Each has the configured flags. -/
  flags_eq : ∀ packet ∈ packets, packet.header.flags = settings.config.packetFlags
  /-- Each has the time of the clock's reading. -/
  sentAt_eq : ∀ packet ∈ packets, packet.header.sentAt = before.clock.read.1.time
  /-- Each fits the configured size. -/
  length_le : ∀ bytes ∈ sent, bytes.length ≤ settings.config.maxPacketBytes.toNat
  /-- The records of the window ascend by time and id, each listed once. -/
  window_ascends : window.Pairwise Record.Before
  /-- They are the records held that were deleted after the cursor less the skew tolerance. -/
  window_exact : ∀ record, record ∈ window ↔
    before.ledger.holds record.id record.deletedAt = true ∧
      entry.cursor.toNat - settings.skewTolerance < record.deletedAt.toNat
  /-- The packets carry their ids in the same order. -/
  ids_eq : packets.flatMap (·.ids) = window.map (·.id)
  /-- The numbers that the flush gives. -/
  summary_eq : summary =
    { packetsSent := settings.capacity.packetCount window.length
      bytesSent := 13 * settings.capacity.packetCount window.length + 16 * window.length
      idsSent := window.length
      snapshot := before.clock.read.1.time }
  /-- As many packets were sent as these numbers say. -/
  sent_length : sent.length = settings.capacity.packetCount window.length
  /-- The cursor has moved to the clock's reading, unless it was ahead of it. -/
  cursor_eq : after.registry.cursor? session = some (max entry.cursor before.clock.read.1.time)
  /-- The same sessions are connected. -/
  ids_connected : after.registry.ids = before.registry.ids
  /-- The other sessions are as they were. -/
  other_sessions : ∀ other, other ≠ session →
    after.registry.find? other = before.registry.find? other
  /-- The ledger is as it was. -/
  ledger_eq : after.ledger = before.ledger
  /-- The connections are as they were. -/
  connections_eq : after.transport.connections = before.transport.connections
  /-- The other inboxes are as they were. -/
  other_inboxes : ∀ other, other ≠ name →
    after.transport.inboxes.find? other = before.transport.inboxes.find? other

/-- A successful flush delivers exactly the window, whatever changes the ledger has gone through and
whatever the clock shows. -/
theorem flush_delivers_window (settings : Settings) (changes : List Ledger.Change) (state : State)
    (session : SessionId) (entry : Session) (summary : FlushSummary)
    (built : state.ledger = .ofChanges changes) (quiet : state.Quiet)
    (connected : state.registry.find? session = some entry)
    (succeeded : (state.flush settings session).1 = .ok summary) :
    ∃ name inbox sent packets window,
      WindowDelivered settings state (state.flush settings session).2 session entry summary name
        inbox sent packets window := by
  rcases flush_ok quiet connected succeeded with
    ⟨delivery, transport, journal, name, inbox, refusal, complete, bytes_eq, leads, gained,
     summary_eq, after_eq⟩
  have ordered : state.ledger.Ordered := built ▸ Ledger.ordered_ofChanges changes
  have ids_eq := Ledger.idsAfter_eq_map state.ledger (windowStart settings entry.cursor)
  have ids_length : (state.ledger.idsAfter (windowStart settings entry.cursor)).length =
      (state.ledger.recordsAfter (windowStart settings entry.cursor)).length := by
    rw [ids_eq, List.length_map]
  have packets_length := complete.trans length_packetsFor
  let packets := packetsFor settings state session entry.cursor state.clock.read.1.time
  rw [after_eq]
  refine ⟨name, inbox, packets.map Packet.toBytes, packets,
    state.ledger.recordsAfter (windowStart settings entry.cursor),
    { leads
      inbox_eq := (gained.leads leads).inbox_found
      decoded := ?_
      flags_eq := fun packet packet_mem => (mem_packetsFor packet_mem).2.1
      sentAt_eq := fun packet packet_mem => (mem_packetsFor packet_mem).2.2.1
      length_le := ?_
      window_ascends := ordered.pairwise_recordsAfter _
      window_exact := ?_
      ids_eq := flatMap_ids_packetsFor.trans ids_eq
      summary_eq := ?_
      sent_length := ?_
      cursor_eq := ?_
      ids_connected := Directory.keys_adjust ..
      other_sessions := ?_
      ledger_eq := rfl
      connections_eq := gained.connections_eq
      other_inboxes := ?_ }⟩
  · rw [List.map_map]
    exact List.map_congr_left fun packet packet_mem => (mem_packetsFor packet_mem).1
  · intro bytes bytes_mem
    rcases List.mem_map.mp bytes_mem with ⟨packet, packet_mem, rfl⟩
    exact (mem_packetsFor packet_mem).2.2.2
  · intro record
    rw [ordered.mem_recordsAfter, windowStart_lt_iff, Ledger.holds_iff_mem_records]
  · rw [summary_eq, bytes_eq, packets_length, length_packetsFor, ids_length]
    rfl
  · rw [List.length_map, length_packetsFor, ids_length]
  · simp [Registry.cursor?_adjust, connected, Session.cursor_afterFlush, refusal]
  · intro other different
    rw [Directory.find?_adjust, if_neg different]
  · intro other different
    apply gained.other_eq
    rw [leads.connection]
    intro same
    exact different (Option.some.inj (Option.some.inj same)).symm

/-- Of five records that were made, one is pruned and one lies before the window. -/
theorem flush_delivers_three :
    let viewer : SessionId := ⟨"viewer"⟩
    let changes : List Ledger.Change :=
      [.record (.ofNat 7) ⟨95⟩, .record (.ofNat 4) ⟨110⟩, .record (.ofNat 8) ⟨40⟩,
        .record (.ofNat 3) ⟨95⟩, .prune ⟨50⟩, .record (.ofNat 9) ⟨90⟩]
    let state : State :=
      { ledger := .ofChanges changes
        registry := Registry.attach {} viewer ⟨60⟩ ⟨100⟩
        transport := Transport.register {} viewer 4 "viewer"
        clock := .manual .direct ⟨120⟩ }
    let summary : FlushSummary :=
      { packetsSent := 2, bytesSent := 74, idsSent := 3, snapshot := ⟨120⟩ }
    (state.flush .pairs viewer).1 = .ok summary ∧
      ∃ name inbox sent packets window,
        WindowDelivered .pairs state (state.flush .pairs viewer).2 viewer
          { attachedAt := ⟨60⟩, cursor := ⟨100⟩ } summary name inbox sent packets window := by
  intro viewer changes state summary
  have told : (state.flush .pairs viewer).1.toOption = some summary := by decide +kernel
  have succeeded : (state.flush .pairs viewer).1 = .ok summary := by
    cases result : (state.flush .pairs viewer).1 with
    | ok given => simpa [result, Except.toOption] using told
    | error error => simp [result, Except.toOption] at told
  exact ⟨succeeded,
    flush_delivers_window .pairs changes state viewer _ summary rfl rfl rfl succeeded⟩

end State

end Tombstone
