import Tombstone.Proofs.WindowDelivery

/-!
# How a flush fails

A flush of a session that is not connected fails at once and changes nothing. For a connected session
the result depends on where its packets come out: without a connection, or with a closed receiving
end, the first packet is refused; an open inbox takes packets until it is full. A refused flush has
handed over the packets before the refused one and accounted for them. The cursor and the ledger are
as before, so that the window is the same again.
-/

namespace Tombstone

namespace Transport

/-- A session has a connection, but no open receiving end. -/
def Severed (transport : Transport) (session : SessionId) : Prop :=
  transport.isRegistered session = true ∧
    ∀ name inbox, transport.Leads session name inbox → inbox.closed = true

/-- The connection of a session leads to an open inbox with room for so many packets. -/
def HasRoom (transport : Transport) (session : SessionId) (free : Nat) : Prop :=
  ∃ name inbox, transport.Leads session name inbox ∧ inbox.closed = false ∧
    free = inbox.capacity - inbox.waiting.length

section Outlet

variable {transport : Transport} {session : SessionId}

theorem outlet_eq_missing_iff :
    transport.outlet session = .missing ↔ transport.isRegistered session = false := by
  rw [isRegistered, Directory.contains, outlet]
  split
  · next unknown => simp [unknown]
  · next lost => simp [lost]
  · next name connection =>
      rw [connection]
      split
      · simp
      · split <;> simp

theorem outlet_eq_room_iff {free : Nat} :
    transport.outlet session = .room free ↔ transport.HasRoom session free := by
  constructor
  · intro outlet_eq
    rw [outlet] at outlet_eq
    split at outlet_eq
    · cases outlet_eq
    · cases outlet_eq
    · next name connection =>
        split at outlet_eq
        · cases outlet_eq
        · next inbox found =>
            split at outlet_eq
            · cases outlet_eq
            · next isOpen =>
                cases outlet_eq
                exact ⟨name, inbox, ⟨connection, found⟩, by simpa using isOpen, rfl⟩
  · rintro ⟨name, inbox, leads, isOpen, rfl⟩
    exact leads.outlet_eq isOpen

theorem outlet_eq_shut_iff : transport.outlet session = .shut ↔ transport.Severed session := by
  cases outlet_eq : transport.outlet session with
  | missing =>
      have unregistered := outlet_eq_missing_iff.mp outlet_eq
      simp [Severed, unregistered]
  | shut =>
      refine iff_of_true rfl ⟨?_, ?_⟩
      · cases registered : transport.isRegistered session with
        | true => rfl
        | false => simp [outlet_eq_missing_iff.mpr registered] at outlet_eq
      · intro name inbox leads
        cases isOpen : inbox.closed with
        | true => rfl
        | false => simp [leads.outlet_eq isOpen] at outlet_eq
  | room free =>
      rcases outlet_eq_room_iff.mp outlet_eq with ⟨name, inbox, leads, isOpen, _⟩
      refine iff_of_false (fun impossible => nomatch impossible) ?_
      rintro ⟨_, allClosed⟩
      rw [allClosed name inbox leads] at isOpen
      cases isOpen

end Outlet

end Transport

theorem length_flatMap_toBytes (packets : List Packet) :
    (packets.flatMap Packet.toBytes).length =
      Header.width * packets.length + EntityId.width * (packets.flatMap (·.ids)).length := by
  induction packets with
  | nil => rfl
  | cons packet rest ih =>
      simp only [List.flatMap_cons, List.length_append, List.length_cons, Packet.length_toBytes,
        Packet.size, ih, Nat.mul_add, Nat.mul_one]
      omega

namespace State

/-- The ids that a flush of a session would tell. -/
def pendingIds (settings : Settings) (state : State) (session : SessionId) :
    Option (List EntityId) :=
  (state.registry.cursor? session).map fun cursor =>
    state.ledger.idsAfter (windowStart settings cursor)

section Flush

variable {settings : Settings} {state : State} {session : SessionId} {entry : Session}

/-- How a flush fails is told by the outlet and the number of packets. -/
theorem flush_eq_error_iff (quiet : state.Quiet)
    (connected : state.registry.find? session = some entry) {error : FlushError} :
    (state.flush settings session).1 = .error error ↔
      (state.transport.outlet session).free <
          (packetsFor settings state session entry.cursor state.clock.read.1.time).length ∧
        error = .transport session (state.transport.outlet session).free
          ((state.transport.outlet session).refusal session) := by
  rcases flush_of_connected settings quiet connected with ⟨delivery, _, _, delivered, flush_eq⟩
  rcases delivered.of_outlet with ⟨packets_eq, refusal_eq⟩
  rw [flush_eq]
  split at refusal_eq
  · next fits => simp [Delivery.result, refusal_eq, Nat.not_lt.mpr fits]
  · next short =>
      rw [Nat.min_eq_left (Nat.le_of_not_le short)] at packets_eq
      simp [Delivery.result, refusal_eq, packets_eq, Nat.lt_of_not_le short, eq_comm]

theorem flush_eq_ok_iff (quiet : state.Quiet)
    (connected : state.registry.find? session = some entry) :
    (∃ summary, (state.flush settings session).1 = .ok summary) ↔
      (packetsFor settings state session entry.cursor state.clock.read.1.time).length ≤
        (state.transport.outlet session).free := by
  rcases flush_of_connected settings quiet connected with ⟨delivery, _, _, delivered, flush_eq⟩
  rcases delivered.of_outlet with ⟨_, refusal_eq⟩
  rw [flush_eq]
  split at refusal_eq
  · next fits => simp [Delivery.result, refusal_eq, fits]
  · next short => simp [Delivery.result, refusal_eq, short]

/-- What a flush of a connected session leaves behind when the packet with the number `index` of
`packets` is refused: what came before it is handed over and accounted for, the same window is
pending, and the other parties' share is as it was. -/
structure RefusedAt (settings : Settings) (before after : State) (session : SessionId)
    (entry : Session) (packets : List Packet) (window : List EntityId) (index : Nat) : Prop where
  index_lt : index < packets.length
  /-- The packets before it stand behind what waited in the session's inbox. -/
  inbox_eq : ∀ name, before.transport.connections.find? session = some (some name) →
    after.transport.inboxes.find? name =
      (before.transport.inboxes.find? name).map
        (·.push ((packets.take index).map Packet.toBytes))
  /-- They are accounted for, all numbers are taken, and the cursor is as it was. -/
  entry_eq : after.registry.find? session =
    some
      { entry with
        sequence := entry.sequence + UInt16.ofNat packets.length
        packetsSent := entry.packetsSent + UInt64.ofNat index
        bytesSent := entry.bytesSent +
          UInt64.ofNat ((packets.take index).flatMap Packet.toBytes).length }
  pending_eq : after.pendingIds settings session = some window
  ledger_eq : after.ledger = before.ledger
  ids_connected : after.registry.ids = before.registry.ids
  other_sessions : ∀ other, other ≠ session →
    after.registry.find? other = before.registry.find? other
  connections_eq : after.transport.connections = before.transport.connections
  other_inboxes : ∀ name, before.transport.connections.find? session ≠ some (some name) →
    after.transport.inboxes.find? name = before.transport.inboxes.find? name

theorem refusedAt_of_flush_eq_error (quiet : state.Quiet)
    (connected : state.registry.find? session = some entry) {named : SessionId} {index : Nat}
    {refusal : SendError}
    (refused : (state.flush settings session).1 = .error (.transport named index refusal)) :
    named = session ∧
      RefusedAt settings state (state.flush settings session).2 session entry
        (packetsFor settings state session entry.cursor state.clock.read.1.time)
        (state.ledger.idsAfter (windowStart settings entry.cursor)) index := by
  rcases flush_of_connected settings quiet connected with
    ⟨delivery, transport, journal, delivered, flush_eq⟩
  rw [flush_eq] at refused ⊢
  cases stopped : delivery.refusal with
  | none => simp [Delivery.result, stopped] at refused
  | some error =>
      obtain ⟨rfl, rfl, rfl⟩ : session = named ∧ delivery.packets = index ∧ error = refusal := by
        simpa [Delivery.result, stopped] using refused
      have gained := delivered.gained
      have bytes_eq := delivered.bytes_eq
      have taken_length := List.length_take_of_le delivered.packets_le
      rcases delivered.refused error stopped with ⟨index_lt, _⟩
      -- The ledger has not moved and the cursor neither, so neither has the window.
      refine ⟨rfl, index_lt, gained.target_eq, ?_, ?_, rfl, Directory.keys_adjust .., ?_,
        gained.connections_eq, gained.other_eq⟩
      · rw [length_flatMap_toBytes, taken_length, ← bytes_eq]
        simp [Directory.find?_adjust, connected, Session.afterFlush, stopped, Session.takeNumbers,
          Session.account]
      · simp [pendingIds, Registry.cursor?_adjust, connected, Session.cursor_afterFlush, stopped]
      · intro other different
        rw [Directory.find?_adjust, if_neg different]

/-- How a flush of a connected session ends, where `window` is pending and `packets`, as many as it
needs, carry its ids. -/
structure Classified (settings : Settings) (state : State) (session : SessionId) (entry : Session)
    (packets : List Packet) (window : List EntityId) : Prop where
  pending_eq : state.pendingIds settings session = some window
  ids_eq : packets.flatMap (·.ids) = window
  packets_length : packets.length = settings.capacity.packetCount window.length
  /-- Just without a connection, the first packet is refused because there is none. -/
  missing_iff : ∀ index,
    (state.flush settings session).1 =
        .error (.transport session index (.unknownSession session)) ↔
      index = 0 ∧ state.transport.isRegistered session = false
  /-- Just if the receiving end is closed or gone, the first packet is refused for that. -/
  severed_iff : ∀ index,
    (state.flush settings session).1 = .error (.transport session index (.closed session)) ↔
      index = 0 ∧ state.transport.Severed session
  /-- Just if an open inbox has room for too few packets, the first that it has no room for is
  refused. -/
  full_iff : ∀ index,
    (state.flush settings session).1 = .error (.transport session index (.queueFull session)) ↔
      state.transport.HasRoom session index ∧ index < packets.length
  /-- Just if it has room for all, the flush succeeds. -/
  ok_iff : (∃ summary, (state.flush settings session).1 = .ok summary) ↔
    ∃ free, state.transport.HasRoom session free ∧ packets.length ≤ free
  /-- These are all cases. -/
  exhaustive : state.transport.isRegistered session = false ∨ state.transport.Severed session ∨
    ∃ free, state.transport.HasRoom session free
  /-- Every refusal leaves the same behind. -/
  refused : ∀ named index refusal,
    (state.flush settings session).1 = .error (.transport named index refusal) →
      named = session ∧
        RefusedAt settings state (state.flush settings session).2 session entry packets window index

theorem classified_of_connected (quiet : state.Quiet)
    (connected : state.registry.find? session = some entry) :
    Classified settings state session entry
      (packetsFor settings state session entry.cursor state.clock.read.1.time)
      (state.ledger.idsAfter (windowStart settings entry.cursor)) := by
  -- There is always a packet, so where nothing is taken the first one is refused.
  have some_packet : (packetsFor settings state session entry.cursor
      state.clock.read.1.time).length ≠ 0 := by
    rw [length_packetsFor]
    exact Nat.ne_of_gt (Capacity.packetCount_pos ..)
  refine
    { pending_eq := ?_
      ids_eq := flatMap_ids_packetsFor
      packets_length := length_packetsFor
      missing_iff := fun index => ?_
      severed_iff := fun index => ?_
      full_iff := fun index => ?_
      ok_iff := ?_
      exhaustive := ?_
      refused := fun named index refusal => refusedAt_of_flush_eq_error quiet connected }
  · simp [pendingIds, Registry.cursor?, connected]
  · rw [flush_eq_error_iff quiet connected, ← Transport.outlet_eq_missing_iff]
    cases state.transport.outlet session <;>
      simp [Transport.Outlet.free, Transport.Outlet.refusal, Nat.pos_of_ne_zero some_packet]
  · rw [flush_eq_error_iff quiet connected, ← Transport.outlet_eq_shut_iff]
    cases state.transport.outlet session <;>
      simp [Transport.Outlet.free, Transport.Outlet.refusal, Nat.pos_of_ne_zero some_packet]
  · rw [flush_eq_error_iff quiet connected, ← Transport.outlet_eq_room_iff]
    cases state.transport.outlet session <;>
      simp [Transport.Outlet.free, Transport.Outlet.refusal]
    omega
  · rw [flush_eq_ok_iff quiet connected]
    simp only [← Transport.outlet_eq_room_iff]
    cases state.transport.outlet session <;>
      simp [Transport.Outlet.free, some_packet]
  · simp only [← Transport.outlet_eq_missing_iff, ← Transport.outlet_eq_shut_iff,
      ← Transport.outlet_eq_room_iff]
    cases state.transport.outlet session <;> simp

end Flush

/-- A flush fails for want of a session just if the session is not connected, and then changes
nothing. How it ends for a connected session is told by the session's connection and the number of
packets, and a refusal leaves the cursor, and with it the window, as it was. -/
theorem flush_refusal_classified (settings : Settings) (state : State) (session : SessionId)
    (quiet : state.Quiet) :
    (∀ named, (state.flush settings session).1 = .error (.unknownSession named) ↔
      named = session ∧ state.registry.isConnected session = false) ∧
    (state.registry.isConnected session = false →
      (state.flush settings session).2 = state) ∧
    ∀ entry, state.registry.find? session = some entry →
      Classified settings state session entry
        (packetsFor settings state session entry.cursor state.clock.read.1.time)
        (state.ledger.idsAfter (windowStart settings entry.cursor)) := by
  cases found : state.registry.find? session with
  | none =>
      have isConnected : state.registry.isConnected session = false := by
        simp [Registry.isConnected, Directory.contains, found]
      rw [flush_of_unknown found]
      refine ⟨fun named => ?_, fun _ => rfl, ?_⟩
      · simp [isConnected, eq_comm]
      · rintro _ ⟨⟩
  | some entry =>
      have isConnected : state.registry.isConnected session = true := by
        simp [Registry.isConnected, Directory.contains, found]
      refine ⟨fun named => ?_, fun unconnected => ?_, ?_⟩
      · rw [flush_eq_error_iff quiet found]
        simp [isConnected]
      · rw [isConnected] at unconnected
        cases unconnected
      · rintro _ ⟨⟩
        exact classified_of_connected quiet found

/-- The inbox has room for one of two packets. -/
theorem flush_refusal_second :
    let viewer : SessionId := ⟨"viewer"⟩
    let actions : List Action :=
      [.attach viewer ⟨100⟩ ⟨10⟩, .register viewer 2 "viewer", .send viewer [0],
        .record (.ofNat 1) ⟨50⟩, .record (.ofNat 2) ⟨60⟩, .record (.ofNat 3) ⟨70⟩]
    let state := actions.foldl perform { clock := .manual .monotonic ⟨100⟩ }
    let entry : Session := { attachedAt := ⟨100⟩, cursor := ⟨10⟩ }
    let packets := packetsFor .pairs state viewer entry.cursor state.clock.read.1.time
    let window := state.ledger.idsAfter (windowStart .pairs entry.cursor)
    state.Quiet ∧ state.registry.find? viewer = some entry ∧
      state.transport.HasRoom viewer 1 ∧ packets.length = 2 ∧
      Classified .pairs state viewer entry packets window ∧
      (state.flush .pairs viewer).1 = .error (.transport viewer 1 (.queueFull viewer)) ∧
      RefusedAt .pairs state (state.flush .pairs viewer).2 viewer entry packets window 1 := by
  intro viewer actions state entry packets window
  have quiet : state.Quiet := rfl
  have connected : state.registry.find? viewer = some entry := rfl
  have room : state.transport.HasRoom viewer 1 := ⟨"viewer", _, ⟨rfl, rfl⟩, rfl, rfl⟩
  have packets_length : packets.length = 2 := by decide +kernel
  have classified := (flush_refusal_classified .pairs state viewer quiet).2.2 entry connected
  have refused := (classified.full_iff 1).mpr
    ⟨room, Nat.lt_of_lt_of_eq Nat.one_lt_two packets_length.symm⟩
  exact ⟨quiet, connected, room, packets_length, classified, refused,
    (classified.refused _ _ _ refused).2⟩

end State

end Tombstone
