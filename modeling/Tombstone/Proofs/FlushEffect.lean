import Tombstone.Proofs.Connections
import Tombstone.Proofs.DirectoryKeys

/-!
# What a flush does

An uninterrupted flush of a connected session reads the clock once, hands over the session's packets
as far as they are taken, and changes the session's own entry in the registry. Nothing else that the
parties share is changed, and the entry's cursor moves only if every packet was taken.
-/

namespace Tombstone

/-- A session's entry after a flush that built `numbers` packets and came as far as `delivery`. -/
def Session.afterFlush (entry : Session) (numbers : Nat) (delivery : State.Delivery)
    (snapshot : Timestamp) : Session :=
  let accounted := (entry.takeNumbers numbers).account (UInt64.ofNat delivery.packets)
    (UInt64.ofNat delivery.bytes)
  match delivery.refusal with
  | some _ => accounted
  | none => accounted.moveCursor snapshot

/-- Only a flush without a refusal moves the cursor. -/
theorem Session.cursor_afterFlush (entry : Session) (numbers : Nat) (delivery : State.Delivery)
    (snapshot : Timestamp) :
    (entry.afterFlush numbers delivery snapshot).cursor =
      if delivery.refusal = none then max entry.cursor snapshot else entry.cursor := by
  cases refusal : delivery.refusal with
  | none => simp [afterFlush, refusal, moveCursor, account, takeNumbers]
  | some error => simp [afterFlush, refusal, account, takeNumbers]

namespace State

/-- What a flush of `ids` ids that came as far as `delivery` gives. -/
def Delivery.result (delivery : Delivery) (session : SessionId) (ids : Nat) (snapshot : Timestamp) :
    Except FlushError FlushSummary :=
  match delivery.refusal with
  | some error => .error (.transport session delivery.packets error)
  | none =>
      .ok
        { packetsSent := delivery.packets
          bytesSent := delivery.bytes
          idsSent := ids
          snapshot }

theorem settle_eq (state : State) (session : SessionId) (numbers : Nat) (delivery : Delivery)
    (ids : Nat) (snapshot : Timestamp) :
    ∃ journal,
      settle { state with registry := state.registry.takeNumbers session numbers } session delivery
          ids snapshot =
        (delivery.result session ids snapshot,
          { state with
            registry := state.registry.adjust session (·.afterFlush numbers delivery snapshot)
            journal }) := by
  cases refusal : delivery.refusal with
  | some error =>
      refine ⟨state.journal, ?_⟩
      simp only [settle, Delivery.result, Session.afterFlush, refusal, Registry.takeNumbers,
        Registry.account, Directory.adjust_adjust]
  | none =>
      simp only [settle, Delivery.result, Session.afterFlush, refusal, Registry.takeNumbers,
        Registry.account, Registry.moveCursor, note, Directory.adjust_adjust]
      split
      · exact ⟨_, rfl⟩
      · exact ⟨_, rfl⟩

theorem flush_of_unknown {settings : Settings} {state : State} {session : SessionId}
    (unknown : state.registry.find? session = none) :
    state.flush settings session = (.error (.unknownSession session), state) := by
  simp [flush, Registry.cursor?, unknown]

/-- What an uninterrupted flush of a connected session does, and what it gives. -/
theorem flush_of_connected (settings : Settings) {state : State} {session : SessionId}
    {entry : Session} (quiet : state.Quiet)
    (connected : state.registry.find? session = some entry) :
    let snapshot := state.clock.read.1.time
    let packets := packetsFor settings state session entry.cursor snapshot
    let ids := state.ledger.idsAfter (windowStart settings entry.cursor)
    ∃ delivery transport journal,
      Delivered state.transport transport session packets delivery ∧
      state.flush settings session =
        (delivery.result session ids.length snapshot,
          { state with
            clock := state.clock.read.2
            registry :=
              state.registry.adjust session (·.afterFlush packets.length delivery snapshot)
            transport
            journal }) := by
  intro snapshot packets ids
  rcases readClock_of_quiet quiet with ⟨readJournal, read_eq⟩
  have quietRead : Quiet
      { state with
        clock := state.clock.read.2
        journal := readJournal
        registry := state.registry.takeNumbers session packets.length } := quiet
  rcases deliver_of_quiet quietRead session packets with
    ⟨delivery, transport, delivered_eq, delivered⟩
  rcases settle_eq { state with clock := state.clock.read.2, journal := readJournal, transport }
      session packets.length delivery ids.length snapshot with
    ⟨journal, settled⟩
  refine ⟨delivery, transport, journal, delivered, ?_⟩
  have cursor : state.registry.cursor? session = some entry.cursor := by
    simp [Registry.cursor?, connected]
  rw [flush, cursor]
  simp only [read_eq]
  exact (congrArg (fun progress : Delivery × State =>
    progress.2.settle session progress.1 ids.length snapshot) delivered_eq).trans settled

/-- No queue loses anything or changes its order in a flush. -/
theorem queue_prefix_flush (settings : Settings) {state : State} (quiet : state.Quiet)
    (session other : SessionId) :
    state.transport.queue other <+: (state.flush settings session).2.transport.queue other := by
  cases connected : state.registry.find? session with
  | none => simp only [flush_of_unknown connected, List.prefix_rfl]
  | some entry =>
      rcases flush_of_connected settings quiet connected with ⟨_, _, _, delivered, flush_eq⟩
      rw [flush_eq]
      exact delivered.gained.queue_prefix other

/-- A flush changes the queue of no other session. -/
theorem queue_flush_of_ne {settings : Settings} {state : State} {session other : SessionId}
    (quiet : state.Quiet) (paired : state.transport.Paired) (different : other ≠ session) :
    (state.flush settings session).2.transport.queue other = state.transport.queue other := by
  cases connected : state.registry.find? session with
  | none => rw [flush_of_unknown connected]
  | some entry =>
      rcases flush_of_connected settings quiet connected with ⟨_, _, _, delivered, flush_eq⟩
      rw [flush_eq]
      exact delivered.gained.queue_of_ne paired different

/-- A flush connects and disconnects nobody. -/
theorem ids_flush {settings : Settings} {state : State} {session : SessionId}
    (quiet : state.Quiet) :
    (state.flush settings session).2.registry.ids = state.registry.ids := by
  cases connected : state.registry.find? session with
  | none => rw [flush_of_unknown connected]
  | some entry =>
      rcases flush_of_connected settings quiet connected with ⟨_, _, _, _, flush_eq⟩
      rw [flush_eq]
      exact Directory.keys_adjust ..

/-- No party comes to act in the middle of an operation through a flush. -/
theorem quiet_flush (settings : Settings) {state : State} (session : SessionId)
    (quiet : state.Quiet) : (state.flush settings session).2.Quiet := by
  cases connected : state.registry.find? session with
  | none =>
      rw [flush_of_unknown connected]
      exact quiet
  | some entry =>
      rcases flush_of_connected settings quiet connected with ⟨_, _, _, _, flush_eq⟩
      rw [flush_eq]
      exact quiet

end State

end Tombstone
