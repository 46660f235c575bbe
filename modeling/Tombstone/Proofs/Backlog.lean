import Tombstone.Proofs.WindowDelivery

/-!
# What repeated flushes do to a backlog

Suppose that nothing happens but exchanges: a session is flushed, and its receiver takes all that
waits. If the packets of the session's window fit the queue, the first exchange delivers the whole
window. Otherwise the flush is refused when the queue is full, and since the cursor stays, the next
flush starts with the same ids, in packets with new numbers and a new time: every exchange delivers
as many packets as the queue takes, they carry the same front of the window, and what lies behind it
is never received.
-/

namespace Tombstone

/-- The ids that a receiver reads in some bytes; none if they are not a packet. -/
def readIds (bytes : Bytes) : List EntityId :=
  match Packet.ofBytes bytes with
  | .ok packet => packet.ids
  | .error _ => []

/-- What a flush gives, and what the receiver takes after it. -/
structure Exchange where
  result : Except FlushError FlushSummary
  received : List Bytes

/-- The ids that the receiver reads. -/
def Exchange.ids (exchange : Exchange) : List EntityId := exchange.received.flatMap readIds

namespace State

/-- Puts the hand of the clock to a time, if one is given. -/
def moveHand (state : State) : Option Timestamp → State
  | none => state
  | some time => state.perform (.setClock time)

/-- Flushes a session, possibly after its clock was moved, and takes all that waits in an inbox. -/
def exchange (settings : Settings) (state : State) (session : SessionId) (name : InboxName)
    (hand : Option Timestamp) : Exchange × State :=
  let (result, flushed) := (state.moveHand hand).flush settings session
  ({ result, received := flushed.transport.waiting name }, flushed.perform (.drain name))

/-- Exchanges one after the other, each after a move of the clock's hand. -/
def exchanges (settings : Settings) (session : SessionId) (name : InboxName) :
    State → List (Option Timestamp) → List Exchange
  | _, [] => []
  | state, hand :: later =>
      let (exchange, state) := state.exchange settings session name hand
      exchange :: exchanges settings session name state later

/-- A session is connected at a cursor, its connection leads to an open inbox in which nothing
waits, and no other party is about to act in the middle of an operation. -/
structure Ready (state : State) (session : SessionId) (cursor : Timestamp) (name : InboxName)
    (inbox : Inbox) : Prop where
  quiet : state.Quiet
  cursor_eq : state.registry.cursor? session = some cursor
  leads : state.transport.Leads session name inbox
  isOpen : inbox.closed = false
  empty : inbox.waiting = []

section Exchange

variable {settings : Settings} {state : State} {session : SessionId} {cursor : Timestamp}
  {name : InboxName} {inbox : Inbox}

theorem Ready.moveHand (ready : state.Ready session cursor name inbox) (hand : Option Timestamp) :
    (state.moveHand hand).Ready session cursor name inbox := by
  cases hand with
  | none => exact ready
  | some time => exact ⟨ready.quiet, ready.cursor_eq, ready.leads, ready.isOpen, ready.empty⟩

theorem ledger_moveHand (state : State) (hand : Option Timestamp) :
    (state.moveHand hand).ledger = state.ledger := by
  cases hand <;> rfl

/-- A receiver reads in the first packets of a flush a front of the window. -/
theorem flatMap_readIds_take_packetsFor (snapshot : Timestamp) (count : Nat) :
    (((packetsFor settings state session cursor snapshot).take count).map
        Packet.toBytes).flatMap readIds =
      (state.ledger.idsAfter (windowStart settings cursor)).take
        (count * settings.capacity.idLimit) := by
  have read : ∀ packet ∈ (packetsFor settings state session cursor snapshot).take count,
      readIds packet.toBytes = packet.ids := by
    intro packet packet_mem
    rw [readIds, (mem_packetsFor (List.mem_of_mem_take packet_mem)).1]
  rw [List.flatMap_map, List.flatMap_def, List.map_congr_left read, ← List.flatMap_def]
  exact Capacity.flatMap_ids_take_pack count

/-- A flush delivers as many packets of the window as the inbox takes, and meets a full queue if
these are not all. -/
theorem Ready.flush (ready : state.Ready session cursor name inbox) (settings : Settings) :
    let needed :=
      settings.capacity.packetCount (state.ledger.idsAfter (windowStart settings cursor)).length
    ∃ delivery transport journal ids snapshot,
      delivery.packets = min inbox.capacity needed ∧
      delivery.refusal = (if needed ≤ inbox.capacity then none else some (.queueFull session)) ∧
      transport.Leads session name
        (inbox.push (((packetsFor settings state session cursor snapshot).take
          delivery.packets).map Packet.toBytes)) ∧
      state.flush settings session =
        (delivery.result session ids snapshot,
          { state with
            clock := state.clock.read.2
            registry := state.registry.adjust session (·.afterFlush needed delivery snapshot)
            transport
            journal }) := by
  intro needed
  rcases Option.map_eq_some_iff.mp ready.cursor_eq with ⟨entry, connected, rfl⟩
  rcases flush_of_connected settings ready.quiet connected with
    ⟨delivery, transport, journal, delivered, flush_eq⟩
  rcases delivered.of_outlet with ⟨packets_eq, refusal_eq⟩
  rw [ready.leads.outlet_eq ready.isOpen, ready.empty] at packets_eq refusal_eq
  rw [length_packetsFor] at packets_eq refusal_eq flush_eq
  simp only [Transport.Outlet.free, Transport.Outlet.refusal, List.length_nil, Nat.sub_zero]
    at packets_eq refusal_eq
  exact ⟨delivery, transport, journal, _, _, packets_eq, refusal_eq,
    delivered.gained.leads ready.leads, flush_eq⟩

/-- An exchange delivers as many packets of the window as the inbox takes. If these are all, the
flush succeeds; otherwise it meets a full queue, and the session is as ready as before. -/
theorem Ready.exchange (ready : state.Ready session cursor name inbox) (settings : Settings)
    (hand : Option Timestamp) :
    let window := state.ledger.idsAfter (windowStart settings cursor)
    let needed := settings.capacity.packetCount window.length
    let outcome := state.exchange settings session name hand
    outcome.1.received.length = min inbox.capacity needed ∧
      outcome.1.ids = window.take (min inbox.capacity needed * settings.capacity.idLimit) ∧
      (needed ≤ inbox.capacity → ∃ summary, outcome.1.result = .ok summary) ∧
      (inbox.capacity < needed →
        outcome.1.result = .error (.transport session inbox.capacity (.queueFull session)) ∧
          outcome.2.Ready session cursor name inbox ∧ outcome.2.ledger = state.ledger) := by
  intro window needed
  have moved := ready.moveHand hand
  have ledger_eq := ledger_moveHand state hand
  rcases moved.flush settings with
    ⟨delivery, transport, journal, ids, snapshot, packets_eq, refusal_eq, leads, flush_eq⟩
  rw [ledger_eq] at packets_eq refusal_eq
  have waiting_eq := leads.waiting_eq
  simp only [Inbox.push, ready.empty, List.nil_append] at waiting_eq
  simp only [State.exchange, flush_eq]
  refine ⟨?_, ?_, fun fits => ?_, fun short => ⟨?_, ?_, ledger_eq⟩⟩
  · rw [waiting_eq, List.length_map, List.length_take, length_packetsFor, packets_eq, ledger_eq]
    exact Nat.min_eq_left (Nat.min_le_right _ _)
  · rw [Exchange.ids, waiting_eq, flatMap_readIds_take_packetsFor, packets_eq, ledger_eq]
  · rw [if_pos fits] at refusal_eq
    exact ⟨_, by rw [Delivery.result, refusal_eq]⟩
  · rw [if_neg (Nat.not_le.mpr short)] at refusal_eq
    rw [Nat.min_eq_left (Nat.le_of_lt short)] at packets_eq
    rw [Delivery.result, refusal_eq, packets_eq]
  · rw [if_neg (Nat.not_le.mpr short)] at refusal_eq
    refine ⟨moved.quiet, ?_, ⟨leads.connection, ?_⟩, ready.isOpen, ready.empty⟩
    · refine (Registry.cursor?_adjust_of_kept ?_ session).trans moved.cursor_eq
      intro entry
      simp [Session.cursor_afterFlush, refusal_eq]
    · simp only [State.perform, Transport.drain, Directory.find?_adjust, leads.inbox_found, if_true,
        Option.map_some, Inbox.push, ← ready.empty]

/-- Against a queue that is too short for the window, every exchange goes as the first one. -/
theorem Ready.exchanges_of_short (ready : state.Ready session cursor name inbox)
    (short : inbox.capacity < settings.capacity.packetCount
      (state.ledger.idsAfter (windowStart settings cursor)).length)
    (hands : List (Option Timestamp)) :
    ∀ outcome ∈ exchanges settings session name state hands,
      outcome.result = .error (.transport session inbox.capacity (.queueFull session)) ∧
        outcome.received.length = inbox.capacity ∧
        outcome.ids = (state.ledger.idsAfter (windowStart settings cursor)).take
          (inbox.capacity * settings.capacity.idLimit) := by
  induction hands generalizing state with
  | nil =>
      intro outcome outcome_mem
      cases outcome_mem
  | cons hand later ih =>
      rcases ready.exchange settings hand with ⟨length_eq, ids_eq, _, refused⟩
      rcases refused short with ⟨result_eq, readyAfter, ledger_eq⟩
      rw [Nat.min_eq_left (Nat.le_of_lt short)] at length_eq ids_eq
      refine List.forall_mem_cons.mpr ⟨⟨result_eq, length_eq, ids_eq⟩, ?_⟩
      rw [← ledger_eq] at short ⊢
      exact ih readyAfter short

end Exchange

/-- If the packets of a ready session's window fit its inbox, the first exchange delivers them all.
If they do not, every exchange fails at the first packet too many and delivers as many packets as
the inbox takes, which carry the same front of the window, so the whole window is received, however
many exchanges there are, just if the front has all of its ids. -/
theorem exchanges_of_ready (settings : Settings) (state : State) (session : SessionId)
    (cursor : Timestamp) (name : InboxName) (inbox : Inbox) (hand : Option Timestamp)
    (later : List (Option Timestamp)) (ready : state.Ready session cursor name inbox) :
    let window := state.ledger.idsAfter (windowStart settings cursor)
    let needed := settings.capacity.packetCount window.length
    let front := window.take (inbox.capacity * settings.capacity.idLimit)
    let outcomes := exchanges settings session name state (hand :: later)
    (needed ≤ inbox.capacity → ∃ first, outcomes.head? = some first ∧
      (∃ summary, first.result = .ok summary) ∧ first.received.length = needed ∧
        first.ids = window) ∧
    (inbox.capacity < needed → ∀ outcome ∈ outcomes,
      outcome.result = .error (.transport session inbox.capacity (.queueFull session)) ∧
        outcome.received.length = inbox.capacity ∧ outcome.ids = front) ∧
    ((∀ id ∈ window, ∃ outcome ∈ outcomes, id ∈ outcome.ids) ↔
      needed ≤ inbox.capacity ∨ ∀ id ∈ window, id ∈ front) := by
  intro window needed front outcomes
  have fitting : needed ≤ inbox.capacity → ∃ first, outcomes.head? = some first ∧
      (∃ summary, first.result = .ok summary) ∧ first.received.length = needed ∧
        first.ids = window := by
    intro fits
    rcases ready.exchange settings hand with ⟨length_eq, ids_eq, succeeds, _⟩
    rw [Nat.min_eq_right fits] at length_eq ids_eq
    refine ⟨_, rfl, succeeds fits, length_eq, ids_eq.trans ?_⟩
    exact List.take_of_length_le (settings.capacity.length_le_packetCount_mul window.length)
  have failing : inbox.capacity < needed → ∀ outcome ∈ outcomes,
      outcome.result = .error (.transport session inbox.capacity (.queueFull session)) ∧
        outcome.received.length = inbox.capacity ∧ outcome.ids = front :=
    fun short => ready.exchanges_of_short short (hand :: later)
  refine ⟨fitting, failing, fun received => ?_, ?_⟩
  · by_cases fits : needed ≤ inbox.capacity
    · exact Or.inl fits
    · right
      intro id id_mem
      rcases received id id_mem with ⟨outcome, outcome_mem, inOutcome⟩
      exact (failing (Nat.lt_of_not_le fits) outcome outcome_mem).2.2 ▸ inOutcome
  · intro enough id id_mem
    by_cases fits : needed ≤ inbox.capacity
    · rcases fitting fits with ⟨first, head_eq, _, _, ids_eq⟩
      exact ⟨first, List.mem_of_head? head_eq, ids_eq ▸ id_mem⟩
    · have inFront := (enough.resolve_left fits) id id_mem
      have first_mem : (state.exchange settings session name hand).1 ∈ outcomes :=
        List.mem_cons_self
      exact ⟨_, first_mem, (failing (Nat.lt_of_not_le fits) _ first_mem).2.2 ▸ inFront⟩

/-- Three records make two packets, for which there is room. -/
theorem exchanges_of_roomy :
    let viewer : SessionId := ⟨"viewer"⟩
    let actions : List Action :=
      [.attach viewer ⟨100⟩ ⟨10⟩, .register viewer 2 "viewer", .record (.ofNat 1) ⟨50⟩,
        .record (.ofNat 2) ⟨60⟩, .record (.ofNat 3) ⟨70⟩]
    let state := actions.foldl perform { clock := .manual .monotonic ⟨100⟩ }
    let inbox : Inbox := { capacity := 2, sender := some viewer }
    let window := state.ledger.idsAfter (windowStart .pairs ⟨10⟩)
    let needed := Settings.pairs.capacity.packetCount window.length
    let front := window.take (inbox.capacity * Settings.pairs.capacity.idLimit)
    let outcomes := exchanges .pairs viewer "viewer" state [none, some ⟨130⟩]
    state.Ready viewer ⟨10⟩ "viewer" inbox ∧
      (needed ≤ inbox.capacity → ∃ first, outcomes.head? = some first ∧
        (∃ summary, first.result = .ok summary) ∧ first.received.length = needed ∧
          first.ids = window) ∧
      (inbox.capacity < needed → ∀ outcome ∈ outcomes,
        outcome.result = .error (.transport viewer inbox.capacity (.queueFull viewer)) ∧
          outcome.received.length = inbox.capacity ∧ outcome.ids = front) ∧
      ((∀ id ∈ window, ∃ outcome ∈ outcomes, id ∈ outcome.ids) ↔
        needed ≤ inbox.capacity ∨ ∀ id ∈ window, id ∈ front) := by
  intro viewer actions state inbox
  have ready : state.Ready viewer ⟨10⟩ "viewer" inbox := ⟨rfl, rfl, ⟨rfl, rfl⟩, rfl, rfl⟩
  exact ⟨ready,
    exchanges_of_ready .pairs state viewer ⟨10⟩ "viewer" inbox none [some ⟨130⟩] ready⟩

/-- The same records need two packets, but after two exchanges over a queue for one packet the
receiver has read two ids twice and the third one never. -/
theorem exchanges_miss_third :
    let viewer : SessionId := ⟨"viewer"⟩
    let actions : List Action :=
      [.attach viewer ⟨100⟩ ⟨10⟩, .register viewer 1 "viewer", .record (.ofNat 1) ⟨50⟩,
        .record (.ofNat 2) ⟨60⟩, .record (.ofNat 3) ⟨70⟩]
    let state := actions.foldl perform { clock := .manual .monotonic ⟨100⟩ }
    let window := state.ledger.idsAfter (windowStart .pairs ⟨10⟩)
    state.Ready viewer ⟨10⟩ "viewer" { capacity := 1, sender := some viewer } ∧
      window = [.ofNat 1, .ofNat 2, .ofNat 3] ∧
      Settings.pairs.capacity.packetCount window.length = 2 ∧
      (exchanges .pairs viewer "viewer" state [none, some ⟨130⟩]).map Exchange.ids =
        [[.ofNat 1, .ofNat 2], [.ofNat 1, .ofNat 2]] := by
  exact ⟨⟨rfl, rfl, ⟨rfl, rfl⟩, rfl, rfl⟩, rfl, rfl, by decide +kernel⟩

end State

end Tombstone
