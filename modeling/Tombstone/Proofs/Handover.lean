import Tombstone.Flush

/-!
# Handing packets over without interruption

When no other party acts in the middle of an operation, packets that are handed over to a session
come to stand in its inbox, in their order and behind what waited there, and nothing else happens to
the transport. Handing over stops at the first refusal; what was taken before it is exactly what
there was room for.
-/

namespace Tombstone

/-- The inbox with further packets behind those that wait. -/
def Inbox.push (inbox : Inbox) (packets : List Bytes) : Inbox :=
  { inbox with waiting := inbox.waiting ++ packets }

theorem Inbox.push_push (inbox : Inbox) (first later : List Bytes) :
    (inbox.push first).push later = inbox.push (first ++ later) := by
  simp [push]

namespace Transport

/-- The connection of a session leads to an inbox that is there. -/
structure Leads (transport : Transport) (session : SessionId) (name : InboxName) (inbox : Inbox) :
    Prop where
  connection : transport.connections.find? session = some (some name)
  inbox_found : transport.inboxes.find? name = some inbox

/-- The packets that wait where the connection of a session leads. -/
def queue (transport : Transport) (session : SessionId) : List Bytes :=
  match transport.connections.find? session with
  | some (some name) => transport.waiting name
  | _ => []

theorem Leads.waiting_eq {transport : Transport} {session : SessionId} {name : InboxName}
    {inbox : Inbox} (leads : transport.Leads session name inbox) :
    transport.waiting name = inbox.waiting := by
  simp [waiting, leads.inbox_found]

theorem Leads.queue_eq {transport : Transport} {session : SessionId} {name : InboxName}
    {inbox : Inbox} (leads : transport.Leads session name inbox) :
    transport.queue session = inbox.waiting := by
  simp [queue, leads.connection, leads.waiting_eq]

theorem Leads.unique {transport : Transport} {session : SessionId} {name other : InboxName}
    {inbox held : Inbox} (leads : transport.Leads session name inbox)
    (leadsHeld : transport.Leads session other held) : other = name ∧ held = inbox := by
  have name_eq : other = name := by
    simpa [leads.connection] using leadsHeld.connection.symm
  subst name_eq
  refine ⟨rfl, ?_⟩
  simpa [leads.inbox_found] using leadsHeld.inbox_found.symm

/-- All that happened between two transports is that packets came to stand in the inbox of a
session. -/
structure Gained (before after : Transport) (session : SessionId) (packets : List Bytes) :
    Prop where
  connections_eq : after.connections = before.connections
  target_eq : ∀ name, before.connections.find? session = some (some name) →
    after.inboxes.find? name = (before.inboxes.find? name).map (·.push packets)
  other_eq : ∀ name, before.connections.find? session ≠ some (some name) →
    after.inboxes.find? name = before.inboxes.find? name

theorem Gained.refl (transport : Transport) (session : SessionId) :
    Gained transport transport session [] := by
  refine ⟨rfl, fun name _ => ?_, fun _ _ => rfl⟩
  simp [Inbox.push]

theorem Gained.trans {before middle after : Transport} {session : SessionId}
    {first later : List Bytes} (gainedFirst : Gained before middle session first)
    (gainedLater : Gained middle after session later) :
    Gained before after session (first ++ later) := by
  refine ⟨gainedLater.connections_eq.trans gainedFirst.connections_eq, ?_, ?_⟩
  · intro name connection
    rw [gainedLater.target_eq name (by rw [gainedFirst.connections_eq, connection]),
      gainedFirst.target_eq name connection, Option.map_map]
    simp [Function.comp_def, Inbox.push_push]
  · intro name elsewhere
    rw [gainedLater.other_eq name (by rwa [gainedFirst.connections_eq]),
      gainedFirst.other_eq name elsewhere]

theorem Gained.leads {before after : Transport} {session : SessionId} {packets : List Bytes}
    {name : InboxName} {inbox : Inbox} (gained : Gained before after session packets)
    (leads : before.Leads session name inbox) : after.Leads session name (inbox.push packets) := by
  refine ⟨by rw [gained.connections_eq, leads.connection], ?_⟩
  rw [gained.target_eq name leads.connection, leads.inbox_found, Option.map_some]

theorem Gained.queue_eq {before after : Transport} {session : SessionId} {packets : List Bytes}
    {name : InboxName} {inbox : Inbox} (gained : Gained before after session packets)
    (leads : before.Leads session name inbox) :
    after.queue session = before.queue session ++ packets := by
  rw [leads.queue_eq, (gained.leads leads).queue_eq, Inbox.push]

/-- Without an inbox nothing can be gained. -/
theorem Gained.queue_cases {before after : Transport} {session : SessionId} {packets : List Bytes}
    (gained : Gained before after session packets) :
    after.queue session = before.queue session ∨
      after.queue session = before.queue session ++ packets := by
  cases connection : before.connections.find? session with
  | none => simp [queue, gained.connections_eq, connection]
  | some place =>
      cases place with
      | none => simp [queue, gained.connections_eq, connection]
      | some name =>
          cases found : before.inboxes.find? name with
          | none =>
              simp [queue, waiting, gained.connections_eq, connection,
                gained.target_eq name connection, found]
          | some inbox => exact Or.inr (gained.queue_eq ⟨connection, found⟩)

/-- No queue loses anything or changes its order when packets are handed over to a session. -/
theorem Gained.queue_prefix {before after : Transport} {session : SessionId}
    {packets : List Bytes} (gained : Gained before after session packets) (other : SessionId) :
    before.queue other <+: after.queue other := by
  simp only [queue]
  rw [gained.connections_eq]
  split
  · next name _ =>
      by_cases target : before.connections.find? session = some (some name)
      · simp only [waiting, gained.target_eq name target]
        cases before.inboxes.find? name with
        | none => exact List.prefix_rfl
        | some inbox => exact List.prefix_append inbox.waiting packets
      · simp only [waiting, gained.other_eq name target]
        exact List.prefix_rfl
  · exact List.prefix_rfl

/-! ## One packet -/

theorem send_eq_ok {transport after : Transport} {session : SessionId} {bytes : Bytes}
    (sent : transport.send session bytes = .ok after) :
    Gained transport after session [bytes] ∧
      ∃ name inbox, transport.Leads session name inbox ∧ inbox.closed = false ∧
        inbox.waiting.length < inbox.capacity := by
  simp only [send] at sent
  split at sent
  · cases sent
  · cases sent
  · next name connection =>
      split at sent
      · cases sent
      · next inbox inbox_found =>
          split at sent
          · cases sent
          · next isOpen =>
              split at sent
              · cases sent
              · next room =>
                  injection sent with after_eq
                  subst after_eq
                  refine ⟨⟨rfl, ?_, ?_⟩, name, inbox, ⟨connection, inbox_found⟩, ?_,
                    Nat.lt_of_not_le room⟩
                  · intro target leadsThere
                    obtain rfl : name = target := by simpa [connection] using leadsThere
                    simp [Directory.find?_put, inbox_found, Inbox.push]
                  · intro other elsewhere
                    have different : other ≠ name := by
                      rintro rfl
                      exact elsewhere connection
                    simp [Directory.find?_put, different]
                  · simpa using isOpen

/-! ## Room -/

/-- Where a session's packets come out. -/
inductive Outlet where
  /-- There is no connection. -/
  | missing
  /-- The receiving end is closed or gone. -/
  | shut
  /-- So many packets can be taken. -/
  | room (free : Nat)

namespace Outlet

/-- The number of packets that are taken. -/
def free : Outlet → Nat
  | missing | shut => 0
  | room free => free

/-- Why no more are taken. -/
def refusal (session : SessionId) : Outlet → SendError
  | missing => .unknownSession session
  | shut => .closed session
  | room _ => .queueFull session

/-- The outlet when so many packets were taken. -/
def fill (packets : Nat) : Outlet → Outlet
  | missing => missing
  | shut => shut
  | room free => room (free - packets)

@[simp]
theorem free_fill (outlet : Outlet) (packets : Nat) :
    (outlet.fill packets).free = outlet.free - packets := by
  cases outlet <;> simp [fill, free]

@[simp]
theorem refusal_fill (outlet : Outlet) (packets : Nat) (session : SessionId) :
    (outlet.fill packets).refusal session = outlet.refusal session := by
  cases outlet <;> rfl

end Outlet

/-- Where the packets of a session come out. -/
def outlet (transport : Transport) (session : SessionId) : Outlet :=
  match transport.connections.find? session with
  | none => .missing
  | some none => .shut
  | some (some name) =>
      match transport.inboxes.find? name with
      | none => .shut
      | some inbox =>
          if inbox.closed then .shut else .room (inbox.capacity - inbox.waiting.length)

theorem Leads.outlet_eq {transport : Transport} {session : SessionId} {name : InboxName}
    {inbox : Inbox} (leads : transport.Leads session name inbox) (isOpen : inbox.closed = false) :
    transport.outlet session = .room (inbox.capacity - inbox.waiting.length) := by
  simp [outlet, leads.connection, leads.inbox_found, isOpen]

/-- What is refused, and why, does not depend on the packet. -/
theorem send_eq_error_iff {transport : Transport} {session : SessionId} {bytes : Bytes}
    {error : SendError} :
    transport.send session bytes = .error error ↔
      (transport.outlet session).free = 0 ∧ (transport.outlet session).refusal session = error := by
  cases connection : transport.connections.find? session with
  | none => simp [send, outlet, connection, Outlet.free, Outlet.refusal]
  | some place =>
      cases place with
      | none => simp [send, outlet, connection, Outlet.free, Outlet.refusal]
      | some name =>
          cases found : transport.inboxes.find? name with
          | none => simp [send, outlet, connection, found, Outlet.free, Outlet.refusal]
          | some inbox =>
              simp only [send, outlet, connection, found]
              split
              · simp [Outlet.free, Outlet.refusal]
              · split
                · next full => simp [Outlet.free, Outlet.refusal, Nat.sub_eq_zero_of_le full]
                · next room => simp [Outlet.free, Nat.sub_eq_zero_iff_le, room]

theorem Gained.outlet_eq {before after : Transport} {session : SessionId} {packets : List Bytes}
    (gained : Gained before after session packets) :
    after.outlet session = (before.outlet session).fill packets.length := by
  simp only [outlet, gained.connections_eq]
  split
  · rfl
  · rfl
  · next name connection =>
      rw [gained.target_eq name connection]
      cases before.inboxes.find? name with
      | none => rfl
      | some inbox =>
          by_cases isClosed : inbox.closed = true
          · simp [Inbox.push, isClosed, Outlet.fill]
          · simp [Inbox.push, isClosed, Outlet.fill, Nat.sub_sub]

end Transport

namespace State

/-- No other party acts in the middle of the operations to come. -/
def Quiet (state : State) : Prop := state.interleaving = {}

theorem readClock_of_quiet {state : State} (quiet : state.Quiet) :
    ∃ journal, state.readClock =
      (state.clock.read.1.time, { state with clock := state.clock.read.2, journal }) := by
  have turned : state.yieldBeforeReading = state := by
    rw [yieldBeforeReading, quiet]
  rw [readClock, turned]
  dsimp only
  split
  · exact ⟨_, rfl⟩
  · exact ⟨state.journal, rfl⟩

theorem registry_readClock {state : State} (quiet : state.Quiet) :
    state.readClock.2.registry = state.registry := by
  rcases readClock_of_quiet quiet with ⟨_, read_eq⟩
  rw [read_eq]

theorem handOver_of_quiet {state : State} (quiet : state.Quiet) (session : SessionId)
    (bytes : Bytes) : state.handOver session bytes = state.send session bytes := by
  have turned : state.yieldBeforeSending = state := by
    rw [yieldBeforeSending, quiet]
  rw [handOver, turned]

/-! ## All packets of a flush -/

/-- How far packets were handed over to a session, as the transports before and after show it. -/
structure Delivered (before after : Transport) (session : SessionId) (packets : List Packet)
    (delivery : Delivery) : Prop where
  packets_le : delivery.packets ≤ packets.length
  gained : before.Gained after session
    ((packets.take delivery.packets).map Packet.toBytes)
  bytes_eq : delivery.bytes = Header.width * delivery.packets +
    EntityId.width * ((packets.take delivery.packets).flatMap (·.ids)).length
  room : 0 < delivery.packets → ∃ name inbox, before.Leads session name inbox ∧
    inbox.closed = false ∧ inbox.waiting.length + delivery.packets ≤ inbox.capacity
  complete : delivery.refusal = none → delivery.packets = packets.length
  refused : ∀ error, delivery.refusal = some error →
    ∃ rest : delivery.packets < packets.length,
      after.send session packets[delivery.packets].toBytes = .error error

theorem Delivered.nil (transport : Transport) (session : SessionId) :
    Delivered transport transport session [] {} :=
  ⟨Nat.le_refl 0, .refl transport session, rfl, fun taken => absurd taken (Nat.lt_irrefl 0),
    fun _ => rfl, fun _ refusal => nomatch refusal⟩

theorem Delivered.refuse {transport : Transport} {session : SessionId} {packet : Packet}
    {rest : List Packet} {error : SendError}
    (refused : transport.send session packet.toBytes = .error error) :
    Delivered transport transport session (packet :: rest) { refusal := some error } := by
  refine ⟨Nat.zero_le _, .refl transport session, rfl, fun taken => absurd taken (Nat.lt_irrefl 0),
    (fun complete => nomatch complete), ?_⟩
  rintro _ ⟨⟩
  exact ⟨Nat.zero_lt_succ _, refused⟩

theorem Delivered.cons {before middle after : Transport} {session : SessionId} {packet : Packet}
    {rest : List Packet} {delivery : Delivery}
    (sent : before.send session packet.toBytes = .ok middle)
    (delivered : Delivered middle after session rest delivery) :
    Delivered before after session (packet :: rest) (delivery.after packet) := by
  rcases Transport.send_eq_ok sent with ⟨gainedFirst, name, inbox, leads, isOpen, room⟩
  refine ⟨Nat.succ_le_succ delivered.packets_le, ?_, ?_, fun _ => ⟨name, inbox, leads, isOpen, ?_⟩,
    fun no_refusal => congrArg (· + 1) (delivered.complete no_refusal), fun error refusal => ?_⟩
  · simpa [Delivery.after] using gainedFirst.trans delivered.gained
  · simp only [Delivery.after, Packet.size, delivered.bytes_eq, List.take_succ_cons,
      List.flatMap_cons, List.length_append, Nat.mul_add]
    omega
  · -- The inbox met by the rest already holds the first packet.
    by_cases none_later : delivery.packets = 0
    · simp only [Delivery.after, none_later]
      omega
    · rcases delivered.room (Nat.pos_of_ne_zero none_later) with
        ⟨later, laterInbox, laterLeads, _, laterRoom⟩
      rcases (gainedFirst.leads leads).unique laterLeads with ⟨rfl, rfl⟩
      simp only [Inbox.push, List.length_append, List.length_singleton] at laterRoom
      simp only [Delivery.after]
      omega
  · rcases delivered.refused error refusal with ⟨more, stopped⟩
    exact ⟨Nat.succ_lt_succ more, stopped⟩

theorem deliver_of_quiet {state : State} (quiet : state.Quiet) (session : SessionId)
    (packets : List Packet) :
    ∃ delivery after,
      state.deliver session packets = (delivery, { state with transport := after }) ∧
      Delivered state.transport after session packets delivery := by
  induction packets generalizing state with
  | nil => exact ⟨{}, state.transport, rfl, .nil state.transport session⟩
  | cons packet rest ih =>
      rw [deliver, handOver_of_quiet quiet, send]
      cases sent : state.transport.send session packet.toBytes with
      | error error => exact ⟨{ refusal := some error }, state.transport, rfl, .refuse sent⟩
      | ok middle =>
          have quietMiddle : Quiet { state with transport := middle } := quiet
          rcases ih quietMiddle with ⟨delivery, after, delivered_eq, delivered⟩
          refine ⟨delivery.after packet, after, ?_, delivered.cons sent⟩
          simp only [delivered_eq]

/-- Without a refusal the connection led to an inbox, which has gained all of the packets. -/
theorem Delivered.of_complete {before after : Transport} {session : SessionId}
    {packets : List Packet} {delivery : Delivery}
    (delivered : Delivered before after session packets delivery)
    (complete : delivery.refusal = none) (some_packet : 0 < packets.length) :
    delivery.packets = packets.length ∧ (∃ name inbox, before.Leads session name inbox) ∧
      before.Gained after session (packets.map Packet.toBytes) := by
  have count_eq := delivered.complete complete
  have gained := delivered.gained
  rw [List.take_of_length_le (Nat.le_of_eq count_eq.symm)] at gained
  rcases delivered.room (count_eq ▸ some_packet) with ⟨name, inbox, leads, _⟩
  exact ⟨count_eq, ⟨name, inbox, leads⟩, gained⟩

/-- As many packets are taken as there is room for, and the first that is not is refused for what
the outlet says. -/
theorem Delivered.of_outlet {before after : Transport} {session : SessionId}
    {packets : List Packet} {delivery : Delivery}
    (delivered : Delivered before after session packets delivery) :
    delivery.packets = min (before.outlet session).free packets.length ∧
      delivery.refusal =
        if packets.length ≤ (before.outlet session).free then none
        else some ((before.outlet session).refusal session) := by
  have taken_le : delivery.packets ≤ (before.outlet session).free := by
    by_cases none_taken : delivery.packets = 0
    · omega
    · rcases delivered.room (Nat.pos_of_ne_zero none_taken) with ⟨name, inbox, leads, isOpen, room⟩
      rw [leads.outlet_eq isOpen, Transport.Outlet.free]
      omega
  cases refusal : delivery.refusal with
  | none =>
      have complete := delivered.complete refusal
      exact ⟨by omega, by rw [if_pos (by omega)]⟩
  | some error =>
      rcases delivered.refused error refusal with ⟨more, stopped⟩
      have taken_length : (packets.take delivery.packets).length = delivery.packets :=
        List.length_take_of_le delivered.packets_le
      rw [Transport.send_eq_error_iff, delivered.gained.outlet_eq, List.length_map, taken_length,
        Transport.Outlet.free_fill, Transport.Outlet.refusal_fill] at stopped
      rcases stopped with ⟨no_room, rfl⟩
      exact ⟨by omega, by rw [if_neg (by omega)]⟩

/-- How far packets are handed over depends on nothing but the outlet. -/
theorem Delivered.eq_of_outlet {before after otherBefore otherAfter : Transport}
    {session : SessionId} {packets : List Packet} {delivery other : Delivery}
    (delivered : Delivered before after session packets delivery)
    (deliveredOther : Delivered otherBefore otherAfter session packets other)
    (same : before.outlet session = otherBefore.outlet session) : delivery = other := by
  rcases delivered.of_outlet with ⟨packets_eq, refusal_eq⟩
  rcases deliveredOther.of_outlet with ⟨packets_eq_other, refusal_eq_other⟩
  have taken : delivery.packets = other.packets := by
    rw [packets_eq, packets_eq_other, same]
  have bytes : delivery.bytes = other.bytes := by
    rw [delivered.bytes_eq, deliveredOther.bytes_eq, taken]
  have refusal : delivery.refusal = other.refusal := by
    rw [refusal_eq, refusal_eq_other, same]
  cases delivery
  cases other
  simp only [Delivery.mk.injEq]
  exact ⟨taken, bytes, refusal⟩

end State

end Tombstone
