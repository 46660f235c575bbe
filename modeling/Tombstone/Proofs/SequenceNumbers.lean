import Tombstone.Proofs.FlushTrail
import Tombstone.Proofs.Queues

/-!
# Sequence numbers

Every packet that a flush builds for a session takes the next sequence number of the session, also
if it is refused or never offered because an earlier one was refused. Since a session was attached,
its packets are therefore numbered from zero without gaps, whatever became of them, and of what
stands in the session's queue a receiver can tell from the numbers how many packets were abandoned
between two of them.
-/

namespace Tombstone

/-- Something that was meant for the queue of a session. -/
inductive Offer where
  /-- A packet that a flush built, whether it was taken, and how the flush ended. -/
  | built (packet : Packet) (taken : Bool) (result : Except FlushError FlushSummary)
  /-- Bytes that others handed over. -/
  | foreign (bytes : Bytes)

namespace Offer

/-- The packet, if a flush built it. -/
def packet? : Offer → Option Packet
  | built packet _ _ => some packet
  | foreign _ => none

/-- The bytes that came to stand in the queue. -/
def arrival? : Offer → Option Bytes
  | built packet taken _ => if taken then some packet.toBytes else none
  | foreign bytes => some bytes

/-- How the flush that built the packet was refused, if it was. -/
def refusal? : Offer → Option SendError
  | built _ _ (.error (.transport _ _ error)) => some error
  | built _ _ (.error (.unknownSession _)) | built _ _ (.ok _) | foreign _ => none

theorem arrivals_taken (packets : List Packet) (result : Except FlushError FlushSummary) :
    (packets.map (built · true result)).filterMap arrival? = packets.map Packet.toBytes := by
  rw [List.filterMap_map, ← List.filterMap_eq_map]
  rfl

theorem arrivals_untaken (packets : List Packet) (result : Except FlushError FlushSummary) :
    (packets.map (built · false result)).filterMap arrival? = [] := by
  simp [arrival?]

end Offer

namespace State

/-- The packets that a flush of a session builds. The first are taken, as many as the session's queue
gains. -/
def offers (settings : Settings) (session : SessionId) (state : State) : List Offer :=
  match state.registry.find? session with
  | none => []
  | some entry =>
      let packets := packetsFor settings state session entry.cursor state.clock.read.1.time
      let taken := (state.gainedBy settings session).length
      let result := state.resultOf settings session
      (packets.take taken).map (Offer.built · true result) ++
        (packets.drop taken).map (Offer.built · false result)

section Offers

variable {settings : Settings} {session : SessionId} {state : State}

theorem packets_offers {entry : Session} (found : state.registry.find? session = some entry) :
    (state.offers settings session).filterMap Offer.packet? =
      packetsFor settings state session entry.cursor state.clock.read.1.time := by
  simp only [offers, found, List.filterMap_append, List.filterMap_map, Function.comp_def,
    Offer.packet?, List.filterMap_some, List.take_append_drop]

theorem Flushed.offers_eq {entry : Session} {delivery : Delivery}
    (flushed : Flushed settings state session entry
      (packetsFor settings state session entry.cursor state.clock.read.1.time) delivery)
    (found : state.registry.find? session = some entry) :
    let packets := packetsFor settings state session entry.cursor state.clock.read.1.time
    let result := state.resultOf settings session
    state.offers settings session =
      (packets.take delivery.packets).map (Offer.built · true result) ++
        (packets.drop delivery.packets).map (Offer.built · false result) := by
  simp only [offers, found, flushed.length_gainedBy]

theorem arrivals_offers (settings : Settings) (quiet : state.Quiet) :
    (state.offers settings session).filterMap Offer.arrival? =
      state.gainedBy settings session := by
  cases found : state.registry.find? session with
  | none => simp [offers, found, gainedBy_of_unknown found]
  | some entry =>
      rcases flushed_of_connected settings quiet found with ⟨delivery, flushed⟩
      rw [flushed.offers_eq found, flushed.gained_eq, List.filterMap_append, Offer.arrivals_taken,
        Offer.arrivals_untaken, List.append_nil]

/-- A packet is left behind only by a flush that was refused. -/
theorem refused_of_mem_offers (quiet : state.Quiet) {offer : Offer}
    (offer_mem : offer ∈ state.offers settings session) (left_behind : offer.arrival? = none) :
    offer.refusal? ≠ none := by
  cases found : state.registry.find? session with
  | none => simp [offers, found] at offer_mem
  | some entry =>
      rcases flushed_of_connected settings quiet found with ⟨delivery, flushed⟩
      simp only [flushed.offers_eq found, List.mem_append, List.mem_map] at offer_mem
      rcases offer_mem with ⟨packet, _, rfl⟩ | ⟨packet, packet_mem, rfl⟩
      · cases left_behind
      · cases refusal : delivery.refusal with
        | none =>
            rw [flushed.complete refusal, List.drop_length] at packet_mem
            cases packet_mem
        | some error =>
            simp [resultOf, flushed.result_eq, Delivery.result, refusal, Offer.refusal?]

end Offers

/-! ## Numbers -/

/-- Packets are numbered from zero, and the next number is the one after them. -/
structure Numbered (next : UInt16) (packets : List Packet) : Prop where
  next_eq : next = UInt16.ofNat packets.length
  number_eq : ∀ index packet, packets[index]? = some packet →
    packet.header.sequence = UInt16.ofNat index

theorem numbered_nil : Numbered 0 [] := ⟨rfl, by simp⟩

theorem Numbered.append {next : UInt16} {earlier later : List Packet}
    (numbered : Numbered next earlier)
    (number_eq : ∀ index packet, later[index]? = some packet →
      packet.header.sequence = next + UInt16.ofNat index) :
    Numbered (next + UInt16.ofNat later.length) (earlier ++ later) := by
  refine ⟨by rw [List.length_append, UInt16.ofNat_add, numbered.next_eq], ?_⟩
  intro index packet found
  by_cases before : index < earlier.length
  · rw [List.getElem?_append_left before] at found
    exact numbered.number_eq index packet found
  · have not_before : earlier.length ≤ index := Nat.le_of_not_lt before
    rw [List.getElem?_append_right not_before] at found
    rw [number_eq _ packet found, numbered.next_eq, ← UInt16.ofNat_add,
      Nat.add_sub_cancel' not_before]

/-- The numbers of two packets tell how many were built between them. -/
theorem Numbered.sequence_eq {next : UInt16} {front between back : List Packet}
    {packet later : Packet}
    (numbered : Numbered next (front ++ packet :: (between ++ later :: back))) :
    later.header.sequence = packet.header.sequence + 1 + UInt16.ofNat between.length := by
  have packet_eq := numbered.number_eq front.length packet (by simp)
  have later_eq := numbered.number_eq (front.length + 1 + between.length) later (by
    rw [List.getElem?_append_right (by omega)]
    simp [Nat.add_assoc, Nat.add_comm 1])
  rw [later_eq, packet_eq, UInt16.ofNat_add, UInt16.ofNat_add]
  rfl

theorem sequence_packetsFor {settings : Settings} {state : State} {session : SessionId}
    {entry : Session} (found : state.registry.find? session = some entry)
    {cursor snapshot : Timestamp} {index : Nat} {packet : Packet}
    (packet_eq : (packetsFor settings state session cursor snapshot)[index]? = some packet) :
    packet.header.sequence = entry.sequence + UInt16.ofNat index := by
  simp only [packetsFor, Capacity.pack, List.getElem?_mapIdx, Option.map_eq_some_iff] at packet_eq
  rcases packet_eq with ⟨ids, _, rfl⟩
  simp [Registry.numbers, found]

/-- The packets that flushes of a session build are numbered from zero, and the session's entry has
the next number. -/
def NumberedBy (settings : Settings) (session : SessionId) (entry : Session)
    (flushes : List State) : Prop :=
  Numbered entry.sequence ((flushes.flatMap (offers settings session)).filterMap Offer.packet?)

theorem numberedBy_fresh (settings : Settings) (session : SessionId) (now cursor : Timestamp) :
    NumberedBy settings session { attachedAt := now, cursor } [] := numbered_nil

theorem numbered_kept (settings : Settings) (session : SessionId) :
    KeptByFlushes settings session (NumberedBy settings session) := by
  intro state entry after earlier sound connected after_eq numbered
  rcases flushed_of_connected settings sound.quiet connected with ⟨delivery, flushed⟩
  obtain rfl := Option.some.inj (flushed.entry_eq.symm.trans after_eq)
  rw [NumberedBy, Session.sequence_afterFlush, List.flatMap_append, List.filterMap_append,
    List.flatMap_singleton, packets_offers connected]
  exact numbered.append fun _ _ => sequence_packetsFor connected

end State

/-- Nobody else takes numbers of a session, but for those who do so on purpose. -/
theorem Action.sequence_adjusted {session : SessionId} {action : Action}
    (untaken : ∀ count, action ≠ .takeNumbers session count) (entry : Session) :
    (action.adjusted session entry).sequence = entry.sequence := by
  cases action with
  | takeNumbers other count =>
      have different : other ≠ session := by
        rintro rfl
        exact untaken count rfl
      rw [adjusted, if_neg different]
  | moveCursor other cursor | account other packets bytes =>
      rw [adjusted]
      split <;> rfl
  | _ => rfl

/-! ## The queue -/

namespace Service

/-- What a step means for the queue of a session. -/
def offers (service : Service) (session : SessionId) : Step → List Offer
  | .act (.send other bytes) =>
      (service.state.gained (service.take (.act (.send other bytes))).state session).map .foreign
  | step => (service.flushes session step).flatMap (State.offers service.settings session)

def built (service : Service) (session : SessionId) (steps : List Step) : List Packet :=
  (along (fun service => service.offers session) service steps).filterMap Offer.packet?

section Steps

variable {service : Service} {session : SessionId} {steps : List Step}

theorem foreign_or_offered {step : Step} {offer : Offer}
    (offer_mem : offer ∈ service.offers session step) :
    (∃ bytes, offer = .foreign bytes) ∨
      ∃ flushed ∈ service.flushes session step,
        offer ∈ flushed.offers service.settings session := by
  cases step with
  | act action =>
      cases action with
      | send other bytes =>
          rcases List.mem_map.mp offer_mem with ⟨bytes, _, rfl⟩
          exact Or.inl ⟨bytes, rfl⟩
      | _ => exact Or.inr (List.mem_flatMap.mp offer_mem)
  | _ => exact Or.inr (List.mem_flatMap.mp offer_mem)

theorem packets_offers (service : Service) (session : SessionId) (step : Step) :
    (service.offers session step).filterMap Offer.packet? =
      ((service.flushes session step).flatMap
        (State.offers service.settings session)).filterMap Offer.packet? := by
  cases step with
  | act action => cases action <;> simp [offers, flushes, List.filterMap_map, Offer.packet?]
  | _ => rfl

theorem built_eq (service : Service) (session : SessionId) (steps : List Step) :
    service.built session steps =
      ((along (fun service => service.flushes session) service steps).flatMap
        (State.offers service.settings session)).filterMap Offer.packet? := by
  induction steps generalizing service with
  | nil => rfl
  | cons step rest ih =>
      have rest_eq := ih (service.take step)
      rw [settings_take] at rest_eq
      rw [built] at rest_eq ⊢
      rw [along, along, List.flatMap_append, List.filterMap_append, List.filterMap_append,
        packets_offers, rest_eq]

theorem refused_of_mem_along (sound : service.state.Sound) {offer : Offer}
    (offer_mem : offer ∈ along (fun service => service.offers session) service steps)
    (left_behind : offer.arrival? = none) : offer.refusal? ≠ none := by
  induction steps generalizing service with
  | nil => cases offer_mem
  | cons step rest ih =>
      rw [along, List.mem_append] at offer_mem
      rcases offer_mem with inStep | inRest
      · rcases foreign_or_offered inStep with ⟨bytes, rfl⟩ | ⟨flushed, flushed_mem, offered⟩
        · cases left_behind
        · exact State.refused_of_mem_offers (sound_of_mem_flushes sound flushed_mem).quiet offered
            left_behind
      · exact ih (sound_take sound step) inRest

theorem arrivals_flushes (sound : service.state.Sound) (step : Step) :
    ((service.flushes session step).flatMap
        (State.offers service.settings session)).filterMap Offer.arrival? =
      (service.flushes session step).flatMap (State.gainedBy service.settings session) := by
  rw [List.filterMap_flatMap]
  simp only [List.flatMap_def]
  congr 1
  apply List.map_congr_left
  intro flushed flushed_mem
  exact State.arrivals_offers _ (sound_of_mem_flushes sound flushed_mem).quiet

/-- The queue of a session after a step is what it was before with what arrived in the step, less
what was taken from the front. -/
theorem queue_take_suffix (sound : service.state.Sound) (session : SessionId) (step : Step) :
    (service.take step).state.transport.queue session <:+
      service.state.transport.queue session ++
        (service.offers session step).filterMap Offer.arrival? := by
  have unchanged {after : Service}
      (transport_eq : after.state.transport = service.state.transport) :
      after.state.transport.queue session <:+ service.state.transport.queue session ++ [] := by
    refine ⟨[], ?_⟩
    rw [transport_eq, List.append_nil, List.nil_append]
  have grown (step : Step) (queue_eq : (service.take step).state.transport.queue session =
      service.state.transport.queue session ++
        (service.flushes session step).flatMap (State.gainedBy service.settings session)) :
      (service.take step).state.transport.queue session <:+
        service.state.transport.queue session ++ ((service.flushes session step).flatMap
          (State.offers service.settings session)).filterMap Offer.arrival? := by
    refine ⟨[], ?_⟩
    rw [queue_eq, arrivals_flushes sound, List.nil_append]
  rcases State.readClock_of_quiet sound.quiet with ⟨readJournal, read_eq⟩
  cases step with
  | record id time => exact unchanged rfl
  | recordNow id | watermark | laggards =>
      exact unchanged (congrArg (fun read => read.2.transport) read_eq)
  | attachNow other =>
      rcases State.attach_effect service.state.readClock.2 other service.state.readClock.1
        service.state.readClock.1 with ⟨journal, attach_eq⟩
      apply unchanged
      simp only [take, attachNow, attach_eq]
      rw [read_eq]
  | collect => exact unchanged (State.transport_collect service.collector.rules sound.quiet)
  | flush other =>
      apply grown (.flush other)
      by_cases own : other = session
      · subst own
        rw [flushes, if_pos rfl, List.flatMap_singleton]
        exact State.queue_flush sound.quiet
      · rw [flushes, if_neg own, List.flatMap_nil, List.append_nil]
        exact State.queue_flush_of_ne sound.quiet sound.paired (Ne.symm own)
  | flushAll order =>
      apply grown (.flushAll order)
      rw [take, State.flushAllIn_eq]
      exact State.queue_round service.settings sound order
  | act action =>
      cases action with
      | send other bytes =>
          rcases State.queue_prefix_send service.state other bytes session with ⟨gained, queue_eq⟩
          simp [offers, State.gained, take, State.perform, ← queue_eq, List.filterMap_map,
            Function.comp_def, Offer.arrival?]
      | _ =>
          -- No flush of the session, and nothing handed over by others.
          exact (List.append_nil _).symm ▸ State.queue_perform_suffix (by simp)

/-- What stands in the queue of a session was there at the start of a run or arrived in it. -/
theorem queue_run_suffix (sound : service.state.Sound) (session : SessionId) (steps : List Step) :
    (service.run steps).state.transport.queue session <:+
      service.state.transport.queue session ++
        (along (fun service => service.offers session) service steps).filterMap
          Offer.arrival? := by
  induction steps generalizing service with
  | nil => simp [run, along]
  | cons step rest ih =>
      apply (ih (sound_take sound step)).trans
      rcases queue_take_suffix sound session step with ⟨lost, queue_eq⟩
      refine ⟨lost, ?_⟩
      rw [along, List.filterMap_append, ← List.append_assoc, queue_eq, List.append_assoc]

/-- A step with no flush of a session leaves the session's next number alone, unless it is one of
taking numbers. -/
theorem sequence_take_of_unflushed {entry : Session} {step : Step} (sound : service.state.Sound)
    (found : service.state.registry.find? session = some entry)
    (stays : (service.take step).state.registry.isConnected session = true)
    (unflushed : service.flushes session step = [])
    (untaken : ∀ count, step ≠ .act (.takeNumbers session count)) :
    ∃ after, (service.take step).state.registry.find? session = some after ∧
      after.sequence = entry.sequence := by
  let motive (after : Session) (flushes : List State) : Prop :=
    flushes = [] → after.sequence = entry.sequence
  have kept : State.KeptByFlushes service.settings session motive := by
    intro state held after earlier _ _ _ _ no_flush
    simp at no_flush
  rcases entry_take kept sound found (fun _ => rfl) stays (fun action same held flushes holds => by
    intro no_flush
    rw [Action.sequence_adjusted (fun count taken => untaken count (taken ▸ same)), holds no_flush])
    with ⟨after, after_eq, holds⟩
  exact ⟨after, after_eq, holds (by rw [unflushed, List.append_nil])⟩

end Steps

/-- What the sequence numbers of a session tell about the steps since the session was attached. -/
structure Sequenced (attached : Service) (session : SessionId) (later : List Step) : Prop where
  /-- The packets are numbered from zero in the order in which they were built. -/
  number_eq : ∀ index packet, (attached.built session later)[index]? = some packet →
    packet.header.sequence.toNat = index % 65536
  next_eq : ∃ entry, (attached.run later).state.registry.find? session = some entry ∧
    entry.sequence.toNat = (attached.built session later).length % 65536
  /-- No number comes back before all numbers were used. -/
  reused : ∀ index again packet other, index < again →
    (attached.built session later)[index]? = some packet →
    (attached.built session later)[again]? = some other →
    packet.header.sequence = other.header.sequence → index + 65536 ≤ again
  /-- Steps that do not flush the session leave its next number alone. -/
  kept : ∀ first step second, later = first ++ step :: second →
    (attached.run first).flushes session step = [] →
    ∃ before after, (attached.run first).state.registry.find? session = some before ∧
      (attached.run (first ++ [step])).state.registry.find? session = some after ∧
      after.sequence = before.sequence
  /-- Between two neighbours in the queue only packets of refused flushes were built, and if the two
  were built since the session was attached, their numbers tell how many. -/
  neighbours : ∀ older left right newer,
    (attached.run later).state.transport.queue session = older ++ left :: right :: newer →
    ∃ front first between second back,
      (attached.state.transport.queue session).map .foreign ++
          along (fun service => service.offers session) attached later =
        front ++ first :: (between ++ second :: back) ∧
      first.arrival? = some left ∧ second.arrival? = some right ∧
      back.filterMap Offer.arrival? = newer ∧
      (∀ offer ∈ between, offer.arrival? = none ∧ offer.refusal? ≠ none) ∧
      ∀ packet next, first.packet? = some packet → second.packet? = some next →
        between.length % 65536 = (next.header.sequence - packet.header.sequence - 1).toNat ∧
        ((∀ offer ∈ between, offer.refusal? = none) →
          next.header.sequence = packet.header.sequence + 1)

section Sequenced

variable {attached : Service} {session : SessionId} {later : List Step}

theorem exists_neighbours (sound : attached.state.Sound) {older newer : List Bytes}
    {left right : Bytes}
    (queue_eq : (attached.run later).state.transport.queue session =
      older ++ left :: right :: newer) :
    ∃ front first between second back,
      (attached.state.transport.queue session).map .foreign ++
          along (fun service => service.offers session) attached later =
        front ++ first :: (between ++ second :: back) ∧
      first.arrival? = some left ∧ second.arrival? = some right ∧
      back.filterMap Offer.arrival? = newer ∧ ∀ offer ∈ between, offer.arrival? = none := by
  have before_eq : ((attached.state.transport.queue session).map Offer.foreign).filterMap
      Offer.arrival? = attached.state.transport.queue session := by
    simp [List.filterMap_map, Function.comp_def, Offer.arrival?]
  rcases queue_run_suffix sound session later with ⟨lost, arrivals_eq⟩
  rw [← before_eq, ← List.filterMap_append, queue_eq, ← List.append_assoc] at arrivals_eq
  rcases List.filterMap_eq_append_iff.mp arrivals_eq.symm with ⟨passed, rest, offers_eq, _, rest_eq⟩
  rcases List.filterMap_eq_cons_iff.mp rest_eq with
    ⟨skipped, first, afterFirst, rfl, _, first_eq, afterFirst_eq⟩
  rcases List.filterMap_eq_cons_iff.mp afterFirst_eq with
    ⟨between, second, back, rfl, between_eq, second_eq, back_eq⟩
  refine ⟨passed ++ skipped, first, between, second, back, ?_, first_eq, second_eq, back_eq,
    between_eq⟩
  rw [offers_eq, List.append_assoc]

/-- Every offer that did not arrive is a packet that was built. -/
theorem length_packets_of_left_behind {offers : List Offer}
    (left_behind : ∀ offer ∈ offers, offer.arrival? = none) :
    (offers.filterMap Offer.packet?).length = offers.length := by
  rw [List.length_filterMap_eq_countP, List.countP_eq_length]
  intro offer offer_mem
  cases offer with
  | built => rfl
  | foreign => cases left_behind _ offer_mem

theorem sequenced_of_stays {now starting : Timestamp} (sound : attached.state.Sound)
    (fresh : attached.state.registry.find? session =
      some { attachedAt := now, cursor := starting })
    (stays : attached.StaysConnected session later)
    (untaken : ∀ count, .act (.takeNumbers session count) ∉ later) :
    Sequenced attached session later := by
  rcases entry_run (State.numbered_kept _ session) sound fresh
    (State.numberedBy_fresh _ session now starting) stays
    (fun action in_later held flushes numbered => by
      rw [State.NumberedBy, Action.sequence_adjusted]
      · exact numbered
      · rintro count rfl
        exact untaken count in_later) with
    ⟨entry, entry_eq, numbered⟩
  rw [State.NumberedBy, List.nil_append, ← built_eq] at numbered
  refine ⟨?_, ⟨entry, entry_eq, ?_⟩, ?_, ?_, ?_⟩
  · intro index packet found
    simp [numbered.number_eq index packet found]
  · simp [numbered.next_eq]
  · intro index again packet other before found foundAgain same
    rw [numbered.number_eq index packet found, numbered.number_eq again other foundAgain,
      ← UInt16.toNat_inj] at same
    simp only [UInt16.toNat_ofNat'] at same
    omega
  · rintro first step second rfl unflushed
    rcases Option.isSome_iff_exists.mp stays.drop.first with ⟨before, before_eq⟩
    rcases sequence_take_of_unflushed (sound_run sound first) before_eq stays.drop.2.first unflushed
      (fun count taken => untaken count (by simp [taken])) with ⟨after, after_eq, same⟩
    exact ⟨before, after, before_eq, by rw [run_append]; exact after_eq, same⟩
  · intro older left right newer queue_eq
    rcases exists_neighbours sound queue_eq with
      ⟨front, first, between, second, back, offers_eq, first_eq, second_eq, back_eq, between_eq⟩
    have refused : ∀ offer ∈ between, offer.refusal? ≠ none := by
      intro offer offer_mem
      have offer_in : offer ∈ (attached.state.transport.queue session).map .foreign ++
          along (fun service => service.offers session) attached later := by
        simp [offers_eq, offer_mem]
      rcases List.mem_append.mp offer_in with waited | offered
      · rcases List.mem_map.mp waited with ⟨bytes, _, rfl⟩
        cases between_eq _ offer_mem
      · exact refused_of_mem_along sound offered (between_eq offer offer_mem)
    refine ⟨front, first, between, second, back, offers_eq, first_eq, second_eq, back_eq,
      fun offer offer_mem => ⟨between_eq offer offer_mem, refused offer offer_mem⟩, ?_⟩
    intro packet next packet_eq next_eq
    have built_split : attached.built session later = front.filterMap Offer.packet? ++ packet ::
        (between.filterMap Offer.packet? ++ next :: back.filterMap Offer.packet?) := by
      have none_waited : ((attached.state.transport.queue session).map Offer.foreign).filterMap
          Offer.packet? = [] := by
        simp [Offer.packet?]
      rw [built, ← List.nil_append (List.filterMap _ _), ← none_waited, ← List.filterMap_append,
        offers_eq]
      simp [packet_eq, next_eq]
    rw [built_split] at numbered
    have sequence_eq := numbered.sequence_eq
    rw [length_packets_of_left_behind between_eq] at sequence_eq
    constructor
    · have gap_eq : next.header.sequence - packet.header.sequence - 1 =
          UInt16.ofNat between.length := by
        grind
      simp [gap_eq]
    · intro unrefused
      have none_between : between = [] := by
        apply List.eq_nil_iff_forall_not_mem.mpr
        intro offer offer_mem
        exact refused offer offer_mem (unrefused offer offer_mem)
      simpa [none_between] using sequence_eq

end Sequenced

/-- Unless somebody else takes numbers of it, the packets that were built for a connected session
since it was attached are numbered from zero, whether or not they were taken, and its next number is
the one after them. -/
theorem packets_numbered_since_attached (settings : Settings) (clock : Clock) (steps : List Step)
    (session : SessionId)
    (connected : ((start settings clock).run steps).state.registry.isConnected session = true)
    (untaken : ∀ count, .act (.takeNumbers session count) ∉ steps) :
    ∃ earlier attaching later starting, steps = earlier ++ attaching :: later ∧
      ((start settings clock).run earlier).Attaches session attaching starting ∧
      (((start settings clock).run earlier).take attaching).StaysConnected session later ∧
      Sequenced (((start settings clock).run earlier).take attaching) session later := by
  rcases exists_attaching settings clock steps session connected with
    ⟨earlier, attaching, later, starting, now, rfl, attaches, stays, sound, fresh⟩
  have untakenLater : ∀ count, .act (.takeNumbers session count) ∉ later := by
    intro count in_later
    exact untaken count (by simp [in_later])
  exact ⟨earlier, attaching, later, starting, rfl, attaches, stays,
    sequenced_of_stays sound fresh stays untakenLater⟩

/-- The third packet of a first flush is refused. Another session is not flushed and comes back, and of
the three packets of the next flush one comes to stand behind the second of the first. -/
theorem packets_numbered_since_attached_of_viewer :
    let viewer : SessionId := ⟨"viewer"⟩
    let other : SessionId := ⟨"other"⟩
    let steps : List Step :=
      [.attachNow viewer, .act (.register viewer 2 "viewer"), .attachNow other,
        .record (.ofNat 1) ⟨95⟩, .record (.ofNat 2) ⟨95⟩, .record (.ofNat 3) ⟨96⟩,
        .record (.ofNat 4) ⟨97⟩, .record (.ofNat 5) ⟨97⟩, .flush viewer, .flush other,
        .act (.receive "viewer"), .act (.detach other), .act (.attach other ⟨100⟩ ⟨90⟩),
        .flushAll [other, viewer]]
    let clock := Clock.manual .direct ⟨100⟩
    ((start .pairs clock).run steps).state.registry.isConnected viewer = true ∧
      (∀ count, .act (.takeNumbers viewer count) ∉ steps) ∧
      ((((start .pairs clock).run steps).state.transport.queue viewer).map fun bytes =>
        (bytes.drop 1).take 2) = [[1, 0], [3, 0]] ∧
      ∃ earlier attaching later starting, steps = earlier ++ attaching :: later ∧
        ((start .pairs clock).run earlier).Attaches viewer attaching starting ∧
        (((start .pairs clock).run earlier).take attaching).StaysConnected viewer later ∧
        Sequenced (((start .pairs clock).run earlier).take attaching) viewer later := by
  intro viewer other steps clock
  have connected : ((start .pairs clock).run steps).state.registry.isConnected viewer = true := by
    decide +kernel
  have untaken : ∀ count, .act (.takeNumbers viewer count) ∉ steps := by
    simp [steps]
  have numbers_eq : ((((start .pairs clock).run steps).state.transport.queue viewer).map
      fun bytes => (bytes.drop 1).take 2) = [[1, 0], [3, 0]] := by
    decide +kernel
  exact ⟨connected, untaken, numbers_eq,
    packets_numbered_since_attached .pairs clock steps viewer connected untaken⟩

end Service

end Tombstone
