import Mathlib.Algebra.GroupWithZero.Nat
import Tombstone.Proofs.CursorHistory
import Tombstone.Proofs.FlushRefusal
import Tombstone.Proofs.Locality
import Tombstone.Proofs.NothingLost

/-!
# What the flushes of a session leave behind

A session's entry and its queue are only touched by flushes of that session and by others who mean
to. So what a flush preserves of the two, a dispatch round preserves, and with it a whole run in
which the session stays connected: the entry is what the flushes since the session was attached have
made of a fresh one, and the queue has gained what each of them handed over.
-/

namespace Tombstone

/-! ## One flush -/

section AfterFlush

variable (entry : Session) (numbers : Nat) (delivery : State.Delivery) (snapshot : Timestamp)

/-- A flush takes a number for each packet, whether or not the packet is handed over. -/
theorem Session.sequence_afterFlush :
    (entry.afterFlush numbers delivery snapshot).sequence =
      entry.sequence + UInt16.ofNat numbers := by
  simp only [afterFlush]
  split <;> rfl

/-- A flush accounts for the packets that were handed over, whether or not one was refused. -/
theorem Session.packetsSent_afterFlush :
    (entry.afterFlush numbers delivery snapshot).packetsSent =
      entry.packetsSent + UInt64.ofNat delivery.packets := by
  simp only [afterFlush]
  split <;> rfl

theorem Session.bytesSent_afterFlush :
    (entry.afterFlush numbers delivery snapshot).bytesSent =
      entry.bytesSent + UInt64.ofNat delivery.bytes := by
  simp only [afterFlush]
  split <;> rfl

end AfterFlush

namespace State

/-- The packets by which a flush of a session makes the session's queue longer. -/
def gainedBy (settings : Settings) (session : SessionId) (state : State) : List Bytes :=
  state.gained (state.flush settings session).2 session

/-- How a flush of a session ends. -/
def resultOf (settings : Settings) (session : SessionId) (state : State) :
    Except FlushError FlushSummary :=
  (state.flush settings session).1

/-- What a flush of a session does to the session's entry and queue, if it hands over `packets` as
far as `delivery` says. -/
structure Flushed (settings : Settings) (state : State) (session : SessionId) (entry : Session)
    (packets : List Packet) (delivery : Delivery) : Prop where
  result_eq : (state.flush settings session).1 =
    delivery.result session (state.ledger.idsAfter (windowStart settings entry.cursor)).length
      state.clock.read.1.time
  entry_eq : (state.flush settings session).2.registry.find? session =
    some (entry.afterFlush packets.length delivery state.clock.read.1.time)
  packets_le : delivery.packets ≤ packets.length
  complete : delivery.refusal = none → delivery.packets = packets.length
  gained_eq : state.gainedBy settings session =
    (packets.take delivery.packets).map Packet.toBytes
  bytes_eq : delivery.bytes = ((state.gainedBy settings session).map List.length).sum

section Flush

variable {settings : Settings} {state : State} {session : SessionId}

theorem Delivered.queue_eq {before after : Transport} {packets : List Packet} {delivery : Delivery}
    (delivered : Delivered before after session packets delivery) :
    after.queue session =
      before.queue session ++ (packets.take delivery.packets).map Packet.toBytes := by
  by_cases none_taken : delivery.packets = 0
  · rcases delivered.gained.queue_cases with same | longer
    · simp [same, none_taken]
    · exact longer
  · rcases delivered.room (Nat.pos_of_ne_zero none_taken) with ⟨name, inbox, leads, _⟩
    exact delivered.gained.queue_eq leads

theorem flushed_of_connected (settings : Settings) {entry : Session} (quiet : state.Quiet)
    (connected : state.registry.find? session = some entry) :
    ∃ delivery, Flushed settings state session entry
      (packetsFor settings state session entry.cursor state.clock.read.1.time) delivery := by
  rcases flush_of_connected settings quiet connected with
    ⟨delivery, transport, journal, delivered, flush_eq⟩
  have gained_eq : state.gainedBy settings session =
      ((packetsFor settings state session entry.cursor state.clock.read.1.time).take
        delivery.packets).map Packet.toBytes := by
    rw [gainedBy, gained, flush_eq]
    simp only [delivered.queue_eq, List.drop_left]
  refine ⟨delivery, ?_, ?_, delivered.packets_le, delivered.complete, gained_eq, ?_⟩
  · rw [flush_eq]
  · rw [flush_eq, Directory.find?_adjust, if_pos rfl, connected, Option.map_some]
  · have lengths := length_flatMap_toBytes
      ((packetsFor settings state session entry.cursor state.clock.read.1.time).take
        delivery.packets)
    rw [List.length_take_of_le delivered.packets_le, ← delivered.bytes_eq, List.length_flatMap]
      at lengths
    rw [gained_eq, List.map_map, ← lengths]
    rfl

theorem Flushed.length_gainedBy {entry : Session} {packets : List Packet} {delivery : Delivery}
    (flushed : Flushed settings state session entry packets delivery) :
    (state.gainedBy settings session).length = delivery.packets := by
  rw [flushed.gained_eq, List.length_map, List.length_take_of_le flushed.packets_le]

/-- The queue of a session that is not connected gains nothing in a flush. -/
theorem gainedBy_of_unknown (unknown : state.registry.find? session = none) :
    state.gainedBy settings session = [] := by
  rw [gainedBy, gained, flush_of_unknown unknown, List.drop_length]

theorem queue_flush (quiet : state.Quiet) :
    (state.flush settings session).2.transport.queue session =
      state.transport.queue session ++ state.gainedBy settings session :=
  (List.prefix_iff_eq_append.mp (queue_prefix_flush settings quiet session session)).symm

/-! ## A round -/

theorem sound_of_mem_flushesOf {settings : Settings} (sound : state.Sound) {order : List SessionId}
    {flushed : State} (flushed_mem : flushed ∈ flushesOf settings session state order) :
    flushed.Sound := by
  induction order generalizing state with
  | nil => cases flushed_mem
  | cons first rest ih =>
      have soundNext := sound.visited settings first
      simp only [flushesOf] at flushed_mem
      split at flushed_mem
      · rcases List.mem_cons.mp flushed_mem with rfl | inRest
        · exact sound
        · exact ih soundNext inRest
      · exact ih soundNext flushed_mem

/-- In a dispatch round the queue of a session gains what the flushes of the session hand over. -/
theorem queue_round (settings : Settings) (sound : state.Sound) (order : List SessionId) :
    (order.foldl (visited settings) state).transport.queue session =
      state.transport.queue session ++
        (flushesOf settings session state order).flatMap (gainedBy settings session) := by
  induction order generalizing state with
  | nil => simp [flushesOf]
  | cons first rest ih =>
      have soundNext := sound.visited settings first
      simp only [flushesOf, List.foldl_cons, ih soundNext]
      split
      · next flushed =>
          rcases flushed with ⟨rfl, news⟩
          rcases visited_of_news news with ⟨journal, visited_eq⟩
          have queue_eq : (state.visited settings first).transport.queue first =
              state.transport.queue first ++ state.gainedBy settings first := by
            rw [visited_eq]
            exact queue_flush sound.quiet
          rw [queue_eq, List.flatMap_cons, List.append_assoc]
      · next passed =>
          have queue_eq : (state.visited settings first).transport.queue session =
              state.transport.queue session := by
            by_cases own : session = first
            · subst own
              rw [visited_of_idle (by simpa using passed)]
            · apply visited_induction (motive := fun after =>
                after.transport.queue session = state.transport.queue session) rfl
              exact fun _ => queue_flush_of_ne sound.quiet sound.paired own
          rw [queue_eq]

/-- A dispatch round makes the queue of a session longer by what the flushes of the session do. -/
theorem gained_round (settings : Settings) (sound : state.Sound) (order : List SessionId) :
    state.gained (state.flushAllIn settings order).2 session =
      (flushesOf settings session state order).flatMap (gainedBy settings session) := by
  simp only [gained, flushAllIn_eq, queue_round settings sound, List.drop_left]

end Flush

/-- What every flush of a session preserves, given the session's entry and its flushes so far. -/
def KeptByFlushes (settings : Settings) (session : SessionId)
    (motive : Session → List State → Prop) : Prop :=
  ∀ state entry after earlier, state.Sound →
    state.registry.find? session = some entry →
    (state.flush settings session).2.registry.find? session = some after →
    motive entry earlier → motive after (earlier ++ [state])

section Kept

variable {settings : Settings} {session : SessionId} {motive : Session → List State → Prop}

theorem KeptByFlushes.round (kept : KeptByFlushes settings session motive) {state : State}
    {entry : Session} {earlier : List State} (sound : state.Sound)
    (found : state.registry.find? session = some entry) (holds : motive entry earlier)
    (order : List SessionId) :
    ∃ after, (order.foldl (visited settings) state).registry.find? session = some after ∧
      motive after (earlier ++ flushesOf settings session state order) := by
  induction order generalizing state entry earlier with
  | nil => exact ⟨entry, found, by simpa [flushesOf] using holds⟩
  | cons first rest ih =>
      have soundNext := sound.visited settings first
      simp only [flushesOf, List.foldl_cons]
      split
      · next flushed =>
          rcases flushed with ⟨rfl, news⟩
          rcases visited_of_news news with ⟨journal, visited_eq⟩
          rcases flushed_of_connected settings sound.quiet found with ⟨delivery, flushed⟩
          obtain ⟨middle, middle_eq⟩ :
              ∃ middle, (state.flush settings first).2.registry.find? first = some middle :=
            ⟨_, flushed.entry_eq⟩
          have foundNext : (state.visited settings first).registry.find? first = some middle := by
            rw [visited_eq]
            exact middle_eq
          simpa using ih soundNext foundNext (kept state entry middle earlier sound found middle_eq
            holds)
      · next passed =>
          apply ih soundNext _ holds
          by_cases own : session = first
          · subst own
            rw [visited_of_idle (by simpa using passed), found]
          · rw [(alike_visited_of_ne sound.quiet sound.paired own).entry_eq, found]

end Kept

end State

/-! ## Runs -/

/-- The entry of a session that stays connected after an action of another party. -/
def Action.adjusted (session : SessionId) (entry : Session) : Action → Session
  | .moveCursor other cursor => if other = session then entry.moveCursor cursor else entry
  | .takeNumbers other count => if other = session then entry.takeNumbers count else entry
  | .account other packets bytes => if other = session then entry.account packets bytes else entry
  | _ => entry

theorem State.find?_attach_of_connected {state : State} {session : SessionId} {entry : Session}
    (found : state.registry.find? session = some entry) (other : SessionId)
    (now cursor : Timestamp) :
    (state.attach other now cursor).registry.find? session = some entry := by
  rcases attach_effect state other now cursor with ⟨journal, attach_eq⟩
  rw [attach_eq, Registry.find?_attach, if_neg, found]
  rintro ⟨absent, rfl⟩
  simp [Registry.isConnected, Directory.contains, found] at absent

theorem State.find?_perform {state : State} {session : SessionId} {entry : Session}
    (found : state.registry.find? session = some entry) {action : Action}
    (stays : (state.perform action).registry.isConnected session = true) :
    (state.perform action).registry.find? session = some (action.adjusted session entry) := by
  cases action with
  | moveCursor other cursor | takeNumbers other count | account other packets bytes =>
      by_cases own : session = other
      · subst own
        simp [perform, Registry.moveCursor, Registry.takeNumbers, Registry.account,
          Directory.find?_adjust, Action.adjusted, found]
      · simp [perform, Registry.moveCursor, Registry.takeNumbers, Registry.account,
          Directory.find?_adjust, Action.adjusted, own, Ne.symm own, found]
  | attach other now cursor => exact find?_attach_of_connected found other now cursor
  | detach other =>
      rcases detach_effect state other with ⟨journal, detach_eq⟩
      have different : session ≠ other := by
        rintro rfl
        simp [perform, detach_eq, Registry.isConnected, Registry.detach, Directory.contains,
          Directory.find?_remove] at stays
      simp [perform, detach_eq, Registry.detach, Directory.find?_remove, different,
        Action.adjusted, found]
  | send other bytes =>
      rcases send_effect state other bytes with ⟨transport, send_eq⟩
      simpa [perform, send_eq, Action.adjusted] using found
  | record | prune | setClock | advanceClock | register | unregister | dropInbox | closeInbox
  | receive | drain => exact found

namespace Service

section Steps

variable {service : Service} {session : SessionId} {motive : Session → List State → Prop}

theorem entry_take (kept : State.KeptByFlushes service.settings session motive) {entry : Session}
    {earlier : List State} {step : Step} (sound : service.state.Sound)
    (found : service.state.registry.find? session = some entry) (holds : motive entry earlier)
    (stays : (service.take step).state.registry.isConnected session = true)
    (adjusted : ∀ action, step = .act action → ∀ entry earlier, motive entry earlier →
      motive (action.adjusted session entry) earlier) :
    ∃ after, (service.take step).state.registry.find? session = some after ∧
      motive after (earlier ++ service.flushes session step) := by
  have read_eq := State.registry_readClock sound.quiet
  have unread {read : Service} (registry_eq : read.state.registry = service.state.registry) :
      ∃ after, read.state.registry.find? session = some after ∧ motive after (earlier ++ []) :=
    ⟨entry, by rw [registry_eq, found], by simpa using holds⟩
  cases step with
  | record id time => exact unread rfl
  | recordNow id | watermark | laggards => exact unread read_eq
  | attachNow other =>
      have foundRead : service.state.readClock.2.registry.find? session = some entry := by
        rw [read_eq, found]
      refine ⟨entry, ?_, by simpa [flushes] using holds⟩
      exact State.find?_attach_of_connected foundRead other _ _
  | flush other =>
      by_cases own : other = session
      · subst own
        rcases State.flushed_of_connected service.settings sound.quiet found with ⟨_, flushed⟩
        refine ⟨_, flushed.entry_eq, ?_⟩
        simpa [flushes] using kept _ entry _ earlier sound found flushed.entry_eq holds
      · refine ⟨entry, ?_, by simpa [flushes, own] using holds⟩
        exact (State.alike_flush_of_ne sound.quiet sound.paired (Ne.symm own)).entry_eq.trans found
  | flushAll order =>
      rcases kept.round sound found holds order with ⟨after, after_eq, holdsAfter⟩
      refine ⟨after, ?_, holdsAfter⟩
      simpa [take, State.flushAllIn_eq] using after_eq
  | collect => exact unread (State.registry_collect service.collector.rules sound.quiet)
  | act action =>
      refine ⟨_, State.find?_perform found stays, ?_⟩
      simpa [flushes] using adjusted action rfl entry earlier holds

/-- The entry of a session that stays connected in a run is what the session's flushes make of it,
as far as nothing else that others do to it matters. -/
theorem entry_run (kept : State.KeptByFlushes service.settings session motive) {entry : Session}
    {earlier : List State} {steps : List Step} (sound : service.state.Sound)
    (found : service.state.registry.find? session = some entry) (holds : motive entry earlier)
    (stays : service.StaysConnected session steps)
    (adjusted : ∀ action, .act action ∈ steps → ∀ entry earlier, motive entry earlier →
      motive (action.adjusted session entry) earlier) :
    ∃ after, (service.run steps).state.registry.find? session = some after ∧
      motive after (earlier ++ along (fun service => service.flushes session) service steps) := by
  induction steps generalizing service entry earlier with
  | nil => exact ⟨entry, found, by simpa [along] using holds⟩
  | cons step rest ih =>
      rcases entry_take kept sound found holds stays.2.first
        (fun action same => adjusted action (same ▸ List.mem_cons_self)) with
        ⟨middle, middle_eq, holdsMiddle⟩
      rw [along, ← List.append_assoc]
      exact ih (by rwa [settings_take]) (sound_take sound step) middle_eq holdsMiddle stays.2
        (fun action inRest => adjusted action (List.mem_cons_of_mem _ inRest))

/-- A step that attaches a session gives it a fresh entry. -/
theorem Attaches.fresh {step : Step} {starting : Timestamp}
    (attaches : service.Attaches session step starting) (sound : service.state.Sound) :
    ∃ now, (service.take step).state.registry.find? session =
      some { attachedAt := now, cursor := starting } := by
  rcases attaches with ⟨absent, ⟨now, rfl⟩ | ⟨rfl, rfl⟩⟩
  · rcases State.attach_effect service.state session now starting with ⟨journal, attach_eq⟩
    refine ⟨now, ?_⟩
    simp [take, State.perform, attach_eq, Registry.find?_attach, absent]
  · rcases State.readClock_of_quiet sound.quiet with ⟨readJournal, read_eq⟩
    rcases State.attach_effect service.state.readClock.2 session service.state.readClock.1
      service.state.readClock.1 with ⟨journal, attach_eq⟩
    refine ⟨service.state.clock.read.1.time, ?_⟩
    simp only [take, attachNow, attach_eq]
    simp [read_eq, Registry.find?_attach, absent]

/-- A session that is connected at the end of a run was attached in it, with a fresh entry, and has
been connected since. -/
theorem exists_attaching (settings : Settings) (clock : Clock) (steps : List Step)
    (session : SessionId)
    (connected : ((start settings clock).run steps).state.registry.isConnected session = true) :
    ∃ earlier attaching later starting now, steps = earlier ++ attaching :: later ∧
      ((start settings clock).run earlier).Attaches session attaching starting ∧
      (((start settings clock).run earlier).take attaching).StaysConnected session later ∧
      (((start settings clock).run earlier).take attaching).state.Sound ∧
      (((start settings clock).run earlier).take attaching).state.registry.find? session =
        some { attachedAt := now, cursor := starting } := by
  have soundStart : (start settings clock).state.Sound := State.sound_start clock
  rcases stays_or_attaches soundStart connected with
    stays | ⟨earlier, attaching, later, starting, steps_eq, attaches, stays, _⟩
  · -- At the start no session is connected.
    cases stays.first
  · have soundEarlier := sound_run soundStart earlier
    rcases attaches.fresh soundEarlier with ⟨now, fresh⟩
    exact ⟨earlier, attaching, later, starting, now, steps_eq, attaches, stays,
      sound_take soundEarlier attaching, fresh⟩

theorem sound_of_mem_flushes (sound : service.state.Sound) {step : Step} {flushed : State}
    (flushed_mem : flushed ∈ service.flushes session step) : flushed.Sound := by
  cases step with
  | flush other =>
      simp only [flushes] at flushed_mem
      split at flushed_mem
      · rw [List.mem_singleton.mp flushed_mem]
        exact sound
      · cases flushed_mem
  | flushAll order => exact State.sound_of_mem_flushesOf sound flushed_mem
  | _ => cases flushed_mem

/-- What the flushes of a step hand over to a session. -/
theorem acceptedIn_eq (sound : service.state.Sound) (step : Step) :
    service.acceptedIn session step =
      (service.flushes session step).flatMap (State.gainedBy service.settings session) := by
  cases step with
  | flush other =>
      by_cases own : other = session
      · subst own
        simp [flushes, acceptedIn, take, flush, State.gainedBy]
      · rw [acceptedIn_flush_of_ne sound (Ne.symm own)]
        simp [flushes, own]
  | flushAll order => exact State.gained_round service.settings sound order
  | _ => rfl

/-- What a run's flushes hand over to a session is what the flushes of the session do. -/
theorem accepted_eq {steps : List Step} (sound : service.state.Sound) :
    service.accepted session steps =
      (along (fun service => service.flushes session) service steps).flatMap
        (State.gainedBy service.settings session) := by
  induction steps generalizing service with
  | nil => rfl
  | cons step rest ih =>
      rw [accepted, along, List.flatMap_append, acceptedIn_eq sound step,
        ih (sound_take sound step), settings_take]

end Steps

end Service

end Tombstone
