import Tombstone.Proofs.CleanRound
import Tombstone.Proofs.NonInterference
import Tombstone.Proofs.NothingLost
import Tombstone.Simulation.Viewer

/-!
# What a viewer knows

Every viewer has an inbox of its own, so whatever it does concerns its own session alone. As long as
it is connected, each deletion recorded since then was told to it or is pending for its session:
flushes whose packets it takes out of its inbox tell what is pending, and connecting and
disconnecting start afresh. After a flush in which nothing was refused it was told everything.
-/

namespace Tombstone

/-! ## Names -/

namespace Viewer

/-- The index of a viewer can be read off its session's name. -/
theorem sessionId_injective (word : String) : Function.Injective (sessionId word) := by
  have read (index : Nat) :
      Nat.ofDigitChars 10 ((sessionId word index).name.toList.drop word.toList.length) 0 =
        index := by
    simp only [sessionId, String.toList_append, List.append_assoc, List.drop_left]
    rw [Nat.ofDigitChars_append, Nat.toString_eq_repr, Nat.toList_repr]
    split <;> exact Nat.ofDigitChars_ten_toDigits
  intro left right same
  rw [← read left, same, read right]

/-! ## Hearing -/

theorem contains_foldl_hear {ids : List EntityId} {progress : Haul × Std.HashSet EntityId}
    {id : EntityId} :
    (ids.foldl hear progress).2.contains id = true ↔
      progress.2.contains id = true ∨ id ∈ ids := by
  induction ids generalizing progress with
  | nil => simp
  | cons first rest ih =>
      rw [List.foldl_cons, ih]
      simp only [hear, Std.HashSet.contains_insert, Bool.or_eq_true, beq_iff_eq, List.mem_cons]
      rw [or_comm (a := first = id), or_assoc, eq_comm (a := first)]

theorem mem_idsIn {packets : List Bytes} {bytes : Bytes} {id : EntityId} (tells : Tells bytes id)
    (bytes_mem : bytes ∈ packets) : id ∈ idsIn packets := by
  rcases tells with ⟨packet, packet_eq, id_mem⟩
  refine List.mem_flatMap.mpr ⟨bytes, bytes_mem, ?_⟩
  rw [packet_eq]
  exact id_mem

end Viewer

/-! ## What concerns one session -/

namespace Service

/-- What is done for a session, at a time at which a clock is at rest, leaves the ledger, the
collector and what the other sessions have alone. -/
structure Concerns (session : SessionId) (time : Timestamp) (before after : Service) : Prop where
  apart : after.state.Apart SessionId.mk time
  ledger_eq : after.state.ledger = before.state.ledger
  collector_eq : after.collector = before.collector
  mirrors : ∀ other, other ≠ session → after.state.Mirrors SessionId.mk other before.state

section Concerns

variable {session : SessionId} {time : Timestamp} {service before middle after : Service}

theorem Concerns.refl (apart : service.state.Apart SessionId.mk time) :
    Concerns session time service service :=
  ⟨apart, rfl, rfl, fun other _ => .refl SessionId.mk other service.state⟩

theorem Concerns.trans (first : Concerns session time before middle)
    (second : Concerns session time middle after) : Concerns session time before after :=
  ⟨second.apart, second.ledger_eq.trans first.ledger_eq,
    second.collector_eq.trans first.collector_eq, fun other different =>
      (second.mirrors other different).trans (first.mirrors other different)⟩

theorem concerns_take (apart : service.state.Apart SessionId.mk time) {step : Step}
    (keeps : step.KeepsTo SessionId.mk) (addressed : step.addressee SessionId.mk = some session) :
    Concerns session time service (service.take step) := by
  rcases apart_take apart keeps addressed with ⟨apartAfter, ledger_eq⟩
  refine ⟨apartAfter, ledger_eq, ?_, fun other different =>
    mirrors_take_of_ne apart keeps addressed different⟩
  cases step with
  | collect => cases addressed
  | _ => rfl

theorem Concerns.act (concerns : Concerns session time before after) (action : Action)
    (keeps : action.KeepsTo SessionId.mk)
    (addressed : action.addressee SessionId.mk = some session) :
    Concerns session time before (after.take (.act action)) :=
  concerns.trans (concerns_take concerns.apart keeps addressed)

end Concerns

end Service

namespace Viewer

/-! ## Being informed -/

/-- The registry and the viewer agree on whether it is connected, its session's cursor is not later
than now, and every deletion of a log that was recorded since it was connected was told to it or is
pending for its session. -/
structure Informed (viewer : Viewer) (now : Timestamp) (log : List Record) (state : State) :
    Prop where
  connected_eq : state.registry.isConnected viewer.session = viewer.isConnected
  cursor_le : ∀ cursor, state.registry.cursor? viewer.session = some cursor → cursor ≤ now
  told : ∀ attachedAt, viewer.attachedAt = some attachedAt → ∀ record ∈ log,
    attachedAt < record.deletedAt →
      viewer.received.contains record.id = true ∨ state.Pending viewer.session record

/-- The viewer was told every deletion of a log that was recorded since it was connected, and its
session is past all records that are held. -/
structure Settled (viewer : Viewer) (log : List Record) (state : State) : Prop where
  told : ∀ attachedAt, viewer.attachedAt = some attachedAt → ∀ record ∈ log,
    attachedAt < record.deletedAt → viewer.received.contains record.id = true
  past : state.PastAll viewer.session

section Informed

variable {viewer : Viewer} {now : Timestamp} {log : List Record} {before after : State}

/-- What is done for others leaves a viewer as informed as it was. -/
theorem Informed.of_mirrors (informed : viewer.Informed now log before)
    (ledger_eq : after.ledger = before.ledger)
    (mirrors : after.Mirrors SessionId.mk viewer.session before) :
    viewer.Informed now log after := by
  have cursor_eq : after.registry.cursor? viewer.session =
      before.registry.cursor? viewer.session := congrArg (Option.map _) mirrors.entry_eq
  refine ⟨mirrors.isConnected_eq.trans informed.connected_eq, ?_, ?_⟩
  · rw [cursor_eq]
    exact informed.cursor_le
  · intro attachedAt attached record record_mem later
    refine (informed.told attachedAt attached record record_mem later).imp id fun pending => ?_
    refine pending.of_kept (fun held => ?_) fun cursor found => ?_
    · rw [ledger_eq]
      exact held
    · rw [← cursor_eq]
      exact found

theorem Settled.of_mirrors (settled : viewer.Settled log before)
    (ledger_eq : after.ledger = before.ledger)
    (mirrors : after.Mirrors SessionId.mk viewer.session before) : viewer.Settled log after := by
  have cursor_eq : after.registry.cursor? viewer.session =
      before.registry.cursor? viewer.session := congrArg (Option.map _) mirrors.entry_eq
  refine ⟨settled.told, ?_⟩
  intro cursor found record held
  rw [cursor_eq] at found
  rw [ledger_eq] at held
  exact settled.past cursor found record held

/-- Nothing was missed by a viewer that is settled. -/
theorem Settled.missed_eq (settled : viewer.Settled log before) : viewer.missed log = [] := by
  cases attached : viewer.attachedAt with
  | none => rw [missed, attached]
  | some attachedAt =>
      simp only [missed, attached, List.filter_eq_nil_iff, Bool.and_eq_true, decide_eq_true_eq,
        Bool.not_eq_true', not_and, Bool.not_eq_false]
      exact settled.told attachedAt attached

/-- A viewer that is not connected has nothing to be told. -/
theorem Informed.settled (informed : viewer.Informed now log before)
    (absent : viewer.isConnected = false) : viewer.Settled log before := by
  constructor
  · intro attachedAt attached
    simp [isConnected, attached] at absent
  · intro cursor found
    have connected := Registry.isConnected_iff_cursor?.mpr ⟨cursor, found⟩
    rw [informed.connected_eq, absent] at connected
    cases connected

end Informed

/-! ## Connecting and disconnecting -/

section Connections

variable {viewer : Viewer} {now : Timestamp} {log : List Record} {service : Service}

theorem concerns_connect (apart : service.state.Apart SessionId.mk now) :
    Service.Concerns viewer.session now service (viewer.connect now service).2 := by
  have attached : Service.Concerns viewer.session now service
      (service.take (.act (.attach viewer.session now now))) :=
    Service.concerns_take apart trivial rfl
  exact attached.act (.register viewer.session inboxCapacity viewer.inbox) rfl rfl

/-- A viewer that is connected starts afresh: nothing was recorded since. -/
theorem informed_connect (absent : service.state.registry.isConnected viewer.session = false)
    (recorded : ∀ record ∈ log, record.deletedAt ≤ now) :
    (viewer.connect now service).1.Informed now log (viewer.connect now service).2.state := by
  rcases State.attach_effect service.state viewer.session now now with ⟨journal, attach_eq⟩
  have cursor_eq : (viewer.connect now service).2.state.registry.cursor? viewer.session =
      some now := by
    simp only [connect, attach_eq]
    rw [Registry.cursor?_attach, if_pos ⟨absent, rfl⟩]
  refine ⟨Registry.isConnected_iff_cursor?.mpr ⟨now, cursor_eq⟩, ?_, ?_⟩
  · intro cursor found
    obtain rfl : now = cursor := Option.some.inj (cursor_eq.symm.trans found)
    exact Nat.le_refl _
  · intro attachedAt attached record record_mem later
    obtain rfl : now = attachedAt := Option.some.inj attached
    exact absurd later (Nat.not_lt_of_le (recorded record record_mem))

theorem concerns_disconnect (apart : service.state.Apart SessionId.mk now) :
    Service.Concerns viewer.session now service (viewer.disconnect service).2 := by
  have detached : Service.Concerns viewer.session now service
      (service.take (.act (.detach viewer.session))) :=
    Service.concerns_take apart trivial rfl
  have unregistered := detached.act (.unregister viewer.session) trivial rfl
  exact unregistered.act (.dropInbox viewer.inbox) trivial rfl

theorem informed_disconnect :
    (viewer.disconnect service).1.Informed now log (viewer.disconnect service).2.state := by
  rcases State.detach_effect service.state viewer.session with ⟨journal, detach_eq⟩
  have cursor_eq : (viewer.disconnect service).2.state.registry.cursor? viewer.session = none := by
    simp only [disconnect, detach_eq]
    rw [Registry.cursor?_detach, if_pos rfl]
  refine ⟨?_, ?_, ?_⟩
  · apply Bool.eq_false_iff.mpr
    intro connected
    rcases Registry.isConnected_iff_cursor?.mp connected with ⟨cursor, found⟩
    rw [show (viewer.disconnect service).1.session = viewer.session from rfl, cursor_eq] at found
    cases found
  · intro cursor found
    cases cursor_eq.symm.trans found
  · intro attachedAt attached
    cases attached

end Connections

/-! ## Flushing -/

/-- Flushes the viewer's session and takes everything out of its inbox. -/
def takeIn (viewer : Viewer) (service : Service) : Viewer × Service :=
  (viewer.drain (service.flush viewer.session).2).2

section Flushes

variable {viewer : Viewer} {now : Timestamp} {log : List Record} {service : Service}

theorem concerns_takeIn (apart : service.state.Apart SessionId.mk now) :
    Service.Concerns viewer.session now service (viewer.takeIn service).2 := by
  have flushed : Service.Concerns viewer.session now service
      (service.take (.flush viewer.session)) :=
    Service.concerns_take apart trivial rfl
  exact flushed.act (.drain viewer.inbox) trivial rfl

/-- A viewer does not forget what it was told. -/
theorem contains_takeIn {id : EntityId} (known : viewer.received.contains id = true) :
    (viewer.takeIn service).1.received.contains id = true :=
  contains_foldl_hear.mpr (Or.inl known)

/-- What a flush tells a session is heard by its viewer. -/
theorem contains_takeIn_of_gained (apart : service.state.Apart SessionId.mk now) {id : EntityId}
    (told : ∃ bytes ∈ service.state.gained
      (service.state.flush service.settings viewer.session).2 viewer.session, Tells bytes id) :
    (viewer.takeIn service).1.received.contains id = true := by
  rcases told with ⟨bytes, gained, tells⟩
  have apartFlushed := apart.flush service.settings viewer.session
  have queued := List.mem_of_mem_drop gained
  -- The connection leads to the inbox of the session's own name.
  have waits : bytes ∈
      (service.state.flush service.settings viewer.session).2.transport.waiting viewer.inbox := by
    rw [Transport.queue] at queued
    split at queued
    · next name connection =>
        have own := apartFlushed.owned.owner_eq apartFlushed.sound.paired connection
        have name_eq : viewer.inbox = name := congrArg SessionId.name own.symm
        rw [name_eq]
        exact queued
    · cases queued
  exact contains_foldl_hear.mpr (Or.inr (mem_idsIn tells waits))

/-- A flush leaves a viewer informed, whether it succeeds or not. -/
theorem Informed.takeIn (informed : viewer.Informed now log service.state)
    (apart : service.state.Apart SessionId.mk now)
    (positive : ∀ record ∈ log, Timestamp.zero < record.deletedAt) :
    (viewer.takeIn service).1.Informed now log (viewer.takeIn service).2.state := by
  have quiet := apart.sound.quiet
  refine ⟨?_, ?_, ?_⟩
  · have ids_eq : (viewer.takeIn service).2.state.registry.ids = service.state.registry.ids :=
      State.ids_flush quiet
    refine Eq.trans ?_ informed.connected_eq
    apply Bool.eq_iff_iff.mpr
    rw [Registry.isConnected_iff_mem_ids, Registry.isConnected_iff_mem_ids, ids_eq]
    rfl
  · exact State.cursor_flush_le service.settings viewer.session quiet
      (Nat.le_of_eq (congrArg Timestamp.toNat apart.rests.time_eq)) informed.cursor_le
  · intro attachedAt attached record record_mem later
    rcases informed.told attachedAt attached record record_mem later with known | pending
    · exact Or.inl (contains_takeIn known)
    · rcases pending.flush apart.sound (positive record record_mem) service.settings
        viewer.session with told | pendingAfter
      · exact Or.inl (contains_takeIn_of_gained apart told)
      · exact Or.inr ⟨pendingAfter.held, pendingAfter.cursor_le⟩

/-- A flush that succeeds after the last recording settles the viewer. -/
theorem Informed.settled_takeIn (informed : viewer.Informed now log service.state)
    (apart : service.state.Apart SessionId.mk now)
    (positive : ∀ record ∈ log, Timestamp.zero < record.deletedAt)
    (earlier : ∀ record ∈ service.state.ledger.records, record.deletedAt < now)
    {summary : FlushSummary} (succeeded : (service.flush viewer.session).1 = .ok summary) :
    (viewer.takeIn service).1.Settled log (viewer.takeIn service).2.state := by
  have quiet := apart.sound.quiet
  constructor
  · intro attachedAt attached record record_mem later
    rcases informed.told attachedAt attached record record_mem later with known | pending
    · exact contains_takeIn known
    · cases connected : service.state.registry.find? viewer.session with
      | none =>
          rw [Service.flush, State.flush_of_unknown connected] at succeeded
          cases succeeded
      | some entry =>
          have found : service.state.registry.cursor? viewer.session = some entry.cursor := by
            rw [Registry.cursor?, connected, Option.map_some]
          exact contains_takeIn_of_gained apart (State.flush_tells quiet connected succeeded
            (pending.mem_idsAfter apart.sound.ordered (positive record record_mem) found))
  · rw [← apart.rests.time_eq] at earlier
    exact State.pastAll_of_told quiet earlier succeeded

end Flushes

end Viewer

/-! ## Each viewer in turn -/

section EachViewer

variable {β : Type} {act : Viewer → β → Viewer × β}

theorem map_session_eachViewer
    (kept : ∀ viewer shared, (act viewer shared).1.session = viewer.session)
    (viewers : List Viewer) (shared : β) :
    (eachViewer act viewers shared).1.map (·.session) = viewers.map (·.session) := by
  induction viewers generalizing shared with
  | nil => rfl
  | cons viewer rest ih => simp only [eachViewer, List.map_cons, kept, ih]

/-- When each viewer in turn brings something about for itself, and spoils neither what the others
need for their own turns nor what they have brought about, it is brought about for all. -/
theorem eachViewer_induction (common : β → Prop) (before after : Viewer → β → Prop)
    (kept : ∀ viewer shared, (act viewer shared).1.session = viewer.session)
    (own : ∀ viewer shared, common shared → before viewer shared →
      common (act viewer shared).2 ∧ after (act viewer shared).1 (act viewer shared).2)
    (others : ∀ viewer shared other, common shared → before viewer shared →
      other.session ≠ viewer.session →
        (before other shared → before other (act viewer shared).2) ∧
          (after other shared → after other (act viewer shared).2))
    {viewers : List Viewer} {shared : β} (distinct : (viewers.map (·.session)).Nodup)
    (holds : common shared) (ready : ∀ viewer ∈ viewers, before viewer shared) :
    common (eachViewer act viewers shared).2 ∧
      (∀ viewer ∈ (eachViewer act viewers shared).1,
        after viewer (eachViewer act viewers shared).2) ∧
      ∀ other : Viewer, other.session ∉ viewers.map (·.session) → after other shared →
        after other (eachViewer act viewers shared).2 := by
  induction viewers generalizing shared with
  | nil => exact ⟨holds, by simp [eachViewer], fun _ _ done => done⟩
  | cons viewer rest ih =>
      rcases List.nodup_cons.mp distinct with ⟨fresh, distinctRest⟩
      rcases List.forall_mem_cons.mp ready with ⟨readyFirst, readyRest⟩
      rcases own viewer shared holds readyFirst with ⟨holdsNext, done⟩
      have readyNext : ∀ other ∈ rest, before other (act viewer shared).2 := by
        intro other other_mem
        have different : other.session ≠ viewer.session := fun same =>
          fresh (List.mem_map.mpr ⟨other, other_mem, same⟩)
        exact (others viewer shared other holds readyFirst different).1 (readyRest other other_mem)
      rcases ih distinctRest holdsNext readyNext with ⟨holdsLast, doneRest, spared⟩
      refine ⟨holdsLast, List.forall_mem_cons.mpr ⟨?_, doneRest⟩, ?_⟩
      · refine spared _ ?_ done
        rw [kept]
        exact fresh
      · intro other absent doneOther
        rcases not_or.mp (mt List.mem_cons.mpr absent) with ⟨different, absentRest⟩
        exact spared other absentRest
          ((others viewer shared other holds readyFirst different).2 doneOther)

end EachViewer

end Tombstone
