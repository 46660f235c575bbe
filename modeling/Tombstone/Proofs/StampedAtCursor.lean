import Tombstone.Proofs.FlushRefusal
import Tombstone.Proofs.PendingCheck

/-!
# What is stamped at a cursor or later

A window leaves its start out, but starts before the cursor, as the skew tolerance is never zero. So
whatever is stamped at the cursor or later is in the window, also what is recorded in the very
instant to which the last flush has moved the cursor. The first instant of all is the exception:
nothing lies before it, so a window that starts there leaves it out.
-/

namespace Tombstone

/-- What a record adds to the ids after a time. -/
theorem Ledger.Ordered.mem_idsAfter_record {ledger : Ledger} (ordered : ledger.Ordered)
    {since time : Timestamp} {id other : EntityId} :
    other ∈ (ledger.record id time).idsAfter since ↔
      since < time ∧ other = id ∨ other ∈ ledger.idsAfter since := by
  simp only [idsAfter_eq_map, List.mem_map, (ordered.record id time).mem_recordsAfter,
    ordered.mem_recordsAfter, mem_records_record]
  constructor
  · rintro ⟨record, ⟨rfl | held, later⟩, rfl⟩
    · exact Or.inl ⟨later, rfl⟩
    · exact Or.inr ⟨record, ⟨held, later⟩, rfl⟩
  · rintro (⟨later, rfl⟩ | ⟨record, ⟨held, later⟩, rfl⟩)
    · exact ⟨{ deletedAt := time, id := other }, ⟨Or.inl rfl, later⟩, rfl⟩
    · exact ⟨record, ⟨Or.inr held, later⟩, rfl⟩

namespace State

/-- At the cursor or later, only the first instant of all is not in the window. -/
theorem windowStart_lt_iff_of_le {settings : Settings} {cursor time : Timestamp}
    (not_before : cursor ≤ time) : windowStart settings cursor < time ↔ Timestamp.zero < time := by
  constructor
  · intro later
    simp only [Timestamp.lt_iff, Timestamp.toNat_zero] at later ⊢
    omega
  · intro positive
    exact windowStart_lt_of_le positive not_before

section Record

variable {settings : Settings} {state : State} {session : SessionId}

theorem hasNews_record_iff {cursor time : Timestamp} {id : EntityId}
    (ordered : state.ledger.Ordered) (found : state.registry.cursor? session = some cursor) :
    (state.perform (.record id time)).hasNews settings session = true ↔
      windowStart settings cursor < time ∨ state.hasNews settings session = true := by
  have ordered_after : (state.perform (.record id time)).ledger.Ordered := ordered.record id time
  rw [hasNews_iff_idsAfter ordered found, hasNews_iff_idsAfter ordered_after found]
  simp only [perform, ne_eq, List.eq_nil_iff_forall_not_mem, ordered.mem_idsAfter_record,
    Classical.not_forall, Classical.not_not, exists_or, exists_and_left, exists_eq, and_true]

/-- A successful flush tells the session the ids of its window, and no others. -/
theorem exists_tells_iff {entry : Session} {summary : FlushSummary} {id : EntityId}
    (quiet : state.Quiet) (connected : state.registry.find? session = some entry)
    (succeeded : (state.flush settings session).1 = .ok summary) :
    (∃ bytes ∈ state.gained (state.flush settings session).2 session, Tells bytes id) ↔
      id ∈ state.ledger.idsAfter (windowStart settings entry.cursor) := by
  constructor
  · rintro ⟨bytes, bytes_mem, packet, read, id_mem⟩
    have built := (gained_prefix_flush quiet connected).subset bytes_mem
    rcases List.mem_map.mp built with ⟨sent, sent_mem, rfl⟩
    rw [(mem_packetsFor sent_mem).1] at read
    cases read
    rw [← flatMap_ids_packetsFor]
    exact List.mem_flatMap.mpr ⟨packet, sent_mem, id_mem⟩
  · exact flush_tells quiet connected succeeded

end Record

end State

namespace Service

/-- In whatever state a run arrives, a deletion that is stamped at a session's cursor or later makes
something pending, and the next flush that succeeds tells the session about it, unless it is stamped
at the first instant of all: then it makes no difference. The flush succeeds just if the session's
inbox has room for its packets. -/
theorem picked_up_iff (settings : Settings) (clock : Clock) (steps : List Step)
    (session : SessionId) (cursor : Timestamp) (id : EntityId) (time : Timestamp)
    (found : ((start settings clock).run steps).state.registry.cursor? session = some cursor)
    (not_before : cursor ≤ time) :
    let before := (start settings clock).run steps
    let after := before.record id time
    (after.hasNews session = true ↔ Timestamp.zero < time ∨ before.hasNews session = true) ∧
    ((∃ summary, (after.flush session).1 = .ok summary) ↔
      ∃ free, after.state.transport.HasRoom session free ∧
        (after.state.packetsOf settings session).length ≤ free) ∧
    ∀ summary, (after.flush session).1 = .ok summary →
      ((∃ bytes ∈ after.state.gained (after.flush session).2.state session, Tells bytes id) ↔
        Timestamp.zero < time ∨
          id ∈ before.state.ledger.idsAfter (State.windowStart settings cursor)) := by
  intro before after
  have sound : before.state.Sound := sound_run (State.sound_start clock) steps
  have soundAfter : after.state.Sound := sound.record id time
  have settings_before : before.settings = settings := settings_run _ steps
  have settings_after : after.settings = settings := settings_before
  have in_window : State.windowStart settings cursor < time ↔ Timestamp.zero < time :=
    State.windowStart_lt_iff_of_le not_before
  rcases Option.map_eq_some_iff.mp found with ⟨entry, connected, rfl⟩
  have connected_after : after.state.registry.find? session = some entry := connected
  refine ⟨?pending, ?succeeds, ?told⟩
  case pending =>
    simp only [hasNews, settings_before, settings_after, ← in_window]
    exact State.hasNews_record_iff sound.ordered found
  case succeeds =>
    rw [State.packetsOf_of_connected connected_after]
    simp only [flush, settings_after]
    exact (State.classified_of_connected soundAfter.quiet connected_after).ok_iff
  case told =>
    intro summary succeeded
    simp only [flush, settings_after] at succeeded ⊢
    rw [State.exists_tells_iff soundAfter.quiet connected_after succeeded]
    refine (sound.ordered.mem_idsAfter_record).trans ?_
    simp only [and_true, in_window]

/-- A flush moves the viewer's cursor to the time at which the record is made. -/
theorem picked_up_at_snapshot :
    let viewer : SessionId := ⟨"viewer"⟩
    let clock := Clock.manual .direct ⟨100⟩
    let steps : List Step :=
      [.attachNow viewer, .act (.register viewer 4 "viewer"), .act (.setClock ⟨200⟩), .flush viewer]
    let id := EntityId.ofNat 1
    let before := (start .pairs clock).run steps
    let after := before.record id ⟨200⟩
    before.state.registry.cursor? viewer = some ⟨200⟩ ∧
      (after.hasNews viewer = true ↔
        Timestamp.zero < ⟨200⟩ ∨ before.hasNews viewer = true) ∧
      ((∃ summary, (after.flush viewer).1 = .ok summary) ↔
        ∃ free, after.state.transport.HasRoom viewer free ∧
          (after.state.packetsOf .pairs viewer).length ≤ free) ∧
      ∀ summary, (after.flush viewer).1 = .ok summary →
        ((∃ bytes ∈ after.state.gained (after.flush viewer).2.state viewer, Tells bytes id) ↔
          Timestamp.zero < ⟨200⟩ ∨
            id ∈ before.state.ledger.idsAfter (State.windowStart .pairs ⟨200⟩)) := by
  intro viewer clock steps id
  have found : ((start .pairs clock).run steps).state.registry.cursor? viewer = some ⟨200⟩ := by
    decide +kernel
  exact ⟨found,
    picked_up_iff .pairs clock steps viewer ⟨200⟩ id ⟨200⟩ found (by decide)⟩

/-- The clock still shows the first instant when a flush has moved the viewer's cursor there and a
deletion is recorded. Nothing is pending, and the next flush sends just another header. -/
theorem first_instant_missed :
    let viewer : SessionId := ⟨"viewer"⟩
    let steps : List Step :=
      [.attachNow viewer, .act (.register viewer 4 "viewer"), .flush viewer,
        .recordNow (.ofNat 1)]
    let service := (start .pairs (.manual .direct ⟨0⟩)).run steps
    let after := (service.flush viewer).2
    service.state.registry.cursor? viewer = some ⟨0⟩ ∧
      service.state.ledger.holds (.ofNat 1) ⟨0⟩ = true ∧ service.hasNews viewer = false ∧
      (service.flush viewer).1.toOption =
        some { packetsSent := 1, bytesSent := 13, idsSent := 0, snapshot := ⟨0⟩ } ∧
      (service.state.gained after.state viewer).map
          (fun bytes => (Packet.ofBytes bytes).toOption.map (·.ids)) =
        [some []] := by
  decide +kernel

end Service

end Tombstone
