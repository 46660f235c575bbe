import Tombstone.Proofs.Runs
import Tombstone.Proofs.WindowDelivery

/-!
# What a collection takes out of a window

A session's window starts before its cursor, by the skew tolerance, but the watermark of a
collection is made of the cursors themselves. A record that was stamped before every cursor is
therefore taken by the next collection, even where it lies in the window of a session that has not
been told about it. It stays just if some session's cursor is not after it, or if it is stamped
later than now; and as long as it stays, a flush that succeeds tells about it.
-/

namespace Tombstone

namespace Service

/-- A record in the window of a connected session outlasts a collection just if it is later than now
or some connected session has a cursor that is not after it. If it does, the session's next
successful flush tells about it. -/
theorem collect_holds_iff (settings : Settings) (clock : Clock) (steps : List Step)
    (session : SessionId) (cursor : Timestamp) (id : EntityId) (time : Timestamp)
    (connected : ((start settings clock).run steps).state.registry.cursor? session = some cursor)
    (held : ((start settings clock).run steps).state.ledger.holds id time = true)
    (window : cursor.toNat - settings.skewTolerance < time.toNat) :
    let before := (start settings clock).run steps
    let after := before.collect.2
    (after.state.ledger.holds id time = true ↔
      Watermark.cap before.state.clock.read.1.time ≤ time ∨
        ∃ other otherCursor, before.state.registry.cursor? other = some otherCursor ∧
          otherCursor ≤ time) ∧
    (after.state.ledger.holds id time = true →
      ∀ summary, (after.flush session).1 = .ok summary →
        ∃ bytes ∈ after.state.gained (after.flush session).2.state session, Tells bytes id) := by
  intro before after
  have sound : before.state.Sound := sound_run (State.sound_start clock) steps
  have soundAfter : after.state.Sound := sound_take sound .collect
  refine ⟨?_, fun stayed summary succeeded => ?_⟩
  · have attended : before.state.registry.cursors ≠ [] :=
      List.ne_nil_of_mem (Registry.mem_cursors_of_cursor? connected)
    have stays := State.mem_records_collect_iff before.collector.rules sound.quiet sound.ordered
      attended (Ledger.holds_iff_mem_records.mp held)
    rw [Ledger.holds_iff_mem_records]
    refine stays.trans (Watermark.value_le_iff.trans (or_congr Iff.rfl ?_))
    constructor
    · rintro ⟨⟨other, otherCursor⟩, visit_mem, not_after⟩
      exact ⟨other, otherCursor, (Registry.mem_cursors_iff sound.distinct).mp visit_mem, not_after⟩
    · rintro ⟨other, otherCursor, found, not_after⟩
      exact ⟨(other, otherCursor), Registry.mem_cursors_of_cursor? found, not_after⟩
  · rcases Option.map_eq_some_iff.mp connected with ⟨entry, found, rfl⟩
    have settings_eq : after.settings = settings :=
      (settings_take before .collect).trans (settings_run _ steps)
    have connectedAfter : after.state.registry.find? session = some entry :=
      (congrArg (·.find? session) (State.registry_collect _ sound.quiet)).trans found
    have later : State.windowStart after.settings entry.cursor < time := by
      rw [settings_eq]
      exact State.windowStart_lt_iff.mpr window
    exact State.flush_tells soundAfter.quiet connectedAfter succeeded
      (soundAfter.ordered.mem_idsAfter (Ledger.holds_iff_mem_records.mp stayed) later)

/-- The record lies before the viewer's cursor, but the second session's cursor holds it. -/
theorem collect_holds_for_slower :
    let viewer : SessionId := ⟨"viewer"⟩
    let slow : SessionId := ⟨"slow"⟩
    let clock : Clock := .manual .direct ⟨100⟩
    let steps : List Step :=
      [.act (.attach slow ⟨90⟩ ⟨90⟩), .attachNow viewer, .record (.ofNat 1) ⟨95⟩]
    let id := EntityId.ofNat 1
    let before := (start .pairs clock).run steps
    let after := before.collect.2
    before.state.registry.cursor? viewer = some ⟨100⟩ ∧ before.state.ledger.holds id ⟨95⟩ = true ∧
      (after.state.ledger.holds id ⟨95⟩ = true ↔
        Watermark.cap before.state.clock.read.1.time ≤ ⟨95⟩ ∨
          ∃ other otherCursor, before.state.registry.cursor? other = some otherCursor ∧
            otherCursor ≤ ⟨95⟩) ∧
      (after.state.ledger.holds id ⟨95⟩ = true →
        ∀ summary, (after.flush viewer).1 = .ok summary →
          ∃ bytes ∈ after.state.gained (after.flush viewer).2.state viewer, Tells bytes id) := by
  intro viewer slow clock steps id
  exact ⟨by decide, by decide,
    collect_holds_iff .pairs clock steps viewer ⟨100⟩ id ⟨95⟩ (by decide) (by decide) (by decide)⟩

/-- The viewer, to whom no packet was sent yet, has a record in its window until it is collected. -/
theorem collect_takes_untold :
    let viewer : SessionId := ⟨"viewer"⟩
    let steps : List Step := [.attachNow viewer, .record (.ofNat 1) ⟨95⟩]
    let before := (start .pairs (.manual .direct ⟨100⟩)).run steps
    before.state.registry.find? viewer = some { attachedAt := ⟨100⟩, cursor := ⟨100⟩ } ∧
      before.state.ledger.holds (.ofNat 1) ⟨95⟩ = true ∧
      100 - Settings.pairs.skewTolerance < 95 ∧ before.hasNews viewer = true ∧
      before.collect.2.state.ledger.holds (.ofNat 1) ⟨95⟩ = false ∧
      before.collect.2.hasNews viewer = false := by
  decide +kernel

end Service

end Tombstone
