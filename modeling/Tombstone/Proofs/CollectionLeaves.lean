import Tombstone.Proofs.FlushTrail
import Tombstone.Proofs.LedgerHistory
import Tombstone.Proofs.RoundOrder

/-!
# What a collection leaves is needed

While a session is connected, no record stays in the ledger for nothing. A collection leaves a record
only if it is later than now or some session's cursor is not after it. In the second case the record
lies in that session's window, as the window starts before the cursor, and so the next dispatch round
tells the session about it, or counts a failure.
-/

namespace Tombstone

namespace State

theorem mem_records_of_collect {rules : CollectionRules} {state : State} {record : Record}
    (sound : state.Sound) (held : record ∈ (state.collect rules).2.ledger.records) :
    record ∈ state.ledger.records := by
  rcases collect_effect rules sound.quiet with ⟨ledger, clock, journal, collect_eq, ledger_cases, _⟩
  rw [collect_eq] at held
  rcases ledger_cases with rfl | rfl
  · exact held
  · exact (sound.ordered.mem_records_prune.mp held).1

/-- While a session is connected, what is held at the watermark or later, but not later than now, is
not before the cursor of some session. -/
theorem exists_cursor_le_of_watermark_le {state : State} {someone : SessionId} {time : Timestamp}
    (distinct : state.registry.Distinct) (attended : state.registry.isConnected someone = true)
    (not_before : state.nextWatermark.value ≤ time) (not_after : time ≤ state.clock.read.1.time) :
    ∃ session cursor, state.registry.cursor? session = some cursor ∧ cursor ≤ time := by
  rcases Watermark.value_le_iff.mp not_before with capped | ⟨⟨session, cursor⟩, visit_mem, within⟩
  · -- Only the last instant is both now and the instant after now, and no cursor is later.
    rcases Registry.isConnected_iff_cursor?.mp attended with ⟨cursor, found⟩
    refine ⟨someone, cursor, found, ?_⟩
    have cursor_lt := cursor.toNat_lt
    simp only [Watermark.cap, Timestamp.le_iff, Timestamp.toNat_advance] at capped not_after ⊢
    omega
  · exact ⟨session, cursor, (Registry.mem_cursors_iff distinct).mp visit_mem, within⟩

theorem hasNews_of_mem {settings : Settings} {state : State} {session : SessionId}
    {cursor : Timestamp} {record : Record} (ordered : state.ledger.Ordered)
    (found : state.registry.cursor? session = some cursor) (held : record ∈ state.ledger.records)
    (later : windowStart settings cursor < record.deletedAt) :
    state.hasNews settings session = true := by
  simp only [hasNews, found]
  apply ordered.hasRecordAfter_iff.mpr
  exact List.ne_nil_of_mem (ordered.mem_recordsAfter.mpr ⟨held, later⟩)

/-- A round in which a session is flushed while an id is pending for it tells the session about the
id if that flush succeeds, and counts a failure if it does not. -/
theorem round_of_mem_flushesOf {settings : Settings} {state flushed : State} {session : SessionId}
    {cursor : Timestamp} {id : EntityId} {order : List SessionId} (sound : state.Sound)
    (flushed_mem : flushed ∈ flushesOf settings session state order)
    (found : flushed.registry.cursor? session = some cursor)
    (pending : id ∈ flushed.ledger.idsAfter (windowStart settings cursor)) :
    let round := state.flushAllIn settings order
    (∀ summary, (flushed.flush settings session).1 = .ok summary →
      ∃ bytes ∈ state.gained round.2 session, Tells bytes id) ∧
    (∀ error, (flushed.flush settings session).1 = .error error → 0 < round.1.failures) := by
  intro round
  have soundFlushed : flushed.Sound := sound_of_mem_flushesOf sound flushed_mem
  rcases outcome_of_mem_flushesOf flushed_mem with ⟨news, outcome_mem⟩
  constructor
  · intro summary succeeded
    rcases Option.map_eq_some_iff.mp found with ⟨entry, connected, rfl⟩
    rcases flush_tells soundFlushed.quiet connected succeeded pending with ⟨bytes, told, tells⟩
    refine ⟨bytes, ?_, tells⟩
    rw [gained_round settings sound order]
    exact List.mem_flatMap.mpr ⟨flushed, flushed_mem, told⟩
  · intro error failed
    rw [failed] at outcome_mem
    have refusal : RoundSummary.isRefusal (some (.error error)) = true := by
      cases error with
      | unknownSession named =>
          have outcome_eq : flushed.outcome settings session =
              some (.error (.unknownSession named)) := by
            rw [outcome, if_pos news, failed]
          exact absurd outcome_eq (outcome_ne_unknown soundFlushed.quiet session named)
      | transport named index source => rfl
    simp only [round, flushAllIn_eq, RoundSummary.foldl_count, Nat.zero_add]
    exact List.countP_pos_iff.mpr ⟨_, outcome_mem, refusal⟩

end State

namespace Collector

/-- While a session is connected, every record that a collection leaves and that is not later than
now is pending for some session, and the next dispatch round, in whatever order it visits the
sessions, builds a packet for the session that carries the record's id. If the flush of the session
succeeds, the round has told the session about the id, and otherwise it counts a failure. -/
theorem left_record_pending (settings : Settings) (collector : Collector) (state : State)
    (someone : SessionId) (order : List SessionId) (sound : state.Sound)
    (attended : state.registry.isConnected someone = true)
    (positive : ∀ record ∈ state.ledger.records, Timestamp.zero < record.deletedAt)
    (visited : ∀ session ∈ state.registry.ids, session ∈ order) :
    let now := state.clock.read.1.time
    let after := (collector.tick state).2.2
    ∀ record ∈ after.ledger.records, record.deletedAt ≤ now →
      ∃ session cursor,
        after.registry.cursor? session = some cursor ∧
        cursor.toNat - settings.skewTolerance < record.deletedAt.toNat ∧
        after.hasNews settings session = true ∧
        ∃ flushed ∈ State.flushesOf settings session after order,
          (∃ packet ∈ State.packetsFor settings flushed session cursor flushed.clock.read.1.time,
            record.id ∈ packet.ids) ∧
          let round := after.flushAllIn settings order
          (∀ summary, (flushed.flush settings session).1 = .ok summary →
            ∃ bytes ∈ after.gained round.2 session, Tells bytes record.id) ∧
          (∀ error, (flushed.flush settings session).1 = .error error → 0 < round.1.failures) := by
  intro now after record left not_after
  have held : record ∈ state.ledger.records := State.mem_records_of_collect sound left
  have soundAfter : after.Sound := sound.collect collector.rules
  have registry_eq : after.registry = state.registry :=
    State.registry_collect collector.rules sound.quiet
  have some_visit : state.registry.cursors ≠ [] := by
    rcases Registry.isConnected_iff_cursor?.mp attended with ⟨_, found⟩
    exact List.ne_nil_of_mem (Registry.mem_cursors_of_cursor? found)
  have not_before : state.nextWatermark.value ≤ record.deletedAt :=
    (State.mem_records_collect_iff collector.rules sound.quiet sound.ordered some_visit held).mp left
  rcases State.exists_cursor_le_of_watermark_le sound.distinct attended not_before not_after with
    ⟨session, cursor, found, cursor_le⟩
  have later : State.windowStart settings cursor < record.deletedAt :=
    State.windowStart_lt_of_le (positive record held) cursor_le
  have foundAfter : after.registry.cursor? session = some cursor := by rw [registry_eq, found]
  have news := State.hasNews_of_mem soundAfter.ordered foundAfter left later
  have session_mem : session ∈ order := by
    apply visited session
    exact Directory.contains_iff_mem_keys.mp
      (Registry.isConnected_iff_cursor?.mpr ⟨cursor, found⟩)
  rcases State.exists_mem_flushesOf soundAfter.quiet news session_mem with
    ⟨flushed, flushed_mem, ledger_eq, cursor_eq⟩
  have pending : record.id ∈ flushed.ledger.idsAfter (State.windowStart settings cursor) := by
    rw [ledger_eq]
    exact soundAfter.ordered.mem_idsAfter left later
  exact ⟨session, cursor, foundAfter, State.windowStart_lt_iff.mp later, news, flushed,
    flushed_mem, State.exists_mem_packetsFor pending,
    State.round_of_mem_flushesOf soundAfter flushed_mem (cursor_eq.trans foundAfter) pending⟩

/-- One session is ahead of the clock and one behind; the record at 95 stays for the second. -/
theorem left_record_pending_for_slower :
    let slow : SessionId := ⟨"slow"⟩
    let ahead : SessionId := ⟨"ahead"⟩
    let clock : Clock := .manual .direct ⟨100⟩
    let steps : List Step :=
      [.act (.attach ahead ⟨100⟩ ⟨500⟩), .act (.attach slow ⟨90⟩ ⟨90⟩), .record (.ofNat 1) ⟨50⟩,
        .record (.ofNat 2) ⟨95⟩, .record (.ofNat 3) ⟨200⟩]
    let state := ((Service.start .pairs clock).run steps).state
    let collector : Collector := {}
    let order := [ahead, slow]
    state.Sound ∧ state.registry.isConnected ahead = true ∧
      (∀ record ∈ state.ledger.records, Timestamp.zero < record.deletedAt) ∧
      (∀ session ∈ state.registry.ids, session ∈ order) ∧
      { deletedAt := ⟨95⟩, id := .ofNat 2 } ∈ (collector.tick state).2.2.ledger.records ∧
      let now := state.clock.read.1.time
      let after := (collector.tick state).2.2
      ∀ record ∈ after.ledger.records, record.deletedAt ≤ now →
        ∃ session cursor,
          after.registry.cursor? session = some cursor ∧
          cursor.toNat - Settings.pairs.skewTolerance < record.deletedAt.toNat ∧
          after.hasNews .pairs session = true ∧
          ∃ flushed ∈ State.flushesOf .pairs session after order,
            (∃ packet ∈ State.packetsFor .pairs flushed session cursor flushed.clock.read.1.time,
              record.id ∈ packet.ids) ∧
            let round := after.flushAllIn .pairs order
            (∀ summary, (flushed.flush .pairs session).1 = .ok summary →
              ∃ bytes ∈ after.gained round.2 session, Tells bytes record.id) ∧
            (∀ error, (flushed.flush .pairs session).1 = .error error →
              0 < round.1.failures) := by
  intro slow ahead clock steps state collector order
  have sound : state.Sound := Service.sound_run (State.sound_start clock) steps
  have attended : state.registry.isConnected ahead = true := by decide
  have positive : ∀ record ∈ state.ledger.records, Timestamp.zero < record.deletedAt := by decide
  have visited : ∀ session ∈ state.registry.ids, session ∈ order := by decide
  have left : { deletedAt := ⟨95⟩, id := .ofNat 2 } ∈
      (collector.tick state).2.2.ledger.records := by
    decide +kernel
  exact ⟨sound, attended, positive, visited, left,
    left_record_pending .pairs collector state ahead order sound attended positive visited⟩

end Collector

end Tombstone
