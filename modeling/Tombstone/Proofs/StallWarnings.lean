import Tombstone.Proofs.CollectionExactness
import Tombstone.Proofs.CollectionLeaves
import Tombstone.Proofs.CursorHistory
import Tombstone.Proofs.LagReport

/-!
# What a warning about a stalled session says

Who is reported as lagging, and warned about in a collection, depends on cursors and on the clock
alone. Whether a session's cursor keeps a record from being collected depends on the past: no
collection removes what is not before the cursor of a connected session, and no cursor goes back, so
the cursor keeps just what was held when the session was attached or made since, at a time from the
cursor up to now. If nothing of the kind was made, dispatch rounds leave the cursor where it is, and
the session is warned about once the cursor lags far enough, although it holds nothing back.
-/

namespace Tombstone

/-- The laggard that an event warns about. -/
def Event.laggard? : Event → Option Laggard
  | .stalled laggard => some laggard
  | _ => none

namespace State

/-- The warnings about stalled sessions noted so far, the latest first. -/
def warnings (state : State) : List Laggard := state.journal.filterMap Event.laggard?

/-- A record that is held and could be collected now if a cursor did not keep it. -/
structure HoldsBack (state : State) (cursor : Timestamp) (record : Record) : Prop where
  held : record ∈ state.ledger.records
  not_before : cursor ≤ record.deletedAt
  not_after : record.deletedAt ≤ state.clock.read.1.time

section Warnings

variable {state : State}

theorem warnings_readClock (quiet : state.Quiet) :
    state.readClock.2.warnings = state.warnings := by
  have turned : state.yieldBeforeReading = state := by
    rw [yieldBeforeReading, quiet]
  rw [readClock, turned]
  dsimp only
  split <;> rfl

theorem laggards_eq (quiet : state.Quiet) (threshold : Duration) :
    (state.laggards threshold).1 =
      Tombstone.laggards state.registry.cursors state.clock.read.1.time threshold := by
  rcases readClock_of_quiet quiet with ⟨journal, read_eq⟩
  simp only [laggards, read_eq]

/-- A collection that finds something held warns about the laggards, the slowest first; any other
warns about nobody. -/
theorem warnings_collect (rules : CollectionRules) (quiet : state.Quiet)
    (ordered : state.ledger.Ordered) :
    (state.collect rules).2.warnings =
      (if state.ledger.records = [] then [] else (state.laggards rules.stallAfter).1.reverse) ++
        state.warnings := by
  by_cases empty : state.ledger.records = []
  · rw [collect_of_empty ordered empty, if_pos empty, List.nil_append]
  · have some_bucket := ordered.hasBucket_iff.mpr empty
    rcases readClock_of_quiet quiet with ⟨journal, read_eq⟩
    have read_warnings := warnings_readClock quiet
    rw [read_eq] at read_warnings
    rw [if_neg empty, laggards_eq quiet, ← read_warnings]
    simp only [collect, some_bucket, if_true, read_eq]
    split
    · next retained =>
        -- Without any session there is no laggard either.
        rw [Bool.and_eq_true] at retained
        have nobody := isUnattended_nextWatermark_iff.mp retained.1
        rw [Registry.ids_eq_nil_iff] at nobody
        simp [nobody, Tombstone.laggards, warnings, note, List.filterMap_cons, Event.laggard?]
    · rw [foldl_note_stalled]
      simp [pruneAt, warnings, note, List.filterMap_cons, List.filterMap_map, Function.comp_def,
        Event.laggard?]

end Warnings

end State

namespace Service

/-- The records that a step makes. -/
def made (service : Service) : Step → List Record
  | .record id time | .act (.record id time) => [{ deletedAt := time, id }]
  | .recordNow id => [{ deletedAt := service.state.clock.read.1.time, id }]
  | _ => []

end Service

/-- Whether a step is another party's prune of the ledger. -/
def Step.isPrune : Step → Bool
  | .act (.prune _) => true
  | _ => false

namespace Service

section Runs

variable {service : Service} {session : SessionId} {cursor : Timestamp} {record : Record}

/-- A step keeps what is not before the cursor of a connected session, and adds what it makes. -/
theorem mem_records_take_iff {step : Step} (sound : service.state.Sound)
    (found : service.state.registry.cursor? session = some cursor)
    (not_before : cursor ≤ record.deletedAt) (unpruned : step.isPrune = false) :
    record ∈ (service.take step).state.ledger.records ↔
      record ∈ service.state.ledger.records ∨ record ∈ service.made step := by
  have of_kept (ledger_eq : (service.take step).state.ledger = service.state.ledger)
      (none_made : service.made step = []) :
      record ∈ (service.take step).state.ledger.records ↔
        record ∈ service.state.ledger.records ∨ record ∈ service.made step := by
    simp [ledger_eq, none_made]
  rcases State.readClock_of_quiet sound.quiet with ⟨journal, read_eq⟩
  have ledger_read : service.state.readClock.2.ledger = service.state.ledger := by rw [read_eq]
  cases step with
  | record id time => exact Ledger.mem_records_record.trans (by simp [made, or_comm])
  | recordNow id =>
      simp only [take, recordNow, read_eq]
      exact Ledger.mem_records_record.trans (by simp [made, or_comm])
  | attachNow other =>
      apply of_kept _ rfl
      rcases State.attach_effect service.state.readClock.2 other service.state.readClock.1
        service.state.readClock.1 with ⟨_, attach_eq⟩
      simp only [take, attachNow, attach_eq]
      exact ledger_read
  | flush other => exact of_kept (State.ledger_flush sound.quiet) rfl
  | flushAll order =>
      apply of_kept _ rfl
      simp only [take, State.flushAllIn_eq]
      exact State.ledger_round sound order
  | collect =>
      have in_range : service.state.nextWatermark.value ≤ record.deletedAt :=
        Nat.le_trans (Watermark.value_le_cursor (Registry.mem_cursors_of_cursor? found)) not_before
      simp only [made, List.not_mem_nil, or_false]
      exact ⟨State.mem_records_of_collect sound, fun held =>
        State.mem_records_collect_of_watermark_le sound.quiet sound.ordered held in_range⟩
  | watermark | laggards => exact of_kept ledger_read rfl
  | act action =>
      cases action with
      | record id time => exact Ledger.mem_records_record.trans (by simp [made, or_comm])
      | prune before => cases unpruned
      | attach other now start =>
          rcases State.attach_effect service.state other now start with ⟨_, attach_eq⟩
          exact of_kept (by simp only [take, State.perform, attach_eq]) rfl
      | detach other =>
          rcases State.detach_effect service.state other with ⟨_, detach_eq⟩
          exact of_kept (by simp only [take, State.perform, detach_eq]) rfl
      | send other bytes =>
          rcases State.send_effect service.state other bytes with ⟨_, send_eq⟩
          exact of_kept (by simp only [take, State.perform, send_eq]) rfl
      | _ => exact of_kept rfl rfl

/-- A run during which a session stays connected keeps what is not before the session's last
cursor, and adds what its steps make. -/
theorem mem_records_run_iff {steps : List Step} (sound : service.state.Sound)
    (stays : service.StaysConnected session steps)
    (found : (service.run steps).state.registry.cursor? session = some cursor)
    (not_before : cursor ≤ record.deletedAt)
    (unpruned : ∀ step ∈ steps, step.isPrune = false) :
    record ∈ (service.run steps).state.ledger.records ↔
      record ∈ service.state.ledger.records ∨ record ∈ along made service steps := by
  induction steps generalizing service with
  | nil => simp [run, along]
  | cons step rest ih =>
      rcases cursor_le_of_stays sound stays with ⟨before, after, before_eq, after_eq, before_le⟩
      obtain rfl : after = cursor := Option.some.inj (after_eq.symm.trans found)
      rcases List.forall_mem_cons.mp unpruned with ⟨unprunedFirst, unprunedRest⟩
      have first := mem_records_take_iff sound before_eq (Nat.le_trans before_le not_before)
        unprunedFirst
      have later := ih (sound_take sound step) stays.2 found unprunedRest
      rw [along, List.mem_append, ← or_assoc, ← first]
      exact later

/-- A session that stays connected holds back just what was held or was made since, at a time from
its cursor up to now. -/
theorem exists_holdsBack_iff {steps : List Step} (sound : service.state.Sound)
    (stays : service.StaysConnected session steps)
    (found : (service.run steps).state.registry.cursor? session = some cursor)
    (unpruned : ∀ step ∈ steps, step.isPrune = false) :
    (∃ record, (service.run steps).state.HoldsBack cursor record) ↔
      ∃ record, (record ∈ service.state.ledger.records ∨ record ∈ along made service steps) ∧
        cursor ≤ record.deletedAt ∧
        record.deletedAt ≤ (service.run steps).state.clock.read.1.time := by
  constructor
  · rintro ⟨record, held, not_before, not_after⟩
    exact ⟨record, (mem_records_run_iff sound stays found not_before unpruned).mp held, not_before,
      not_after⟩
  · rintro ⟨record, known, not_before, not_after⟩
    exact ⟨record, (mem_records_run_iff sound stays found not_before unpruned).mpr known,
      not_before, not_after⟩

end Runs

/-- Whatever has happened, a report lists the connected sessions whose cursors lag by more than its
threshold, and a collection warns about those if anything at all is held. Whether such a session's
cursor keeps a record from being collected is another matter: it does just if some record was held
when the session was attached, or was made since, at a time from the cursor up to now. -/
theorem reports_go_by_cursors (settings : Settings) (clock : Clock) (steps : List Step)
    (unpruned : ∀ step ∈ steps, step.isPrune = false) :
    let state := ((start settings clock).run steps).state
    let now := state.clock.read.1.time
    (∀ threshold laggard, laggard ∈ (state.laggards threshold).1 ↔
      state.registry.cursor? laggard.session = some laggard.cursor ∧
        laggard.lag = Duration.ofMicros (now.since laggard.cursor) ∧ threshold < laggard.lag) ∧
    (∀ rules : CollectionRules, (state.collect rules).2.warnings =
      (if state.ledger.records = [] then [] else (state.laggards rules.stallAfter).1.reverse) ++
        state.warnings) ∧
    ∀ session cursor, state.registry.cursor? session = some cursor →
      ∃ earlier attaching later starting, steps = earlier ++ attaching :: later ∧
        ((start settings clock).run earlier).Attaches session attaching starting ∧
        let attached := ((start settings clock).run earlier).take attaching
        attached.StaysConnected session later ∧
          ((∃ record, state.HoldsBack cursor record) ↔
            ∃ record,
              (record ∈ attached.state.ledger.records ∨ record ∈ along made attached later) ∧
              cursor ≤ record.deletedAt ∧ record.deletedAt ≤ now) := by
  intro state now
  have soundStart : (start settings clock).state.Sound := State.sound_start clock
  have sound : state.Sound := sound_run soundStart steps
  refine ⟨?reported, fun rules => State.warnings_collect rules sound.quiet sound.ordered, ?held⟩
  case reported =>
    intro threshold laggard
    rw [State.laggards_eq sound.quiet]
    exact Registry.mem_laggards_iff sound.distinct (.refl _)
  case held =>
    intro session cursor found
    have connected := Registry.isConnected_iff_cursor?.mpr ⟨cursor, found⟩
    rcases stays_or_attaches soundStart connected with
      stays | ⟨earlier, attaching, later, starting, steps_eq, attaches, stays, _⟩
    · -- At the start no session is connected.
      cases stays.first
    have soundAttached := sound_take (sound_run soundStart earlier) attaching
    have state_eq : state =
        ((((start settings clock).run earlier).take attaching).run later).state := by
      simp only [state, steps_eq, run_append]
      rfl
    have unprunedLater : ∀ step ∈ later, step.isPrune = false := fun step in_later =>
      unpruned step (by simp [steps_eq, in_later])
    rw [state_eq] at found
    have held_iff := exists_holdsBack_iff soundAttached stays found unprunedLater
    rw [← state_eq] at held_iff
    exact ⟨earlier, attaching, later, starting, steps_eq, attaches, stays, held_iff⟩

/-- A session without a connection keeps a record, and another is idle after it was told about it.
-/
theorem reports_go_by_cursors_for_two :
    let stuck : SessionId := ⟨"stuck"⟩
    let viewer : SessionId := ⟨"viewer"⟩
    let clock := Clock.manual .direct ⟨100⟩
    let steps : List Step :=
      [.attachNow stuck, .attachNow viewer, .act (.register viewer 4 "viewer"),
        .record (.ofNat 1) ⟨100⟩, .act (.setClock ⟨200⟩), .flushAll [stuck, viewer],
        .collect, .act (.setClock ⟨40000000⟩)]
    (∀ step ∈ steps, step.isPrune = false) ∧
      ((start .pairs clock).run steps).state.registry.cursor? stuck = some ⟨100⟩ ∧
      ∃ earlier attaching later starting, steps = earlier ++ attaching :: later ∧
        ((start .pairs clock).run earlier).Attaches stuck attaching starting ∧
        let attached := ((start .pairs clock).run earlier).take attaching
        attached.StaysConnected stuck later ∧
          ((∃ record, ((start .pairs clock).run steps).state.HoldsBack ⟨100⟩ record) ↔
            ∃ record,
              (record ∈ attached.state.ledger.records ∨ record ∈ along made attached later) ∧
              ⟨100⟩ ≤ record.deletedAt ∧
              record.deletedAt ≤ ((start .pairs clock).run steps).state.clock.read.1.time) := by
  intro stuck viewer clock steps
  have unpruned : ∀ step ∈ steps, step.isPrune = false := by decide
  have found : ((start .pairs clock).run steps).state.registry.cursor? stuck = some ⟨100⟩ := by
    decide +kernel
  rcases reports_go_by_cursors .pairs clock steps unpruned with ⟨_, _, held_iff⟩
  exact ⟨unpruned, found, held_iff stuck ⟨100⟩ found⟩

/-- The session that was told everything is reported, and warned about in the next collection,
though its cursor keeps nothing from being collected. -/
theorem idle_session_reported :
    let stuck : SessionId := ⟨"stuck"⟩
    let viewer : SessionId := ⟨"viewer"⟩
    let steps : List Step :=
      [.attachNow stuck, .attachNow viewer, .act (.register viewer 4 "viewer"),
        .record (.ofNat 1) ⟨100⟩, .act (.setClock ⟨200⟩), .flush viewer,
        .act (.setClock ⟨40000000⟩)]
    let service := (start .pairs (.manual .direct ⟨100⟩)).run steps
    let idle : Laggard := { session := viewer, cursor := ⟨200⟩, lag := .ofMicros 39999800 }
    (∀ step ∈ steps, step.isPrune = false) ∧
      service.state.registry.cursor? viewer = some ⟨200⟩ ∧
      idle ∈ service.laggards.1 ∧ idle ∈ service.collect.2.state.warnings ∧
      ¬∃ record, service.state.HoldsBack ⟨200⟩ record := by
  intro stuck viewer steps service idle
  have sound : service.state.Sound :=
    sound_run (State.sound_start (.manual .direct ⟨100⟩)) steps
  have found : service.state.registry.cursor? viewer = some ⟨200⟩ := by decide +kernel
  have records_eq : service.state.ledger.records = [{ deletedAt := ⟨100⟩, id := .ofNat 1 }] := by
    decide +kernel
  have time_eq : service.state.clock.read.1.time = ⟨40000000⟩ := by decide +kernel
  have threshold_eq : service.collector.rules.stallAfter = .ofMillis 30000 := by decide +kernel
  -- Nothing else about the run matters.
  clear_value service
  have reported : idle ∈ (service.state.laggards service.collector.rules.stallAfter).1 := by
    rw [State.laggards_eq sound.quiet, time_eq, threshold_eq]
    exact (Registry.mem_laggards_iff sound.distinct (.refl _)).mpr ⟨found, by decide, by decide⟩
  have warned : service.collect.2.state.warnings = _ :=
    State.warnings_collect service.collector.rules sound.quiet sound.ordered
  refine ⟨by decide, found, reported, ?_, ?_⟩
  · rw [warned, records_eq, if_neg (List.cons_ne_nil _ _)]
    exact List.mem_append_left _ (List.mem_reverse.mpr reported)
  · rintro ⟨record, held, not_before, _⟩
    rw [records_eq, List.mem_singleton] at held
    rw [held] at not_before
    exact absurd not_before (by decide)

end Service

end Tombstone
