import Tombstone.Proofs.Locality
import Tombstone.Proofs.Runs

/-!
# Cursors keep behind a monotonic clock

As long as cursors are moved by the service alone, every cursor is a time that its clock has shown.
If the clock is monotonic, it will therefore never show a time before a cursor.
-/

namespace Tombstone

namespace Clock

variable {clock : Clock}

theorem mode_read (clock : Clock) : clock.read.2.mode = clock.mode := by
  simp only [read]
  split <;> rfl

theorem source_after (clock : Clock) (readings : Nat) :
    (clock.after readings).source = clock.source := by
  induction readings generalizing clock with
  | zero => rfl
  | succ readings ih =>
      have kept : clock.read.2.source = clock.source := by
        simp only [read]
        split <;> rfl
      exact (ih clock.read.2).trans kept

theorem after_after (clock : Clock) (first second : Nat) :
    (clock.after first).after second = clock.after (first + second) := by
  induction first generalizing clock with
  | zero => rw [Nat.zero_add, after]
  | succ first ih => rw [Nat.succ_add, after, after, ih]

/-- A reading of a monotonic clock shows no time before the latest time shown earlier. -/
theorem highest_le_time (monotonic : clock.mode = .monotonic) :
    clock.highest ≤ clock.read.1.time := by
  simp only [read, monotonic, Timestamp.le_iff, Timestamp.toNat_max]
  omega

theorem highest_read (monotonic : clock.mode = .monotonic) :
    clock.read.2.highest = clock.read.1.time := by
  simp only [read, monotonic]

/-- A monotonic clock shows no time before one that it might have shown earlier. -/
theorem time_le_time_after (monotonic : clock.mode = .monotonic) (readings : Nat) :
    clock.read.1.time ≤ (clock.after readings).read.1.time := by
  induction readings generalizing clock with
  | zero => exact Nat.le_refl _
  | succ readings ih =>
      have monotonicNext : clock.read.2.mode = .monotonic := (mode_read clock).trans monotonic
      have first_le : clock.read.1.time ≤ clock.read.2.read.1.time := by
        rw [← highest_read monotonic]
        exact highest_le_time monotonicNext
      exact Nat.le_trans first_le (ih monotonicNext)

end Clock

namespace State

/-- The clock was not touched, no cursor moved or came, and no record was forgotten. -/
structure Undisturbed (before after : State) : Prop where
  clock_eq : after.clock = before.clock
  cursors_kept : ∀ session cursor, after.registry.cursor? session = some cursor →
    before.registry.cursor? session = some cursor
  records_kept : ∀ record ∈ before.ledger.records, record ∈ after.ledger.records

theorem Undisturbed.of_adjust (state : State) (session : SessionId) {change : Session → Session}
    (kept : ∀ session, (change session).cursor = session.cursor) :
    Undisturbed state { state with registry := state.registry.adjust session change } := by
  refine ⟨rfl, fun other cursor found => ?_, fun _ held => held⟩
  exact (Registry.cursor?_adjust_of_kept kept other).symm.trans found

theorem Undisturbed.record (state : State) (id : EntityId) (time : Timestamp) :
    Undisturbed state { state with ledger := state.ledger.record id time } :=
  ⟨rfl, fun _ _ found => found, fun _ held => Ledger.mem_records_record.mpr (Or.inr held)⟩

theorem Undisturbed.detach (state : State) (session : SessionId) :
    Undisturbed state (state.detach session) := by
  rcases detach_effect state session with ⟨journal, detach_eq⟩
  rw [detach_eq]
  refine ⟨rfl, fun other cursor found => ?_, fun _ held => held⟩
  rw [Registry.cursor?_detach] at found
  split at found
  · cases found
  · exact found

theorem Undisturbed.send (state : State) (session : SessionId) (bytes : Bytes) :
    Undisturbed state (state.send session bytes).2 := by
  rcases send_effect state session bytes with ⟨transport, send_eq⟩
  rw [send_eq]
  exact ⟨rfl, fun _ _ found => found, fun _ held => held⟩

/-- A flush brings no cursor beyond the latest of the time that is read and all cursors. -/
theorem cursor_flush_le {state : State} {bound : Timestamp} (settings : Settings)
    (flushed : SessionId) (quiet : state.Quiet) (time_le : state.clock.read.1.time ≤ bound)
    {session : SessionId}
    (cursor_le : ∀ cursor, state.registry.cursor? session = some cursor → cursor ≤ bound) :
    ∀ cursor, (state.flush settings flushed).2.registry.cursor? session = some cursor →
      cursor ≤ bound := by
  intro cursor found
  cases connected : state.registry.find? flushed with
  | none =>
      rw [flush_of_unknown connected] at found
      exact cursor_le cursor found
  | some entry =>
      rcases flush_of_connected settings quiet connected with ⟨delivery, _, _, _, flush_eq⟩
      rw [flush_eq, Registry.cursor?_adjust] at found
      split at found
      · next same =>
          have entry_le : entry.cursor ≤ bound :=
            cursor_le entry.cursor (by rw [same, Registry.cursor?, connected, Option.map_some])
          rw [same, connected] at found
          cases found
          simp only [Session.cursor_afterFlush]
          split
          · rw [Timestamp.le_iff] at entry_le time_le ⊢
            rw [Timestamp.toNat_max]
            omega
          · exact entry_le
      · exact cursor_le cursor found

/-- The clock is monotonic and has shown every cursor. -/
structure Trailing (state : State) : Prop where
  mode_eq : state.clock.mode = .monotonic
  cursor_le : ∀ session cursor, state.registry.cursor? session = some cursor →
    cursor ≤ state.clock.highest

theorem trailing_start {clock : Clock} (monotonic : clock.mode = .monotonic) : Trailing { clock } :=
  ⟨monotonic, fun _ _ found => nomatch found⟩

section Preservation

variable {state after : State}

theorem Trailing.cursor_le_time (trailing : state.Trailing) {session : SessionId}
    {cursor : Timestamp} (found : state.registry.cursor? session = some cursor) :
    cursor ≤ state.clock.read.1.time :=
  Nat.le_trans (trailing.cursor_le session cursor found) (Clock.highest_le_time trailing.mode_eq)

/-- After a reading, a cursor may be as late as the time that was shown. -/
theorem Trailing.of_read (trailing : state.Trailing) (clock_eq : after.clock = state.clock.read.2)
    (cursor_le : ∀ session cursor, after.registry.cursor? session = some cursor →
      cursor ≤ state.clock.read.1.time) : after.Trailing := by
  constructor
  · rw [clock_eq, Clock.mode_read, trailing.mode_eq]
  · rw [clock_eq, Clock.highest_read trailing.mode_eq]
    exact cursor_le

theorem Trailing.of_undisturbed (trailing : state.Trailing) (undisturbed : Undisturbed state after) :
    after.Trailing := by
  constructor <;> rw [undisturbed.clock_eq]
  · exact trailing.mode_eq
  · exact fun session cursor found =>
      trailing.cursor_le session cursor (undisturbed.cursors_kept session cursor found)

theorem Trailing.readClock (trailing : state.Trailing) (quiet : state.Quiet) :
    state.readClock.2.Trailing := by
  rcases readClock_of_quiet quiet with ⟨journal, read_eq⟩
  rw [read_eq]
  exact trailing.of_read rfl fun _ _ found => trailing.cursor_le_time found

theorem Trailing.attach (trailing : state.Trailing) {now cursor : Timestamp}
    (cursor_le : cursor ≤ state.clock.highest) (session : SessionId) :
    (state.attach session now cursor).Trailing := by
  rcases attach_effect state session now cursor with ⟨journal, attach_eq⟩
  rw [attach_eq]
  refine ⟨trailing.mode_eq, fun other held found => ?_⟩
  rw [Registry.cursor?_attach] at found
  split at found
  · cases found
    exact cursor_le
  · exact trailing.cursor_le other held found

theorem Trailing.flush (trailing : state.Trailing) (quiet : state.Quiet) (settings : Settings)
    (session : SessionId) : (state.flush settings session).2.Trailing := by
  cases connected : state.registry.find? session with
  | none =>
      rw [flush_of_unknown connected]
      exact trailing
  | some entry =>
      have clock_eq : (state.flush settings session).2.clock = state.clock.read.2 := by
        rcases flush_of_connected settings quiet connected with ⟨_, _, _, _, flush_eq⟩
        rw [flush_eq]
      exact trailing.of_read clock_eq fun _ => cursor_flush_le settings session quiet
        (Nat.le_refl _) fun _ found => trailing.cursor_le_time found

theorem Trailing.flushAllIn (trailing : state.Trailing) (sound : state.Sound) (settings : Settings)
    (order : List SessionId) : (state.flushAllIn settings order).2.Trailing := by
  refine (flushAllIn_induction (motive := fun state => state.Sound ∧ state.Trailing)
    ⟨sound, trailing⟩ ?_ ?_ order).2
  · exact fun state session ⟨sound, trailing⟩ =>
      ⟨sound.flush settings session, trailing.flush sound.quiet settings session⟩
  · exact fun state journal ⟨sound, trailing⟩ =>
      ⟨{ sound with },
        trailing.of_undisturbed ⟨rfl, fun _ _ found => found, fun _ held => held⟩⟩

theorem Trailing.collect (trailing : state.Trailing) (quiet : state.Quiet)
    (rules : CollectionRules) : (state.collect rules).2.Trailing := by
  rcases collect_effect rules quiet with ⟨ledger, clock, journal, collect_eq, _, clock_cases⟩
  rw [collect_eq]
  rcases clock_cases with rfl | rfl
  · exact ⟨trailing.mode_eq, trailing.cursor_le⟩
  · exact trailing.of_read rfl fun _ _ found => trailing.cursor_le_time found

end Preservation

/-- Besides, the clock shows no instant before the first microsecond. -/
structure Paced (state : State) : Prop extends Trailing state where
  positive : ∀ reading, Timestamp.zero < state.clock.source reading

theorem paced_start {clock : Clock} (monotonic : clock.mode = .monotonic)
    (positive : ∀ reading, Timestamp.zero < clock.source reading) : Paced { clock } :=
  ⟨trailing_start monotonic, positive⟩

/-- A reading shows a time of a later microsecond than the first instant. -/
theorem Paced.zero_lt_time {state : State} (paced : state.Paced) :
    Timestamp.zero < state.clock.read.1.time := by
  have positive := paced.positive state.clock.readings
  rw [Timestamp.lt_iff] at positive ⊢
  simp only [Clock.read, Clock.observed, Clock.hand, paced.mode_eq, Timestamp.toNat_max]
  omega

/-- A flush does nothing to the clock but read it. -/
theorem clock_flush {state : State} (settings : Settings) (session : SessionId)
    (quiet : state.Quiet) :
    ∃ readings, (state.flush settings session).2.clock = state.clock.after readings := by
  cases connected : state.registry.find? session with
  | none => exact ⟨0, by rw [flush_of_unknown connected, Clock.after]⟩
  | some entry =>
      rcases flush_of_connected settings quiet connected with ⟨_, _, _, _, flush_eq⟩
      exact ⟨1, by rw [flush_eq]; rfl⟩

/-- A dispatch round does nothing to the clock but read it. -/
theorem clock_flushAllIn {state : State} (sound : state.Sound) (settings : Settings)
    (order : List SessionId) :
    ∃ readings, (state.flushAllIn settings order).2.clock = state.clock.after readings := by
  refine (flushAllIn_induction
    (motive := fun after => after.Sound ∧ ∃ readings, after.clock = state.clock.after readings)
    ⟨sound, 0, rfl⟩ ?_ ?_ order).2
  · rintro middle session ⟨soundMiddle, readings, clock_eq⟩
    refine ⟨soundMiddle.flush settings session, ?_⟩
    rcases clock_flush settings session soundMiddle.quiet with ⟨more, flush_eq⟩
    exact ⟨readings + more, by rw [flush_eq, clock_eq, Clock.after_after]⟩
  · rintro middle journal ⟨soundMiddle, readings, clock_eq⟩
    exact ⟨{ soundMiddle with }, readings, clock_eq⟩

end State

/-- Whether an action leaves it to the service to move the clock's hand and the cursors, and to
forget deletions. -/
def Action.isOrderly : Action → Bool
  | .prune _ | .attach .. | .moveCursor .. | .setClock _ | .advanceClock _ => false
  | _ => true

theorem State.undisturbed_perform (state : State) {action : Action}
    (orderly : action.isOrderly = true) : Undisturbed state (state.perform action) := by
  cases action with
  | prune | attach | moveCursor | setClock | advanceClock => cases orderly
  | record id time => exact .record state id time
  | detach session => exact .detach state session
  | takeNumbers session | account session => exact .of_adjust state session fun _ => rfl
  | send session bytes => exact .send state session bytes
  | register | unregister | dropInbox | closeInbox | receive | drain =>
      exact ⟨rfl, fun _ _ found => found, fun _ held => held⟩

/-- Whether a step is an operation of the service or an orderly action. -/
def Step.isOrderly : Step → Bool
  | .act action => action.isOrderly
  | _ => true

namespace Service

section Steps

variable {service : Service}

theorem trailing_take (sound : service.state.Sound) (trailing : service.state.Trailing)
    {step : Step} (orderly : step.isOrderly = true) : (service.take step).state.Trailing := by
  cases step with
  | record id time => exact trailing.of_undisturbed (.record service.state id time)
  | recordNow id => exact (trailing.readClock sound.quiet).of_undisturbed (.record _ id _)
  | attachNow session =>
      have shown : service.state.readClock.1 ≤ service.state.readClock.2.clock.highest := by
        rcases State.readClock_of_quiet sound.quiet with ⟨journal, read_eq⟩
        simp [read_eq, Clock.highest_read trailing.mode_eq, Timestamp.le_iff]
      exact (trailing.readClock sound.quiet).attach shown session
  | flush session => exact trailing.flush sound.quiet service.settings session
  | flushAll order => exact trailing.flushAllIn sound service.settings order
  | collect => exact trailing.collect sound.quiet service.collector.rules
  | watermark | laggards => exact trailing.readClock sound.quiet
  | act action => exact trailing.of_undisturbed (service.state.undisturbed_perform orderly)

/-- Over a monotonic clock, an orderly run never brings a cursor ahead of the clock. -/
theorem trailing_run (sound : service.state.Sound) (trailing : service.state.Trailing)
    {steps : List Step} (orderly : ∀ step ∈ steps, step.isOrderly = true) :
    (service.run steps).state.Trailing := by
  induction steps generalizing service with
  | nil => exact trailing
  | cons step rest ih =>
      rcases List.forall_mem_cons.mp orderly with ⟨orderlyFirst, orderlyRest⟩
      exact ih (sound_take sound step) (trailing_take sound trailing orderlyFirst) orderlyRest

/-- An orderly step does nothing to the clock but read it. -/
theorem clock_take (sound : service.state.Sound) {step : Step} (orderly : step.isOrderly = true) :
    ∃ readings, (service.take step).state.clock = service.state.clock.after readings := by
  have read_eq : service.state.readClock.2.clock = service.state.clock.after 1 := by
    rcases State.readClock_of_quiet sound.quiet with ⟨journal, read_eq⟩
    rw [read_eq]
    rfl
  cases step with
  | record id time => exact ⟨0, rfl⟩
  | recordNow id | watermark | laggards => exact ⟨1, read_eq⟩
  | attachNow session =>
      rcases State.attach_effect service.state.readClock.2 session service.state.readClock.1
        service.state.readClock.1 with ⟨journal, attach_eq⟩
      exact ⟨1, (congrArg State.clock attach_eq).trans read_eq⟩
  | flush session => exact State.clock_flush service.settings session sound.quiet
  | flushAll order => exact State.clock_flushAllIn sound service.settings order
  | collect =>
      rcases State.collect_effect service.collector.rules sound.quiet with
        ⟨_, clock, _, collect_eq, _, clock_cases⟩
      have clock_eq : (service.take .collect).state.clock = clock := congrArg State.clock collect_eq
      rcases clock_cases with rfl | rfl
      · exact ⟨0, clock_eq⟩
      · exact ⟨1, clock_eq⟩
  | act action => exact ⟨0, (service.state.undisturbed_perform orderly).clock_eq⟩

theorem clock_run (sound : service.state.Sound) {steps : List Step}
    (orderly : ∀ step ∈ steps, step.isOrderly = true) :
    ∃ readings, (service.run steps).state.clock = service.state.clock.after readings := by
  induction steps generalizing service with
  | nil => exact ⟨0, rfl⟩
  | cons step rest ih =>
      rcases List.forall_mem_cons.mp orderly with ⟨orderlyFirst, orderlyRest⟩
      rcases clock_take sound orderlyFirst with ⟨first, clock_eq⟩
      rcases ih (sound_take sound step) orderlyRest with ⟨second, run_eq⟩
      exact ⟨first + second, by rw [← Clock.after_after, ← clock_eq]; exact run_eq⟩

theorem paced_run (sound : service.state.Sound) (paced : service.state.Paced) {steps : List Step}
    (orderly : ∀ step ∈ steps, step.isOrderly = true) : (service.run steps).state.Paced := by
  refine ⟨trailing_run sound paced.toTrailing orderly, ?_⟩
  rcases clock_run sound orderly with ⟨readings, clock_eq⟩
  rw [clock_eq, Clock.source_after]
  exact paced.positive

end Steps

end Service

end Tombstone
