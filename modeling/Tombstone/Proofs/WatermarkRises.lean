import Tombstone.Proofs.CursorHistory
import Tombstone.Proofs.PacedClock

/-!
# The watermark only moves forward

Sessions come and go, and the slowest may go at any time. Over a monotonic clock the watermark does
not go back all the same, as long as somebody is connected: no cursor goes back, and one that comes
is a time that the clock shows then, which no earlier cursor is ahead of. Without any session this
fails, as the watermark is then the instant after now, and a session that comes next may start at
now.
-/

namespace Tombstone

namespace Service

/-- Some session is connected at every point of a run, the last one excepted. -/
def StaysAttended (service : Service) (steps : List Step) : Prop :=
  ∀ count < steps.length, (service.run (steps.take count)).state.registry.ids ≠ []

instance (service : Service) (steps : List Step) : Decidable (service.StaysAttended steps) :=
  inferInstanceAs (Decidable
    (∀ count < steps.length, (service.run (steps.take count)).state.registry.ids ≠ []))

/-- The last watermark in the tally after a step that is a collection and pruned. -/
def prunedAt (service : Service) : Step → List Timestamp
  | .collect =>
      match service.collect.1 with
      | .skipped _ => []
      | .pruned .. => service.collect.2.collector.tally.lastWatermark.toList
  | _ => []

section Steps

variable {service : Service}

theorem staysAttended_cons {step : Step} {rest : List Step} :
    service.StaysAttended (step :: rest) ↔
      service.state.registry.ids ≠ [] ∧ (service.take step).StaysAttended rest := by
  constructor
  · intro attended
    exact ⟨attended 0 (Nat.succ_pos _), fun count count_lt =>
      attended (count + 1) (Nat.succ_lt_succ count_lt)⟩
  · rintro ⟨first, attended⟩ count count_lt
    cases count with
    | zero => exact first
    | succ count => exact attended count (Nat.lt_of_succ_lt_succ count_lt)

theorem watermark_eq (sound : service.state.Sound) :
    service.watermark.1 = service.state.nextWatermark := by
  rcases State.readClock_of_quiet sound.quiet with ⟨journal, read_eq⟩
  simp only [watermark, State.watermark, read_eq, State.nextWatermark]

/-- While somebody is connected, the watermark is not after the time that the clock shows. -/
theorem nextWatermark_le_time (trailing : service.state.Trailing)
    (sound : service.state.Sound) (attended : service.state.registry.ids ≠ []) :
    service.state.nextWatermark.value ≤ service.state.clock.read.1.time := by
  rcases List.exists_mem_of_ne_nil _ attended with ⟨session, session_mem⟩
  rw [← Registry.isConnected_iff_mem_ids, Registry.isConnected_iff_cursor?] at session_mem
  rcases session_mem with ⟨cursor, found⟩
  have visit_mem := (Registry.mem_cursors_iff sound.distinct).mpr found
  exact Nat.le_trans (Watermark.value_le_cursor visit_mem) (trailing.cursor_le_time found)

/-- After a step that somebody was connected before, no cursor lies before the earlier watermark. -/
theorem nextWatermark_le_cursor (sound : service.state.Sound) (trailing : service.state.Trailing)
    {step : Step} (orderly : step.isOrderly = true) (attended : service.state.registry.ids ≠ [])
    {session : SessionId} {reached : Timestamp}
    (found : (service.take step).state.registry.cursor? session = some reached) :
    service.state.nextWatermark.value ≤ reached := by
  have connects : (service.take step).state.registry.isConnected session = true :=
    Registry.isConnected_iff_cursor?.mpr ⟨reached, found⟩
  cases connected : service.state.registry.isConnected session with
  | true =>
      rcases Registry.isConnected_iff_cursor?.mp connected with ⟨cursor, cursor_eq⟩
      rcases moved_take sound cursor_eq connects with ⟨later, later_eq, moved⟩
      obtain rfl : later = reached := Option.some.inj (later_eq.symm.trans found)
      have visit_mem := (Registry.mem_cursors_iff sound.distinct).mpr cursor_eq
      exact Nat.le_trans (Watermark.value_le_cursor visit_mem)
        (moved.latest.le cursor List.mem_cons_self)
  | false =>
      rcases attaches_of_connects sound connected connects with
        ⟨starting, ⟨_, ⟨now, rfl⟩ | ⟨rfl, rfl⟩⟩, starting_eq⟩
      · cases orderly
      · obtain rfl := Option.some.inj (starting_eq.symm.trans found)
        exact nextWatermark_le_time trailing sound attended

/-- A step that somebody was connected before does not bring the watermark back. -/
theorem nextWatermark_le_take (sound : service.state.Sound) (trailing : service.state.Trailing)
    {step : Step} (orderly : step.isOrderly = true) (attended : service.state.registry.ids ≠ []) :
    service.state.nextWatermark.value ≤ (service.take step).state.nextWatermark.value := by
  apply Watermark.le_value_iff.mpr
  constructor
  · have within := (Watermark.le_value_iff.mp
      (Nat.le_refl service.state.nextWatermark.value.toNat)).1
    rcases clock_take sound orderly with ⟨readings, clock_eq⟩
    have time_le := Clock.time_le_time_after trailing.mode_eq readings
    rw [← clock_eq] at time_le
    simp only [Watermark.cap, Timestamp.le_iff, Timestamp.toNat_advance] at within time_le ⊢
    omega
  · rintro ⟨session, reached⟩ visit_mem
    exact nextWatermark_le_cursor sound trailing orderly attended
      ((Registry.mem_cursors_iff (sound_take sound step).distinct).mp visit_mem)

theorem nextWatermark_le_run (sound : service.state.Sound) (trailing : service.state.Trailing)
    {steps : List Step} (orderly : ∀ step ∈ steps, step.isOrderly = true)
    (attended : service.StaysAttended steps) :
    service.state.nextWatermark.value ≤ (service.run steps).state.nextWatermark.value := by
  induction steps generalizing service with
  | nil => exact Nat.le_refl _
  | cons step rest ih =>
      rcases List.forall_mem_cons.mp orderly with ⟨orderlyFirst, orderlyRest⟩
      rcases staysAttended_cons.mp attended with ⟨attendedFirst, attendedRest⟩
      exact Nat.le_trans (nextWatermark_le_take sound trailing orderlyFirst attendedFirst)
        (ih (sound_take sound step) (trailing_take sound trailing orderlyFirst) orderlyRest
          attendedRest)

/-- The watermark of a collection that prunes is the one that the state had before. -/
theorem prunedAt_eq (sound : service.state.Sound) (step : Step) :
    service.prunedAt step = [] ∨ service.prunedAt step = [service.state.nextWatermark.value] := by
  cases step with
  | collect =>
      rcases State.collect_cases service.collector.rules sound.quiet with
        ⟨_, skipped⟩ | ⟨_, _, journal, retained⟩ | ⟨_, _, journal, pruned⟩
      · left
        simp [prunedAt, collect, Collector.tick, skipped]
      · left
        simp [prunedAt, collect, Collector.tick, retained]
      · right
        simp [prunedAt, collect, Collector.tick, pruned, CollectionTally.count]
  | _ => exact Or.inl rfl

/-- No collection of an attended run has a watermark before the one that the run began with, and
none has a watermark before that of an earlier one. -/
theorem prunedAt_rises (sound : service.state.Sound) (trailing : service.state.Trailing)
    {steps : List Step} (orderly : ∀ step ∈ steps, step.isOrderly = true)
    (attended : service.StaysAttended steps) :
    (∀ watermark ∈ along prunedAt service steps,
        service.state.nextWatermark.value ≤ watermark) ∧
      (along prunedAt service steps).Pairwise (· ≤ ·) := by
  induction steps generalizing service with
  | nil => exact ⟨by simp [along], .nil⟩
  | cons step rest ih =>
      rcases List.forall_mem_cons.mp orderly with ⟨orderlyFirst, orderlyRest⟩
      rcases staysAttended_cons.mp attended with ⟨attendedFirst, attendedRest⟩
      have rise := nextWatermark_le_take sound trailing orderlyFirst attendedFirst
      rcases ih (sound_take sound step) (trailing_take sound trailing orderlyFirst) orderlyRest
        attendedRest with ⟨least, pairwise⟩
      have leastHere : ∀ watermark ∈ along prunedAt (service.take step) rest,
          service.state.nextWatermark.value ≤ watermark :=
        fun watermark later => Nat.le_trans rise (least watermark later)
      rw [along]
      rcases prunedAt_eq sound step with none_seen | seen
      · rw [none_seen, List.nil_append]
        exact ⟨leastHere, pairwise⟩
      · rw [seen, List.singleton_append]
        exact ⟨List.forall_mem_cons.mpr ⟨Nat.le_refl _, leastHere⟩,
          List.pairwise_cons.mpr ⟨leastHere, pairwise⟩⟩

end Steps

/-- Over a monotonic clock, an orderly run never brings a cursor ahead of the latest time shown. In a
stretch of it in which somebody is always connected, the watermark does not go back, nor does the
last watermark from one collection that prunes to the next. -/
theorem watermark_rises (settings : Settings) (clock : Clock) (earlier stretch : List Step)
    (monotonic : clock.mode = .monotonic)
    (orderly : ∀ step ∈ earlier ++ stretch, step.isOrderly = true) :
    let first := (start settings clock).run earlier
    let second := first.run stretch
    (∀ session cursor, second.state.registry.cursor? session = some cursor →
      cursor ≤ second.state.clock.highest) ∧
    (first.StaysAttended stretch →
      first.watermark.1.value ≤ second.watermark.1.value ∧
        (along prunedAt first stretch).Pairwise (· ≤ ·)) := by
  intro first second
  rcases List.forall_mem_append.mp orderly with ⟨orderlyEarlier, orderlyStretch⟩
  have soundStart : (start settings clock).state.Sound := State.sound_start clock
  have sound : first.state.Sound := sound_run soundStart earlier
  have trailing : first.state.Trailing :=
    trailing_run soundStart (State.trailing_start monotonic) orderlyEarlier
  refine ⟨(trailing_run sound trailing orderlyStretch).cursor_le, fun attended => ?_⟩
  rw [watermark_eq sound, watermark_eq (sound_run sound stretch)]
  exact ⟨nextWatermark_le_run sound trailing orderlyStretch attended,
    (prunedAt_rises sound trailing orderlyStretch attended).2⟩

/-- The clock's source runs backwards, sessions come in the middle, and the slowest one goes. -/
theorem watermark_rises_for_three :
    let viewer : SessionId := ⟨"viewer"⟩
    let other : SessionId := ⟨"other"⟩
    let clock : Clock :=
      { mode := .monotonic, source := fun reading => ⟨UInt64.ofNat (100 + 40 * (reading % 4))⟩ }
    let earlier : List Step := [.attachNow viewer, .record (.ofNat 1) ⟨90⟩]
    let stretch : List Step :=
      [.record (.ofNat 2) ⟨150⟩, .collect, .attachNow other, .act (.detach viewer),
        .record (.ofNat 3) ⟨170⟩, .collect, .attachNow ⟨"third"⟩, .act (.register other 8 "other"),
        .flush other, .record (.ofNat 4) ⟨400⟩, .collect]
    clock.mode = .monotonic ∧ (∀ step ∈ earlier ++ stretch, step.isOrderly = true) ∧
      ((start .pairs clock).run earlier).StaysAttended stretch ∧
      along prunedAt ((start .pairs clock).run earlier) stretch = [⟨100⟩, ⟨180⟩, ⟨220⟩] ∧
      let first := (start .pairs clock).run earlier
      let second := first.run stretch
      (∀ session cursor, second.state.registry.cursor? session = some cursor →
        cursor ≤ second.state.clock.highest) ∧
      (first.StaysAttended stretch →
        first.watermark.1.value ≤ second.watermark.1.value ∧
          (along prunedAt first stretch).Pairwise (· ≤ ·)) := by
  intro viewer other clock earlier stretch
  have orderly : ∀ step ∈ earlier ++ stretch, step.isOrderly = true := by decide
  have attended : ((start .pairs clock).run earlier).StaysAttended stretch := by decide +kernel
  have pruned : along prunedAt ((start .pairs clock).run earlier) stretch =
      [⟨100⟩, ⟨180⟩, ⟨220⟩] := by
    decide +kernel
  exact ⟨rfl, orderly, attended, pruned, watermark_rises .pairs clock earlier stretch rfl orderly⟩

end Service

end Tombstone
