import Tombstone.Proofs.Books
import Tombstone.Simulation.Run

/-!
# Simulations are consistent

Whatever a simulation draws, its books are right after every tick, and every viewer was told or is
going to be told each deletion recorded since it was connected. If no packet was refused in the whole
simulation, the last flushes settle all viewers, and the last collection forgets everything, unless
nobody is connected and the policy is to retain everything.
-/

namespace Tombstone.Simulation

/-! ## Ticks -/

/-- The time that a simulation has reached after so many ticks. -/
def timeAt (tick : Nat) : Timestamp := Timestamp.ofNat (1000000 + tick * tickMicros)

theorem timeAt_succ {tick : Nat}
    (inTime : 1000000 + (tick + 1) * tickMicros < Timestamp.instants) :
    timeAt (tick + 1) = (timeAt tick).advanceWrapping tickMicros := by
  have room : (timeAt tick).toNat + tickMicros < Timestamp.instants := by
    simp only [timeAt, Timestamp.toNat_ofNat, tickMicros] at inTime ⊢
    omega
  rw [Timestamp.advanceWrapping_eq_advance room]
  apply Timestamp.toNat_inj.mp
  simp only [timeAt, Timestamp.toNat_advance, Timestamp.toNat_ofNat, tickMicros]
  omega

theorem timeAt_lt_succ {tick : Nat}
    (inTime : 1000000 + (tick + 1) * tickMicros < Timestamp.instants) :
    timeAt tick < timeAt (tick + 1) := by
  simp only [timeAt, Timestamp.lt_iff, Timestamp.toNat_ofNat, tickMicros] at inTime ⊢
  omega

theorem inTime_of_succ {tick : Nat}
    (inTime : 1000000 + (tick + 1) * tickMicros < Timestamp.instants) :
    1000000 + tick * tickMicros < Timestamp.instants :=
  Nat.lt_of_le_of_lt
    (Nat.add_le_add_left (Nat.mul_le_mul_right tickMicros (Nat.le_succ tick)) 1000000) inTime

theorem zero_lt_timeAt (tick : Nat) : Timestamp.zero < timeAt tick := by
  simp only [timeAt, Timestamp.lt_iff, Timestamp.toNat_zero, Timestamp.toNat_ofNat,
    Timestamp.instants, UInt64.size]
  omega

/-! ## Viewers and schedules -/

theorem nodup_viewers (paces : List Nat) : ((viewers paces).map (·.session)).Nodup := by
  have names_eq : (viewers paces).map (·.session) =
      (List.range paces.length).map (Viewer.sessionId "viewer-") := by
    apply List.ext_getElem <;> simp [viewers]
  rw [names_eq]
  exact List.Nodup.map (Viewer.sessionId_injective _) List.nodup_range

theorem drawTicks_within {σ : Type} (source : DrawSource σ) (ticks : Nat) (positive : 0 < ticks)
    (count : Nat) (draws : σ) :
    (drawTicks source ticks positive count draws).1.length = count ∧
      ∀ tick ∈ (drawTicks source ticks positive count draws).1, tick < ticks := by
  induction count generalizing draws with
  | zero => exact ⟨rfl, by simp [drawTicks]⟩
  | succ count ih =>
      rcases ih (source.below ticks positive draws).2 with ⟨length_eq, within⟩
      simp only [drawTicks, List.length_cons, List.forall_mem_cons]
      exact ⟨by rw [length_eq], (source.below ticks positive draws).1.isLt, within⟩

/-- One more tick has the deletions of that tick. -/
theorem countP_lt_succ (schedule : List Nat) (tick : Nat) :
    schedule.countP (· < tick + 1) = schedule.countP (· < tick) + schedule.count tick := by
  induction schedule with
  | nil => rfl
  | cons first rest ih =>
      simp only [List.countP_cons, List.count_cons, ih, decide_eq_true_eq, beq_iff_eq]
      split <;> split <;> split <;> omega

/-! ## Recording and collecting -/

section Stages

variable {σ : Type} {names : List SessionId} {now : Timestamp} {viewers : List Viewer}
  {stage : Stage σ}

/-- The books are right, and every viewer is informed. -/
structure InOrder (names : List SessionId) (now : Timestamp) (viewers : List Viewer)
    (stage : Stage σ) : Prop where
  books : stage.service.Books names now stage.log
  names_eq : viewers.map (·.session) = names
  informed : ∀ viewer ∈ viewers, viewer.Informed now stage.log stage.service.state

theorem service_advance (stage : Stage σ) :
    (advance stage).service = stage.service.take (.act (.advanceClock tickMicros)) := rfl

theorem log_advance (stage : Stage σ) : (advance stage).log = stage.log := by simp only [advance]

theorem collector_advance (stage : Stage σ) :
    (advance stage).service.collector = stage.service.collector := by simp only [advance]

theorem InOrder.advanced (inOrder : InOrder names now viewers stage)
    (moved : now < now.advanceWrapping tickMicros) :
    InOrder names (now.advanceWrapping tickMicros) viewers (advance stage) ∧
      (advance stage).service.HoldsPresent (now.advanceWrapping tickMicros) (advance stage).log := by
  have not_before : now ≤ now.advanceWrapping tickMicros := Nat.le_of_lt moved
  have books := inOrder.books.advance not_before
  have present := inOrder.books.holdsPresent_advance moved
  have informed : ∀ viewer ∈ viewers, viewer.Informed (now.advanceWrapping tickMicros) stage.log
      (stage.service.take (.act (.advanceClock tickMicros))).state :=
    fun viewer viewer_mem => (inOrder.informed viewer viewer_mem).advance not_before
  -- Comparing the stages by evaluation would count out the microseconds of a tick.
  rw [← service_advance, ← log_advance] at books present informed
  exact ⟨⟨books, inOrder.names_eq, informed⟩, present⟩

theorem InOrder.recordDeletions (inOrder : InOrder names now viewers stage)
    (source : DrawSource σ) (positive : Timestamp.zero < now)
    (present : stage.service.HoldsPresent now stage.log) (count : Nat) :
    let recorded := recordDeletions source count stage
    InOrder names now viewers recorded ∧ recorded.log.length = stage.log.length + count ∧
      recorded.service.collector = stage.service.collector := by
  induction count generalizing stage with
  | zero => exact ⟨inOrder, rfl, rfl⟩
  | succ count ih =>
      let id := (source.id stage.draws).1
      let next : Stage σ :=
        { stage with
          draws := (source.id stage.draws).2
          service := (stage.service.recordNow id).2
          log := { deletedAt := (stage.service.recordNow id).1, id } :: stage.log }
      have log_eq : next.log = { deletedAt := now, id } :: stage.log := by
        rcases Service.recordNow_effect inOrder.books.apart id with ⟨_, record_eq⟩
        simp only [next, record_eq]
      rcases inOrder.books.recordNow positive present id with ⟨booksNext, presentNext⟩
      rw [← log_eq] at booksNext presentNext
      have inOrderNext : InOrder names now viewers next := by
        refine ⟨booksNext, inOrder.names_eq, fun viewer viewer_mem => ?_⟩
        rw [log_eq]
        exact (inOrder.informed viewer viewer_mem).recordNow inOrder.books.apart id
      rcases ih inOrderNext presentNext with ⟨inOrderLast, length_eq, collector_eq⟩
      refine ⟨inOrderLast, length_eq.trans ?_, collector_eq⟩
      rw [log_eq, List.length_cons]
      omega

theorem InOrder.collected (inOrder : InOrder names now viewers stage) :
    InOrder names now viewers (collect stage) :=
  ⟨inOrder.books.collect, inOrder.names_eq, fun viewer viewer_mem =>
    (inOrder.informed viewer viewer_mem).collect inOrder.books.apart.sound⟩

/-! ## What viewers do -/

/-- What a viewer does in its turn concerns its own session, leaves the log alone, takes no failure
back, and keeps it informed. -/
structure Turn (now : Timestamp) (before after : Viewer × Stage σ) : Prop where
  session_eq : after.1.session = before.1.session
  log_eq : after.2.log = before.2.log
  failures_le : before.2.tally.failures ≤ after.2.tally.failures
  concerns : before.2.service.state.Apart SessionId.mk now →
    Service.Concerns before.1.session now before.2.service after.2.service
  informed : ∀ {names log}, before.2.service.Books names now log →
    before.1.Informed now log before.2.service.state →
      after.1.Informed now log after.2.service.state

/-- A viewer may leave its turn out. -/
theorem Turn.refl (now : Timestamp) (before : Viewer × Stage σ) : Turn now before before :=
  ⟨rfl, rfl, Nat.le_refl _, .refl, fun _ informed => informed⟩

/-- When each viewer has its turn, everything stays in order. What a viewer comes to have by its turn,
and the others leave to it, all of them have in the end. -/
theorem InOrder.eachViewer {act : Viewer → Stage σ → Viewer × Stage σ}
    (inOrder : InOrder names now viewers stage) (distinct : names.Nodup)
    (turn : ∀ viewer stage, Turn now (viewer, stage) (act viewer stage))
    (after : Viewer → Stage σ → Prop)
    (own : ∀ viewer (between : Stage σ), between.log = stage.log →
      between.service.Books names now stage.log →
      viewer.Informed now stage.log between.service.state →
        after (act viewer between).1 (act viewer between).2)
    (spared : ∀ viewer (between : Stage σ) other, between.service.Books names now stage.log →
      other.session ≠ viewer.session → after other between → after other (act viewer between).2) :
    let result := Tombstone.eachViewer act viewers stage
    InOrder names now result.1 result.2 ∧
      (result.2.log = stage.log ∧ result.2.service.collector = stage.service.collector) ∧
      ∀ viewer ∈ result.1, after viewer result.2 := by
  intro result
  rcases inOrder with ⟨books, names_eq, informed⟩
  have session_eq (viewer : Viewer) (between : Stage σ) :
      (act viewer between).1.session = viewer.session := (turn viewer between).session_eq
  have turns := eachViewer_induction
    (fun between : Stage σ => between.service.Books names now stage.log ∧
      between.log = stage.log ∧ between.service.collector = stage.service.collector)
    (fun viewer between => viewer.session ∈ names ∧
      viewer.Informed now stage.log between.service.state)
    (fun viewer between =>
      viewer.Informed now stage.log between.service.state ∧ after viewer between)
    session_eq ?_ ?_ (names_eq ▸ distinct) ⟨books, rfl, rfl⟩ ?_
  · rcases turns with ⟨⟨booksAfter, log_eq, collector_eq⟩, done, _⟩
    refine ⟨⟨log_eq ▸ booksAfter, ?_, fun viewer viewer_mem => log_eq ▸ (done viewer viewer_mem).1⟩,
      ⟨log_eq, collector_eq⟩, fun viewer viewer_mem => (done viewer viewer_mem).2⟩
    rw [← names_eq]
    exact map_session_eachViewer session_eq viewers stage
  · rintro viewer between ⟨booksBetween, log_eq, collector_eq⟩ ⟨named, informedViewer⟩
    have concerns := (turn viewer between).concerns booksBetween.apart
    exact ⟨⟨booksBetween.concerns named concerns, (turn viewer between).log_eq.trans log_eq,
      concerns.collector_eq.trans collector_eq⟩,
      (turn viewer between).informed booksBetween informedViewer,
      own viewer between log_eq booksBetween informedViewer⟩
  · rintro viewer between other ⟨booksBetween, _⟩ _ different
    have concerns := (turn viewer between).concerns booksBetween.apart
    have mirrors := concerns.mirrors other.session different
    constructor
    · rintro ⟨named, informedOther⟩
      exact ⟨named, informedOther.of_mirrors concerns.ledger_eq mirrors⟩
    · rintro ⟨informedOther, afterOther⟩
      exact ⟨informedOther.of_mirrors concerns.ledger_eq mirrors,
        spared viewer between other booksBetween different afterOther⟩
  · intro viewer viewer_mem
    exact ⟨names_eq ▸ List.mem_map_of_mem viewer_mem, informed viewer viewer_mem⟩

/-- When each viewer has its turn, everything stays in order. -/
theorem InOrder.keep {act : Viewer → Stage σ → Viewer × Stage σ}
    (inOrder : InOrder names now viewers stage) (distinct : names.Nodup)
    (turn : ∀ viewer stage, Turn now (viewer, stage) (act viewer stage)) :
    let result := Tombstone.eachViewer act viewers stage
    InOrder names now result.1 result.2 ∧ result.2.log = stage.log ∧
      result.2.service.collector = stage.service.collector := by
  rcases inOrder.eachViewer distinct turn (fun _ _ => True) (fun _ _ _ _ _ => trivial)
    (fun _ _ _ _ _ _ => trivial) with ⟨inOrderAfter, same, _⟩
  exact ⟨inOrderAfter, same⟩

/-! ### Coming and going -/

/-- The three ways in which a viewer comes or goes. -/
theorem churn_cases (source : DrawSource σ) (chance : Chance) (viewer : Viewer) (stage : Stage σ) :
    ∃ draws tally, tally.failures = stage.tally.failures ∧
      (churn source chance viewer stage = (viewer, { stage with draws, tally }) ∨
        churn source chance viewer stage = ((viewer.disconnect stage.service).1,
          { stage with draws, tally, service := (viewer.disconnect stage.service).2 }) ∨
        viewer.isConnected = false ∧
          let now := stage.service.state.clock.hand
          churn source chance viewer stage = ((viewer.connect now stage.service).1,
            { stage with draws, tally, service := (viewer.connect now stage.service).2 })) := by
  simp only [churn]
  split
  · split
    · exact ⟨_, stage.tally, rfl, Or.inr (Or.inl rfl)⟩
    · next absent =>
        exact ⟨_, { stage.tally with reconnects := stage.tally.reconnects + 1 }, rfl,
          Or.inr (Or.inr ⟨by simpa using absent, rfl⟩)⟩
  · exact ⟨_, stage.tally, rfl, Or.inl rfl⟩

theorem turn_churn (source : DrawSource σ) (chance : Chance) (viewer : Viewer) (stage : Stage σ) :
    Turn now (viewer, stage) (churn source chance viewer stage) := by
  rcases churn_cases source chance viewer stage with
    ⟨draws, tally, failures_eq, churn_eq | churn_eq | ⟨absent, churn_eq⟩⟩
  · rw [churn_eq]
    exact ⟨rfl, rfl, Nat.le_of_eq failures_eq.symm, .refl, fun _ informed => informed⟩
  · rw [churn_eq]
    exact ⟨rfl, rfl, Nat.le_of_eq failures_eq.symm, Viewer.concerns_disconnect,
      fun _ _ => Viewer.informed_disconnect⟩
  · rw [churn_eq]
    refine ⟨rfl, rfl, Nat.le_of_eq failures_eq.symm, fun apart => ?_, fun books informed => ?_⟩
    · rw [apart.rests.hand_eq]
      exact Viewer.concerns_connect apart
    · rw [books.apart.rests.hand_eq]
      exact Viewer.informed_connect (informed.connected_eq.trans absent)
        fun record record_mem => (books.stamped record record_mem).2

/-! ### Flushing -/

theorem failures_countFlush (tally : Tally) (result : Except FlushError FlushSummary) :
    tally.failures ≤ (countFlush tally result).failures ∧
      ((countFlush tally result).failures = 0 → ∃ summary, result = .ok summary) := by
  cases result with
  | ok summary => exact ⟨Nat.le_refl _, fun _ => ⟨summary, rfl⟩⟩
  | error error => exact ⟨Nat.le_succ _, fun none_failed => nomatch none_failed⟩

theorem turn_flushViewer (viewer : Viewer) (stage : Stage σ) :
    Turn now (viewer, stage) (flushViewer viewer stage) :=
  ⟨rfl, rfl, (failures_countFlush stage.tally _).1, Viewer.concerns_takeIn,
    fun books informed =>
      informed.takeIn books.apart fun record record_mem => (books.stamped record record_mem).1⟩

theorem turn_flushDue (tick : Nat) (viewer : Viewer) (stage : Stage σ) :
    Turn now (viewer, stage) (flushDue tick viewer stage) := by
  rw [flushDue]
  split
  · exact turn_flushViewer viewer stage
  · exact .refl now (viewer, stage)

theorem turn_flushConnected (viewer : Viewer) (stage : Stage σ) :
    Turn now (viewer, stage) (flushConnected viewer stage) := by
  rw [flushConnected]
  split
  · exact turn_flushViewer viewer stage
  · exact .refl now (viewer, stage)

/-- A viewer is settled if no flush failed. -/
def SettledUnlessFailed (viewer : Viewer) (stage : Stage σ) : Prop :=
  stage.tally.failures = 0 → viewer.Settled stage.log stage.service.state

/-- After the last recording, flushing a viewer if it is connected settles it. -/
theorem settled_flushConnected {viewer : Viewer} {stage : Stage σ}
    (books : stage.service.Books names now stage.log)
    (informed : viewer.Informed now stage.log stage.service.state)
    (earlier : ∀ record ∈ stage.log, record.deletedAt < now) :
    SettledUnlessFailed (flushConnected viewer stage).1 (flushConnected viewer stage).2 := by
  intro none_failed
  rw [flushConnected] at none_failed ⊢
  split at none_failed
  · next connected =>
      rw [if_pos connected]
      rcases (failures_countFlush stage.tally _).2 none_failed with ⟨summary, succeeded⟩
      exact informed.settled_takeIn books.apart
        (fun record record_mem => (books.stamped record record_mem).1)
        (fun record held => earlier record (books.logged record held)) succeeded
  · next absent =>
      rw [if_neg absent]
      exact informed.settled (by simpa using absent)

/-! ## Whole simulations -/

/-- How a simulation stands after so many ticks. -/
structure Underway (plan : Plan) (schedule : List Nat) (names : List SessionId) (ticks : Nat)
    (viewers : List Viewer) (stage : Stage σ) : Prop where
  inOrder : InOrder names (timeAt ticks) viewers stage
  recorded_eq : stage.log.length = schedule.countP (· < ticks)
  collections_eq : stage.service.collector.tally.ticks = ticks / ticksPerPrune
  policy_eq : stage.service.collector.rules.policy = plan.policy

section Underway

variable {plan : Plan} {schedule : List Nat} {ticks : Nat}

theorem Underway.advanced (underway : Underway plan schedule names ticks viewers stage)
    (inTime : 1000000 + (ticks + 1) * tickMicros < Timestamp.instants) :
    InOrder names (timeAt (ticks + 1)) viewers (advance stage) ∧
      (advance stage).service.HoldsPresent (timeAt (ticks + 1)) (advance stage).log := by
  have moved := timeAt_lt_succ inTime
  rw [timeAt_succ inTime] at moved ⊢
  exact underway.inOrder.advanced moved

theorem Underway.earlier (underway : Underway plan schedule names ticks viewers stage)
    (inTime : 1000000 + (ticks + 1) * tickMicros < Timestamp.instants) :
    ∀ record ∈ stage.log, record.deletedAt < timeAt (ticks + 1) :=
  fun record record_mem => Nat.lt_of_le_of_lt
    (underway.inOrder.books.stamped record record_mem).2 (timeAt_lt_succ inTime)

/-- The ticks that end with a collection are the last of sixty each. -/
theorem underway_succ (inOrder : InOrder names (timeAt (ticks + 1)) viewers stage)
    (recorded_eq : stage.log.length = schedule.countP (· < ticks + 1))
    (collections_eq : stage.service.collector.tally.ticks = ticks / ticksPerPrune)
    (policy_eq : stage.service.collector.rules.policy = plan.policy) :
    Underway plan schedule names (ticks + 1) viewers
      (if ticks % ticksPerPrune = ticksPerPrune - 1 then collect stage else stage) := by
  split
  · next last =>
      refine ⟨inOrder.collected, recorded_eq, ?_, policy_eq⟩
      refine (CollectionTally.ticks_count _ _).trans ?_
      rw [collections_eq]
      simp only [ticksPerPrune] at last ⊢
      omega
  · next other =>
      refine ⟨inOrder, recorded_eq, ?_, policy_eq⟩
      rw [collections_eq]
      simp only [ticksPerPrune] at other ⊢
      omega

/-- A tick keeps everything in order. -/
theorem Underway.tick (underway : Underway plan schedule names ticks viewers stage)
    (source : DrawSource σ) (distinct : names.Nodup)
    (inTime : 1000000 + (ticks + 1) * tickMicros < Timestamp.instants) :
    let progress := runTick source plan schedule (viewers, stage) ticks
    Underway plan schedule names (ticks + 1) progress.1 progress.2 := by
  intro progress
  rcases underway.advanced inTime with ⟨inOrder, present⟩
  rcases inOrder.recordDeletions source (zero_lt_timeAt (ticks + 1)) present
    (schedule.count ticks) with ⟨inOrderRecorded, length_eq, collectorRecorded⟩
  rcases inOrderRecorded.keep distinct (turn_churn source plan.churn) with
    ⟨inOrderChurned, logChurned, collectorChurned⟩
  rcases inOrderChurned.keep distinct (turn_flushDue ticks) with
    ⟨inOrderFlushed, logFlushed, collectorFlushed⟩
  refine underway_succ inOrderFlushed ?_ ?_ ?_
  · rw [logFlushed, logChurned, length_eq, log_advance, underway.recorded_eq, countP_lt_succ]
  · rw [collectorFlushed, collectorChurned, collectorRecorded, collector_advance,
      underway.collections_eq]
  · rw [collectorFlushed, collectorChurned, collectorRecorded, collector_advance,
      underway.policy_eq]

/-- So do all ticks. -/
theorem Underway.run (underway : Underway plan schedule names 0 viewers stage)
    (source : DrawSource σ) (distinct : names.Nodup)
    (inTime : 1000000 + ticks * tickMicros < Timestamp.instants) :
    let progress := (List.range ticks).foldl (runTick source plan schedule) (viewers, stage)
    Underway plan schedule names ticks progress.1 progress.2 := by
  induction ticks with
  | zero => exact underway
  | succ ticks ih =>
      rw [List.range_succ, List.foldl_append]
      exact (ih (inTime_of_succ inTime)).tick source distinct inTime

/-- Viewers that are connected at the start start off in order. -/
theorem underway_start (settings : Settings) (paces : List Nat) (draws : σ)
    (policy_eq : settings.config.emptyRegistryPolicy = plan.policy) :
    let service := Service.start settings (Clock.manual .direct startTime)
    let connected := eachViewer (·.connect startTime) (Simulation.viewers paces) service
    Underway plan schedule ((Simulation.viewers paces).map (·.session)) 0 connected.1
      { draws, service := connected.2 } := by
  intro service connected
  let names := (Simulation.viewers paces).map (·.session)
  have start_eq : startTime = timeAt 0 := by simp [startTime, timeAt]
  have turns := eachViewer_induction
    (fun between : Service => between.Books names startTime [] ∧
      between.collector = service.collector)
    (fun viewer between => viewer.session ∈ names ∧
      between.state.registry.isConnected viewer.session = false)
    (fun viewer between => viewer.Informed startTime [] between.state)
    (fun viewer between => (rfl : (viewer.connect startTime between).1.session = viewer.session))
    ?_ ?_ (nodup_viewers paces) ⟨Service.books_start settings names startTime, rfl⟩ ?_
  · rcases turns with ⟨⟨books, collector_eq⟩, informed, _⟩
    refine ⟨start_eq ▸ ⟨books, ?_, informed⟩, ?_, ?_, ?_⟩
    · exact map_session_eachViewer (fun _ _ => rfl) (Simulation.viewers paces) service
    · simp
    · rw [collector_eq]
      rfl
    · rw [collector_eq]
      exact policy_eq
  · rintro viewer between ⟨books, collector_eq⟩ ⟨named, absent⟩
    have concerns : Service.Concerns viewer.session startTime between _ :=
      Viewer.concerns_connect books.apart
    exact ⟨⟨books.concerns named concerns, concerns.collector_eq.trans collector_eq⟩,
      Viewer.informed_connect absent (by simp)⟩
  · rintro viewer between other ⟨books, _⟩ _ different
    have concerns : Service.Concerns viewer.session startTime between _ :=
      Viewer.concerns_connect books.apart
    have mirrors := concerns.mirrors other.session different
    constructor
    · rintro ⟨named, absent⟩
      exact ⟨named, mirrors.isConnected_eq.trans absent⟩
    · intro informed
      exact informed.of_mirrors concerns.ledger_eq mirrors
  · intro viewer viewer_mem
    exact ⟨List.mem_map_of_mem viewer_mem, rfl⟩

/-! ### The end -/

/-- Settled viewers are the only ones that are connected, and are past all records. -/
theorem InOrder.pastAll (inOrder : InOrder names now viewers stage)
    (settled : ∀ viewer ∈ viewers, viewer.Settled stage.log stage.service.state)
    (session : SessionId) : stage.service.state.PastAll session := by
  intro cursor found
  have connected := Registry.isConnected_iff_cursor?.mpr ⟨cursor, found⟩
  rw [Registry.isConnected_iff_mem_ids] at connected
  have named := inOrder.books.known session connected
  rw [← inOrder.names_eq] at named
  rcases List.mem_map.mp named with ⟨viewer, viewer_mem, rfl⟩
  exact (settled viewer viewer_mem).past cursor found

/-- Once all viewers are settled, a collection forgets everything that was recorded before now,
unless it retains it for want of sessions. -/
theorem InOrder.size_collect (inOrder : InOrder names now viewers stage)
    (settled : ∀ viewer ∈ viewers, viewer.Settled stage.log stage.service.state)
    (earlier : ∀ record ∈ stage.log, record.deletedAt < now) :
    (collect stage).service.state.ledger.size = 0 ∨
      (collect stage).service.state.Retains stage.service.collector.rules := by
  have sound := inOrder.books.apart.sound
  by_cases retains : stage.service.state.Retains stage.service.collector.rules
  · have registry_eq := State.registry_collect stage.service.collector.rules sound.quiet
    exact Or.inr ⟨(congrArg Registry.ids registry_eq).trans retains.1, retains.2⟩
  · have before_now : ∀ record ∈ stage.service.state.ledger.records,
        record.deletedAt < stage.service.state.clock.read.1.time := by
      rw [inOrder.books.apart.rests.time_eq]
      exact fun record held => earlier record (inOrder.books.logged record held)
    have behind := State.lt_nextWatermark sound.distinct (inOrder.pastAll settled) before_now
    have none_left := (State.collect_of_all_before sound retains behind).1
    rw [inOrder.collected.books.balanced.size_eq]
    exact Or.inl (congrArg List.length none_left)

/-- The last flushes settle all viewers, unless one of them fails. -/
theorem Underway.flushed (underway : Underway plan schedule names ticks viewers stage)
    (distinct : names.Nodup)
    (inTime : 1000000 + (ticks + 1) * tickMicros < Timestamp.instants) :
    let flushed := Tombstone.eachViewer flushConnected viewers (advance stage)
    InOrder names (timeAt (ticks + 1)) flushed.1 flushed.2 ∧
      (flushed.2.log = stage.log ∧ flushed.2.service.collector = stage.service.collector) ∧
      ∀ viewer ∈ flushed.1, SettledUnlessFailed viewer flushed.2 := by
  intro flushed
  rcases underway.advanced inTime with ⟨inOrder, _⟩
  have earlier := underway.earlier inTime
  rw [← log_advance] at earlier
  have turns := inOrder.eachViewer distinct turn_flushConnected SettledUnlessFailed ?_ ?_
  · rcases turns with ⟨inOrderFlushed, ⟨log_eq, collector_eq⟩, settled⟩
    exact ⟨inOrderFlushed, ⟨log_eq.trans (log_advance stage),
      collector_eq.trans (collector_advance stage)⟩, settled⟩
  · intro viewer between log_eq books informed
    rw [← log_eq] at books informed earlier
    exact settled_flushConnected books informed earlier
  · intro viewer between other books different settled none_failed
    have turn : Turn (timeAt (ticks + 1)) (viewer, between) (flushConnected viewer between) :=
      turn_flushConnected viewer between
    have concerns := turn.concerns books.apart
    have none_before : between.tally.failures = 0 :=
      Nat.le_zero.mp (none_failed ▸ turn.failures_le)
    rw [turn.log_eq]
    exact (settled none_before).of_mirrors concerns.ledger_eq
      (concerns.mirrors other.session different)

theorem Underway.finish (underway : Underway plan schedule names ticks viewers stage)
    (distinct : names.Nodup)
    (inTime : 1000000 + (ticks + 1) * tickMicros < Timestamp.instants) :
    let last := Simulation.finish (viewers, stage)
    last.2.service.Books names (timeAt (ticks + 1)) last.2.log ∧ last.2.log = stage.log ∧
      last.2.service.collector.tally.ticks = ticks / ticksPerPrune + 1 ∧
      (last.2.tally.failures = 0 → (∀ viewer ∈ last.1, viewer.missed last.2.log = []) ∧
        (last.2.service.state.ledger.size = 0 ∨
          plan.policy = .retainAll ∧ last.2.service.state.registry.ids = [])) := by
  intro last
  rcases underway.flushed distinct inTime with ⟨inOrder, ⟨log_eq, collector_eq⟩, settled⟩
  refine ⟨inOrder.collected.books, log_eq, ?_, fun none_failed => ⟨?_, ?_⟩⟩
  · refine (CollectionTally.ticks_count _ _).trans ?_
    rw [collector_eq, underway.collections_eq]
  · exact fun viewer viewer_mem => (settled viewer viewer_mem none_failed).missed_eq
  · have earlier := underway.earlier inTime
    rw [← log_eq] at earlier
    rcases inOrder.size_collect (fun viewer viewer_mem => settled viewer viewer_mem none_failed)
      earlier with none_left | ⟨nobody, retains⟩
    · exact Or.inl none_left
    · rw [collector_eq, underway.policy_eq] at retains
      exact Or.inr ⟨retains, nobody⟩

end Underway

end Stages

/-- Packets of an accepted size are all that a plan needs for its settings. -/
theorem check_of_accepted {plan : Plan} {capacity : Capacity}
    (accepted : Capacity.ofBytes plan.maxPacketBytes.toNat = .ok capacity) :
    ∃ settings, (config plan).check = .ok settings ∧ settings.config = config plan := by
  rw [Config.check]
  split
  · next error refused =>
      cases accepted.symm.trans refused
  · exact ⟨_, rfl, rfl⟩

/-- Whatever is drawn, a simulation with packets of an accepted size records all its deletions,
collects once for every sixty ticks and once at the end, and has either removed or still holds each
of the different records. If no flush fails in it, every connected viewer was told everything since
it was connected, and nothing is held at the end, unless it is retained for want of sessions. -/
theorem consistent_without_failures {σ : Type} (source : DrawSource σ) (plan : Plan) (draws : σ)
    {capacity : Capacity}
    (accepted : Capacity.ofBytes plan.maxPacketBytes.toNat = .ok capacity)
    (inTime : 1000000 + (max plan.ticks 1 + 1) * tickMicros < Timestamp.instants) :
    ∃ settings, (config plan).check = .ok settings ∧
      (plan.fits = true → run source plan draws = .ok (runWith source plan settings draws)) ∧
      let report := runWith source plan settings draws
      let last := (play source plan settings draws).2
      report.deletionsRecorded = plan.deletions ∧
        report.pruneTicks = max plan.ticks 1 / ticksPerPrune + 1 ∧
        report.recordsPruned + report.ledgerRemaining = last.log.dedup.length ∧
        (report.tally.failures = 0 → report.missing = 0 ∧
          (report.ledgerRemaining = 0 ∨
            plan.policy = .retainAll ∧ last.service.state.registry.ids = [])) := by
  rcases check_of_accepted accepted with ⟨settings, check_eq, config_eq⟩
  refine ⟨settings, check_eq, fun fits => ?_, ?_⟩
  · rw [run, Plan.check, check_eq]
    simp only [Except.mapError, fits]
    rfl
  · let ticks := max plan.ticks 1
    let paces := drawPaces source plan.sessions draws
    let scheduled := drawTicks source ticks (Nat.le_max_right plan.ticks 1) plan.deletions paces.2
    let names := (viewers paces.1).map (·.session)
    have distinct : names.Nodup := nodup_viewers paces.1
    have policy_eq : settings.config.emptyRegistryPolicy = plan.policy := by
      rw [config_eq, config]
    have start : Underway plan scheduled.1 names 0 _ _ :=
      underway_start settings paces.1 scheduled.2 policy_eq
    have underway := start.run source distinct (inTime_of_succ inTime)
    rcases underway.finish distinct inTime with ⟨books, log_eq, collections_eq, clean⟩
    rcases drawTicks_within source ticks (Nat.le_max_right plan.ticks 1) plan.deletions paces.2 with
      ⟨length_eq, within⟩
    refine ⟨?_, collections_eq, books.pruned_add_size, fun none_failed => ?_⟩
    · refine (congrArg List.length log_eq).trans (underway.recorded_eq.trans ?_)
      have all_due := List.countP_eq_length.mpr
        fun tick tick_mem => decide_eq_true (within tick tick_mem)
      rw [all_due, length_eq]
    · rcases clean none_failed with ⟨none_missed, left⟩
      refine ⟨?_, left⟩
      exact List.length_eq_zero_iff.mpr (List.flatMap_eq_nil_iff.mpr none_missed)

/-- One of two viewers goes, comes back and goes again, and no flush fails. -/
theorem consistent_without_failures_of_two :
    let source : DrawSource Nat :=
      { below := fun bound positive draws => (⟨draws % bound, Nat.mod_lt draws positive⟩, draws + 1)
        id := fun draws => (.ofNat draws, draws + 1)
        happens := fun _ draws => (draws % 3 = 0, draws + 1) }
    let plan : Plan :=
      { sessions := 2
        deletions := 3
        ticks := 3
        maxPacketBytes := 64
        churn := .always
        policy := .forgetAll }
    ∃ report, run source plan 0 = .ok report ∧ report.tally.failures = 0 ∧
      report.tally.reconnects = 1 ∧ report.deletionsRecorded = 3 ∧ report.pruneTicks = 1 ∧
      report.missing = 0 ∧ report.ledgerRemaining = 0 := by
  intro source plan
  have accepted : Capacity.ofBytes plan.maxPacketBytes.toNat =
      .ok ⟨64, by decide, by decide⟩ := rfl
  rcases consistent_without_failures source plan 0 accepted (by decide) with
    ⟨settings, _, run_eq, recorded_eq, collections_eq, _, clean⟩
  have made := run_eq (by decide)
  have counted : (run source plan 0).toOption.map
      (fun report => (report.tally.failures, report.tally.reconnects)) = some (0, 1) := by
    decide +kernel
  rw [made, Except.toOption, Option.map_some, Option.some.injEq, Prod.mk.injEq] at counted
  rcases counted with ⟨none_failed, reconnects_eq⟩
  rcases clean none_failed with ⟨none_missed, none_left | ⟨retains, _⟩⟩
  · exact ⟨_, made, none_failed, reconnects_eq, recorded_eq, collections_eq.trans (by decide),
      none_missed, none_left⟩
  · cases retains

end Tombstone.Simulation
