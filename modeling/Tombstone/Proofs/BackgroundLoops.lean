import Tombstone.Proofs.Runs
import Tombstone.Proofs.Schedule

/-!
# Background loops keep to a schedule

Nothing but sleeping lets time pass. While the loops run, a service therefore does the same as one
without loops that goes through time instant by instant and does the work of the schedule by plain
calls, each on what everything earlier has left. Once the loops are stopped, nothing is done however
long it sleeps.
-/

namespace Tombstone

/-! ## What takes no time -/

namespace State

theorem slept_perform (state : State) (action : Action) :
    (state.perform action).clock.slept = state.clock.slept := by
  cases action with
  | attach session now cursor =>
      simp only [perform, attach]
      split <;> rfl
  | detach session =>
      simp only [perform, detach]
      split <;> rfl
  | send session bytes =>
      simp only [perform, send]
      split <;> rfl
  | _ => rfl

theorem slept_foldl_perform (actions : List Action) (state : State) :
    (actions.foldl perform state).clock.slept = state.clock.slept := by
  induction actions generalizing state with
  | nil => rfl
  | cons action rest ih => exact (ih (state.perform action)).trans (slept_perform state action)

theorem slept_readClock (state : State) :
    state.readClock.2.clock.slept = state.clock.slept := by
  have turned : state.yieldBeforeReading.clock.slept = state.clock.slept := by
    simp only [yieldBeforeReading]
    split
    · rfl
    · exact slept_foldl_perform _ _
  have read (clock : Clock) : clock.read.2.slept = clock.slept := by
    simp only [Clock.read]
    split <;> rfl
  rw [← turned, ← read state.yieldBeforeReading.clock]
  simp only [readClock]
  split <;> rfl

theorem slept_handOver (state : State) (session : SessionId) (bytes : Bytes) :
    (state.handOver session bytes).2.clock.slept = state.clock.slept := by
  have turned : state.yieldBeforeSending.clock.slept = state.clock.slept := by
    simp only [yieldBeforeSending]
    split
    · rfl
    · exact slept_foldl_perform _ _
  exact (slept_perform state.yieldBeforeSending (.send session bytes)).trans turned

theorem slept_deliver (session : SessionId) (packets : List Packet) (state : State) :
    (state.deliver session packets).2.clock.slept = state.clock.slept := by
  induction packets generalizing state with
  | nil => rfl
  | cons packet rest ih =>
      have handed := slept_handOver state session packet.toBytes
      rw [deliver]
      split
      · next after refused =>
          rw [refused] at handed
          exact handed
      · next after taken =>
          rw [taken] at handed
          exact (ih after).trans handed

theorem slept_settle (state : State) (session : SessionId) (delivery : Delivery) (ids : Nat)
    (snapshot : Timestamp) :
    (state.settle session delivery ids snapshot).2.clock.slept = state.clock.slept := by
  simp only [settle]
  split
  · rfl
  · dsimp only [note]
    split <;> rfl

theorem slept_flush (settings : Settings) (state : State) (session : SessionId) :
    (state.flush settings session).2.clock.slept = state.clock.slept := by
  simp only [flush]
  split
  · rfl
  · rw [slept_settle, slept_deliver]
    exact slept_readClock state

theorem slept_flushAllIn (settings : Settings) (order : List SessionId) (state : State) :
    (state.flushAllIn settings order).2.clock.slept = state.clock.slept := by
  suffices visits : ∀ progress : RoundSummary × State,
      (order.foldl (visit settings) progress).2.clock.slept = progress.2.clock.slept from
    visits _
  induction order with
  | nil => exact fun _ => rfl
  | cons session rest ih =>
      intro progress
      rw [List.foldl_cons, ih]
      have flushed := slept_flush settings progress.2 session
      simp only [visit]
      split
      · split <;> next result => exact (congrArg (·.2.clock.slept) result).symm.trans flushed
      · rfl

theorem slept_collect (rules : CollectionRules) (state : State) :
    (state.collect rules).2.clock.slept = state.clock.slept := by
  have read := slept_readClock state
  simp only [collect]
  split
  · split
    · exact read
    · rw [foldl_note_stalled]
      exact read
  · rfl

end State

namespace Service

section Work

variable {service : Service}

theorem slept_work (service : Service) (work : Work) :
    (service.work work).state.clock.slept = service.state.clock.slept := by
  cases work with
  | dispatch => exact State.slept_flushAllIn service.settings _ service.state
  | collect => exact State.slept_collect service.collector.rules service.state

theorem slept_take (service : Service) (step : Step) :
    (service.take step).state.clock.slept = service.state.clock.slept := by
  have read := State.slept_readClock service.state
  cases step with
  | record id time => rfl
  | recordNow id | watermark | laggards => exact read
  | attachNow session =>
      exact (State.slept_perform _ (.attach session _ _)).trans read
  | flush session => exact State.slept_flush service.settings service.state session
  | flushAll order => exact State.slept_flushAllIn service.settings order service.state
  | collect => exact State.slept_collect service.collector.rules service.state
  | act action => exact State.slept_perform service.state action

/-- A service without the timetable of its loops. -/
def plain (service : Service) : Service := { service with timetable := none }

theorem plain_work (service : Service) (work : Work) :
    (service.work work).plain = service.plain.work work := by
  cases work <;> rfl

theorem plain_take (service : Service) (step : Step) :
    (service.take step).plain = service.plain.take step := by
  cases step <;> rfl

theorem timetable_take (service : Service) (step : Step) :
    (service.take step).timetable = service.timetable := by
  cases step <;> rfl

theorem sleepUntil_of_slept {instant : Nat} (slept : service.state.clock.slept = instant) :
    service.sleepUntil instant = service := by
  rw [← slept]
  rfl

/-- Pieces of work that are due at one instant are done one after the other then. -/
theorem foldl_workAt (works : List Work) (instant : Nat) (service : Service) :
    ((works.map (instant, ·)).foldl workAt service).sleepUntil instant =
      works.foldl work (service.sleepUntil instant) := by
  induction works generalizing service with
  | nil => rfl
  | cons first rest ih =>
      have worked : (service.workAt (instant, first)).state.clock.slept = instant :=
        slept_work _ first
      simp only [List.map_cons, List.foldl_cons, ih, sleepUntil_of_slept worked]
      rfl

theorem plain_foldl_workAt (due : List (Nat × Work)) (service : Service) :
    (due.foldl workAt service).plain = due.foldl workAt service.plain := by
  induction due generalizing service with
  | nil => rfl
  | cons first rest ih =>
      rw [List.foldl_cons, ih, List.foldl_cons]
      exact congrArg (rest.foldl workAt) (plain_work _ first.2)

/-- Work is done at its own time, whatever the time was before. -/
theorem foldl_workAt_sleepUntil (due : List (Nat × Work)) (first second : Nat) (service : Service) :
    (due.foldl workAt (service.sleepUntil first)).sleepUntil second =
      (due.foldl workAt service).sleepUntil second := by
  cases due <;> rfl

end Work

/-! ## Sleeping -/

section Sleep

variable {service : Service}

theorem eq_of_plain {left right : Service} (plain_eq : left.plain = right.plain)
    (timetable_eq : left.timetable = right.timetable) : left = right := by
  cases left
  cases right
  simp_all [plain]

theorem slept_sleep (service : Service) (millis : Nat) :
    (service.sleep millis).state.clock.slept = service.state.clock.slept + millis := by
  simp only [sleep]
  split <;> rfl

theorem sleep_of_stopped (stopped : service.timetable = none) (millis : Nat) :
    service.sleep millis = service.sleepUntil (service.state.clock.slept + millis) := by
  simp only [sleep, stopped]

/-- A service whose loops run sleeps by doing what its timetable has due. -/
theorem sleep_of_running {timetable : Timetable} (runs : service.timetable = some timetable)
    (millis : Nat) :
    let wake := service.state.clock.slept + millis
    (service.sleep millis).plain =
        ((timetable.due wake).foldl workAt service.plain).sleepUntil wake ∧
      (service.sleep millis).timetable = some (timetable.after wake) := by
  simp only [sleep, runs, ← plain_foldl_workAt]
  exact ⟨rfl, trivial⟩

/-- Sleeping twice is sleeping once as long. -/
theorem sleep_sleep (service : Service) (first second : Nat) :
    (service.sleep first).sleep second = service.sleep (first + second) := by
  cases runs : service.timetable with
  | none =>
      have still : (service.sleepUntil (service.state.clock.slept + first)).timetable = none := runs
      rw [sleep_of_stopped runs, sleep_of_stopped runs, sleep_of_stopped still, ← Nat.add_assoc]
      rfl
  | some timetable =>
      rcases sleep_of_running runs first with ⟨plainFirst, runsFirst⟩
      rcases sleep_of_running runsFirst second with ⟨plainSecond, runsSecond⟩
      rcases sleep_of_running runs (first + second) with ⟨plainBoth, runsBoth⟩
      rcases timetable.due_after_split
        (Nat.le_add_right (service.state.clock.slept + first) second) with ⟨due_eq, after_eq⟩
      rw [slept_sleep] at plainSecond runsSecond
      rw [← Nat.add_assoc] at plainBoth runsBoth
      apply eq_of_plain
      · rw [plainSecond, plainFirst, plainBoth, foldl_workAt_sleepUntil, ← List.foldl_append, due_eq]
      · rw [runsSecond, runsBoth, after_eq]

end Sleep

/-! ## Going through time by instants -/

/-- Lets an instant come, and does by plain calls the work that there is for it. -/
def reach (turns : Nat → List Work) (service : Service) (instant : Nat) : Service :=
  (turns instant).foldl work (service.sleepUntil instant)

/-- Lets the instants from a first to a last one come one by one, each with its work. -/
def elapse (service : Service) (turns : Nat → List Work) (first last : Nat) : Service :=
  ((List.range' first (last + 1 - first)).foldl (reach turns) service).sleepUntil last

/-- Instants without work only let time pass. -/
theorem elapse_nothing (service : Service) (first last : Nat) :
    service.elapse (fun _ => []) first last = service.sleepUntil last := by
  rw [elapse]
  generalize List.range' first (last + 1 - first) = instants
  induction instants generalizing service with
  | nil => rfl
  | cons instant rest ih => exact ih (service.sleepUntil instant)

/-- To do the work of some instants at its times is to let the instants come one by one. -/
theorem foldl_workAt_turns (turns : Nat → List Work) (instants : List Nat) (last : Nat)
    (service : Service) :
    ((instants.flatMap fun instant => (turns instant).map (instant, ·)).foldl workAt
        service).sleepUntil last =
      (instants.foldl (reach turns) service).sleepUntil last := by
  induction instants generalizing service with
  | nil => rfl
  | cons instant rest ih =>
      rw [List.flatMap_cons, List.foldl_append, List.foldl_cons, ← ih, reach, ← foldl_workAt,
        foldl_workAt_sleepUntil]

/-- The loops of a service run by a timetable that has the turns of a schedule from an instant on,
and all earlier instants have come. -/
def RunsBy (service : Service) (schedule : Schedule) (pending : Nat) : Prop :=
  ∃ timetable, service.timetable = some timetable ∧ timetable.Keeps schedule pending ∧
    pending ≤ service.state.clock.slept + 1

section Elapse

variable {service : Service} {schedule : Schedule} {pending : Nat}

/-- To sleep while the loops run is to let the instants come one by one, each with the work of the
schedule. -/
theorem sleep_elapses (runs : service.RunsBy schedule pending) (millis : Nat) :
    let wake := service.state.clock.slept + millis
    (service.sleep millis).plain = service.plain.elapse schedule.turns pending wake ∧
      (service.sleep millis).RunsBy schedule (wake + 1) := by
  intro wake
  rcases runs with ⟨timetable, running, keeps, reached⟩
  have reachedWake : pending ≤ wake + 1 := by omega
  rcases sleep_of_running running millis with ⟨plain_eq, timetable_eq⟩
  rcases keeps.turns reachedWake with ⟨due_eq, keepsNext⟩
  refine ⟨?_, _, timetable_eq, keepsNext, Nat.le_of_eq ?_⟩
  · rw [plain_eq, due_eq, foldl_workAt_turns]
    rfl
  · rw [slept_sleep]

theorem take_runsBy (runs : service.RunsBy schedule pending) (step : Step) :
    (service.take step).RunsBy schedule pending := by
  rcases runs with ⟨timetable, running, keeps, reached⟩
  refine ⟨timetable, (timetable_take service step).trans running, keeps, ?_⟩
  rwa [slept_take]

end Elapse

end Service

/-! ## Scripts -/

/-- What comes next: some time is slept through, or a step is taken, which takes no time. -/
inductive Passage where
  | sleep (millis : Nat)
  | take (step : Step)
  deriving DecidableEq, Repr

namespace Service

/-- Goes through a script, with the loops of the service doing their work as time passes. -/
def play (service : Service) : List Passage → Service
  | [] => service
  | .sleep millis :: rest => (service.sleep millis).play rest
  | .take step :: rest => (service.take step).play rest

/-- Goes through a script, doing by plain calls the work that there is for each instant, from an
instant on whose work is still to be done. -/
def playBy (service : Service) (turns : Nat → List Work) (pending : Nat) : List Passage → Service
  | [] => service
  | .sleep millis :: rest =>
      let wake := service.state.clock.slept + millis
      (service.elapse turns pending wake).playBy turns (wake + 1) rest
  | .take step :: rest => (service.take step).playBy turns pending rest

/-- The schedule of loops that are started now. -/
def schedule (service : Service) (runtime : Runtime) : Schedule :=
  { started := service.state.clock.slept
    period := service.settings.period
    order := runtime.order }

/-- After a script with a sleep, no work is left over from the instants that have come. -/
theorem play_runsBy {service : Service} {schedule : Schedule} {pending : Nat}
    (runs : service.RunsBy schedule pending) (script : List Passage) :
    (service.play script).plain = service.plain.playBy schedule.turns pending script ∧
      ∃ next, (service.play script).RunsBy schedule next ∧
        (service.state.clock.slept < pending ∨ (∃ millis, .sleep millis ∈ script) →
          (service.play script).state.clock.slept < next) := by
  induction script generalizing service pending with
  | nil => exact ⟨rfl, pending, runs, fun slept => slept.resolve_right (by simp)⟩
  | cons passage rest ih =>
      cases passage with
      | sleep millis =>
          rcases sleep_elapses runs millis with ⟨plain_eq, runsNext⟩
          rcases ih runsNext with ⟨plain_rest, next, runsLast, caughtUp⟩
          rw [plain_eq] at plain_rest
          refine ⟨plain_rest, next, runsLast, fun _ => caughtUp (Or.inl ?_)⟩
          rw [slept_sleep]
          exact Nat.lt_succ_self _
      | take step =>
          rcases ih (take_runsBy runs step) with ⟨plain_rest, next, runsLast, caughtUp⟩
          rw [plain_take] at plain_rest
          rw [slept_take] at caughtUp
          refine ⟨plain_rest, next, runsLast, fun slept => caughtUp (slept.imp_right ?_)⟩
          rintro ⟨millis, sleep_mem⟩
          exact ⟨millis, (List.mem_cons.mp sleep_mem).resolve_left nofun⟩

/-- Without loops nothing is done as time passes. -/
theorem play_of_stopped {service : Service} (stopped : service.timetable = none)
    (script : List Passage) (pending : Nat) :
    service.play script = service.playBy (fun _ => []) pending script := by
  induction script generalizing service pending with
  | nil => rfl
  | cons passage rest ih =>
      cases passage with
      | sleep millis =>
          rw [play, playBy, elapse_nothing, ← sleep_of_stopped stopped]
          apply ih
          rw [sleep_of_stopped stopped]
          exact stopped
      | take step => exact ih ((timetable_take service step).trans stopped) pending

/-! ## Starting and ending -/

/-- Loops that are started have all turns of their schedule still to come. -/
theorem spawn_runsBy {service : Service} {runtime : Runtime}
    (ticks : ∀ work, runtime.TicksOncePerPeriod service.state.clock.slept
      (service.settings.period work)) :
    (service.spawn runtime).RunsBy (service.schedule runtime) service.state.clock.slept := by
  exact ⟨_, rfl, Timetable.keeps_start service.settings.period_pos ticks, Nat.le_succ _⟩

theorem plain_endLoop (service : Service) (work : Work) (onceMore : Bool) :
    (service.endLoop work onceMore).plain = service.plain.endLoop work onceMore := by
  cases onceMore with
  | false => rfl
  | true => cases work <;> rfl

theorem plain_endLoops (service : Service) (order : List Work) (onceMore : Work → Bool) :
    (service.endLoops order onceMore).plain = service.plain.endLoops order onceMore := by
  induction order generalizing service with
  | nil => rfl
  | cons work rest ih =>
      have end_eq := service.plain_endLoop work (onceMore work)
      exact (ih _).trans (congrArg (endLoops · rest onceMore) end_eq)

theorem stopLoops_stopped (service : Service) : service.stopLoops.timetable = none := by
  rw [stopLoops]
  split
  · assumption
  · rfl

/-- Loops that are told to end do their work once more at most, and not if it has been done for all
instants that have come. -/
theorem stopLoops_eq {service : Service} {schedule : Schedule} {pending : Nat}
    (runs : service.RunsBy schedule pending) :
    ∃ onceMore : Work → Bool,
      (service.state.clock.slept < pending → ∀ work, onceMore work = false) ∧
      service.stopLoops =
        service.plain.endLoops (schedule.order service.state.clock.slept) onceMore := by
  rcases runs with ⟨timetable, running, keeps, _⟩
  refine ⟨timetable.takesTick service.state.clock.slept true, ?_, ?_⟩
  · intro caughtUp work
    apply Bool.eq_false_iff.mpr
    intro takes
    have due := Loop.next_le_of_select (of_decide_eq_true takes)
    have not_before := (keeps.loops work).not_before
    omega
  · rw [← plain_endLoops, ← keeps.order_eq]
    simp only [stopLoops, running, plain]

/-- If intervals tick once a period, then whatever happens while the loops run, the service is left
as by plain calls: each piece of work is done when the loops are started and since then just at the
ends of its periods, on what everything earlier has left, as far as those instants are slept through.
Loops that are told to end do their work once more only if nothing was slept through since they were
started, and after that nothing is done as time passes. How long sleeps are divided makes no
difference. -/
theorem loops_keep_to_schedule (runtime : Runtime) (service : Service)
    (idle : service.timetable = none)
    (ticks : ∀ work, runtime.TicksOncePerPeriod service.state.clock.slept
      (service.settings.period work))
    (script later : List Passage) :
    let schedule := service.schedule runtime
    let running := (service.spawn runtime).play script
    let called := service.playBy schedule.turns schedule.started script
    running.plain = called ∧
    (∃ onceMore : Work → Bool,
      ((∃ millis, .sleep millis ∈ script) → ∀ work, onceMore work = false) ∧
      running.stopLoops.play later =
        (called.endLoops (schedule.order called.state.clock.slept) onceMore).playBy
          (fun _ => []) 0 later) ∧
    ∀ first second, (running.sleep first).sleep second = running.sleep (first + second) := by
  intro schedule running called
  have idle_eq : (service.spawn runtime).plain = service := eq_of_plain rfl idle.symm
  rcases play_runsBy (spawn_runsBy ticks) script with ⟨plain_eq, pending, runs, caughtUp⟩
  rw [idle_eq] at plain_eq
  have slept_eq : running.state.clock.slept = called.state.clock.slept :=
    congrArg (·.state.clock.slept) plain_eq
  rcases stopLoops_eq runs with ⟨onceMore, never, stopped_eq⟩
  refine ⟨plain_eq, ⟨onceMore, fun slept => never (caughtUp (Or.inr slept)), ?_⟩,
    sleep_sleep running⟩
  have ended_eq : running.stopLoops =
      called.endLoops (schedule.order called.state.clock.slept) onceMore := by
    rw [stopped_eq, plain_eq, slept_eq]
    rfl
  rw [← ended_eq]
  exact play_of_stopped (stopLoops_stopped running) later 0

end Service

/-- Settings by which rounds are three milliseconds apart and collections are two. -/
def Settings.brisk : Settings where
  config := { dispatchInterval := 3, pruneInterval := 2 }
  capacity := ⟨({} : Config).maxPacketBytes.toNat, by decide, by decide⟩
  capacity_bytes := rfl
  skewTolerance_ne_zero := by decide
  dispatchInterval_ne_zero := by decide
  pruneInterval_ne_zero := by decide

namespace Service

/-- A viewer comes and a deletion is recorded before the loops are first let run, so the first round
has something to send, and so has the second. There are four collections within six milliseconds,
and none later. -/
theorem loops_keep_to_schedule_brisk :
    let viewer : SessionId := ⟨"viewer"⟩
    let service := start .brisk (.manual .running ⟨1000⟩)
    let script : List Passage :=
      [.take (.attachNow viewer), .take (.act (.register viewer 8 "viewer")),
        .take (.recordNow (.ofNat 1)), .sleep 2, .take (.recordNow (.ofNat 2)), .sleep 4]
    let later : List Passage := [.take (.recordNow (.ofNat 3)), .sleep 9]
    let counts (service : Service) :=
      ((service.state.transport.queue viewer).length, service.collector.tally.ticks)
    service.timetable = none ∧
    (∀ work, Runtime.standard.TicksOncePerPeriod service.state.clock.slept
      (service.settings.period work)) ∧
    counts ((service.spawn .standard).play script) = (2, 4) ∧
    counts (((service.spawn .standard).play script).stopLoops.play later) = (2, 4) ∧
    let schedule := service.schedule .standard
    let running := (service.spawn .standard).play script
    let called := service.playBy schedule.turns schedule.started script
    running.plain = called ∧
    (∃ onceMore : Work → Bool,
      ((∃ millis, .sleep millis ∈ script) → ∀ work, onceMore work = false) ∧
      running.stopLoops.play later =
        (called.endLoops (schedule.order called.state.clock.slept) onceMore).playBy
          (fun _ => []) 0 later) ∧
    ∀ first second, (running.sleep first).sleep second = running.sleep (first + second) := by
  intro viewer service script later counts
  have idle : service.timetable = none := rfl
  have ticks : ∀ work, Runtime.standard.TicksOncePerPeriod service.state.clock.slept
      (service.settings.period work) := by
    intro work
    apply Runtime.standard_ticksOncePerPeriod
    cases work <;> decide
  have counts_eq : counts ((service.spawn .standard).play script) = (2, 4) := by decide +kernel
  have counts_later : counts (((service.spawn .standard).play script).stopLoops.play later) =
      (2, 4) := by
    decide +kernel
  exact ⟨idle, ticks, counts_eq, counts_later,
    loops_keep_to_schedule .standard service idle ticks script later⟩

end Service

end Tombstone
