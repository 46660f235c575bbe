import Tombstone.Proofs.Runs
import Tombstone.Proofs.WindowDelivery

/-!
# What a session's cursor tells about its past

While a session is connected, its cursor is the latest of the time at which it started, of the times
to which others moved it, and of the times at which flushes of the session succeeded. No other step
of a run moves it, so it never goes back. A session that was told everything up to some time is
therefore not told again about what lies before that time by more than the skew tolerance.
-/

namespace Tombstone

namespace Timestamp

/-- A time among others, none of which is later. -/
structure Latest (time : Timestamp) (times : List Timestamp) : Prop where
  mem : time ∈ times
  le : ∀ other ∈ times, other ≤ time

theorem latest_singleton (time : Timestamp) : time.Latest [time] :=
  ⟨List.mem_singleton_self time, by simp [le_iff]⟩

theorem latest_max (left right : Timestamp) : (max left right).Latest [left, right] := by
  constructor
  · simp only [Max.max]
    split <;> simp
  · simp only [List.mem_cons, List.not_mem_nil, or_false, le_iff, toNat_max]
    rintro other (rfl | rfl) <;> omega

theorem Latest.trans {first middle last : Timestamp} {earlier later : List Timestamp}
    (latestMiddle : middle.Latest (first :: earlier)) (latestLast : last.Latest (middle :: later)) :
    last.Latest (first :: (earlier ++ later)) := by
  have middle_le := latestLast.le middle List.mem_cons_self
  rw [← List.cons_append]
  constructor
  · rcases List.mem_cons.mp latestLast.mem with rfl | inLater
    · exact List.mem_append_left _ latestMiddle.mem
    · exact List.mem_append_right _ inLater
  · intro other other_mem
    rcases List.mem_append.mp other_mem with inEarlier | inLater
    · exact Nat.le_trans (latestMiddle.le other inEarlier) middle_le
    · exact latestLast.le other (List.mem_cons_of_mem _ inLater)

end Timestamp

namespace State

/-- The time up to which a flush tells its session everything; none if it fails. -/
def told? (settings : Settings) (session : SessionId) (state : State) : Option Timestamp :=
  match (state.flush settings session).1 with
  | .ok summary => some summary.snapshot
  | .error _ => none

/-- Flushes of a session that find its cursor ever later, between two times: none finds it before the
first time, or before a time up to which an earlier one of them told everything. -/
inductive Rising (settings : Settings) (session : SessionId) :
    Timestamp → List State → Timestamp → Prop where
  | none {low high : Timestamp} (rise : low ≤ high) : Rising settings session low [] high
  | flush {low cursor reached high : Timestamp} {state : State} {rest : List State}
      (sound : state.Sound) (found : state.registry.cursor? session = some cursor)
      (rise : low ≤ cursor)
      (latest : reached.Latest (cursor :: (state.told? settings session).toList))
      (later : Rising settings session reached rest high) :
      Rising settings session low (state :: rest) high

/-- How a cursor came from one time to another: by the given moves, among which are the flushes of
its session that succeeded. -/
structure Moved (settings : Settings) (session : SessionId) (start reached : Timestamp)
    (moves : List Timestamp) (flushes : List State) : Prop where
  latest : reached.Latest (start :: moves)
  rising : Rising settings session start flushes reached

section Moves

variable {settings : Settings} {session : SessionId} {state : State}

theorem Rising.lower {low middle high : Timestamp} {states : List State} (below : low ≤ middle)
    (rising : Rising settings session middle states high) :
    Rising settings session low states high := by
  cases rising with
  | none rise => exact .none (Nat.le_trans below rise)
  | flush sound found rise latest later =>
      exact .flush sound found (Nat.le_trans below rise) latest later

theorem Rising.append {low middle high : Timestamp} {first second : List State}
    (risingFirst : Rising settings session low first middle)
    (risingSecond : Rising settings session middle second high) :
    Rising settings session low (first ++ second) high := by
  induction risingFirst with
  | none rise => exact risingSecond.lower rise
  | flush sound found rise latest _ ih => exact .flush sound found rise latest (ih risingSecond)

theorem Rising.not_before {low high : Timestamp} {states : List State}
    (rising : Rising settings session low states high) :
    ∀ state ∈ states, state.Sound ∧
      ∃ cursor, state.registry.cursor? session = some cursor ∧ low ≤ cursor := by
  induction rising with
  | none => simp
  | @flush low cursor reached high state rest sound found rise latest later ih =>
      have low_le : low ≤ reached := Nat.le_trans rise (latest.le cursor List.mem_cons_self)
      refine List.forall_mem_cons.mpr ⟨⟨sound, cursor, found, rise⟩, ?_⟩
      intro other other_mem
      rcases ih other other_mem with ⟨soundOther, otherCursor, otherFound, reached_le⟩
      exact ⟨soundOther, otherCursor, otherFound, Nat.le_trans low_le reached_le⟩

/-- After a flush that told everything up to some time, all later ones find the cursor there or
later. -/
theorem Rising.pairwise {low high : Timestamp} {states : List State}
    (rising : Rising settings session low states high) :
    states.Pairwise fun first second => second.Sound ∧
      ∃ cursor, second.registry.cursor? session = some cursor ∧
        ∀ told, first.told? settings session = some told → told ≤ cursor := by
  induction rising with
  | none => exact .nil
  | flush sound found rise latest later ih =>
      refine List.pairwise_cons.mpr ⟨?_, ih⟩
      intro second second_mem
      rcases later.not_before second second_mem with ⟨soundSecond, cursor, found, reached_le⟩
      refine ⟨soundSecond, cursor, found, ?_⟩
      intro told told_eq
      exact Nat.le_trans (latest.le told (by simp [told_eq])) reached_le

theorem Moved.none (time : Timestamp) : Moved settings session time time [] [] :=
  ⟨Timestamp.latest_singleton time, .none (Nat.le_refl _)⟩

theorem Moved.append {start middle last : Timestamp} {earlier later : List Timestamp}
    {first second : List State} (movedFirst : Moved settings session start middle earlier first)
    (movedSecond : Moved settings session middle last later second) :
    Moved settings session start last (earlier ++ later) (first ++ second) :=
  ⟨movedFirst.latest.trans movedSecond.latest, movedFirst.rising.append movedSecond.rising⟩

/-- A flush of a session moves its cursor to the time of the flush, if that is later and the flush
succeeds. -/
theorem moved_flush (settings : Settings) {cursor : Timestamp} (sound : state.Sound)
    (found : state.registry.cursor? session = some cursor) :
    ∃ reached, (state.flush settings session).2.registry.cursor? session = some reached ∧
      Moved settings session cursor reached (state.told? settings session).toList [state] := by
  rcases Option.map_eq_some_iff.mp found with ⟨entry, connected, rfl⟩
  rcases flush_of_connected settings sound.quiet connected with
    ⟨delivery, transport, journal, delivered, flush_eq⟩
  suffices reaches : ∃ reached,
      (state.flush settings session).2.registry.cursor? session = some reached ∧
        reached.Latest (entry.cursor :: (state.told? settings session).toList) by
    rcases reaches with ⟨reached, reached_eq, latest⟩
    exact ⟨reached, reached_eq, latest,
      .flush sound found (Nat.le_refl _) latest (.none (Nat.le_refl _))⟩
  simp only [told?, flush_eq, Registry.cursor?_adjust, if_true, connected, Option.map_some,
    Session.cursor_afterFlush, Delivery.result]
  cases refusal : delivery.refusal with
  | some error => exact ⟨entry.cursor, rfl, Timestamp.latest_singleton _⟩
  | none => exact ⟨_, rfl, Timestamp.latest_max _ _⟩

/-- In a dispatch round a session's cursor is moved by the flushes of the session alone. -/
theorem moved_round (settings : Settings) {cursor : Timestamp} (sound : state.Sound)
    (found : state.registry.cursor? session = some cursor) (order : List SessionId) :
    let flushes := flushesOf settings session state order
    ∃ reached, (order.foldl (visited settings) state).registry.cursor? session = some reached ∧
      Moved settings session cursor reached
        (flushes.filterMap (told? settings session)) flushes := by
  induction order generalizing state cursor with
  | nil => exact ⟨cursor, found, .none cursor⟩
  | cons first rest ih =>
      have soundNext := sound.visited settings first
      simp only [flushesOf, List.foldl_cons]
      split
      · next flushed =>
          rcases flushed with ⟨rfl, news⟩
          rcases moved_flush settings sound found with ⟨middle, middle_eq, moved⟩
          rcases visited_of_news news with ⟨journal, visited_eq⟩
          have foundNext : (state.visited settings first).registry.cursor? first = some middle := by
            rw [visited_eq]
            exact middle_eq
          rcases ih soundNext foundNext with ⟨reached, reached_eq, movedRest⟩
          refine ⟨reached, reached_eq, ?_⟩
          have both := moved.append movedRest
          cases told : state.told? settings first <;> simpa [told] using both
      · next passed =>
          apply ih soundNext
          by_cases own : session = first
          · subst own
            have idle : state.hasNews settings session = false := by simpa using passed
            rw [visited_of_idle idle, found]
          · rw [cursor?_visited_of_ne sound.quiet own, found]

end Moves

end State

namespace Service

/-- The states in which a step flushes a session. -/
def flushes (service : Service) (session : SessionId) : Step → List State
  | .flush other => if other = session then [service.state] else []
  | .flushAll order => State.flushesOf service.settings session service.state order
  | _ => []

/-- The times to which a step moves the cursor of a session, as far as they are later. -/
def moves (service : Service) (session : SessionId) : Step → List Timestamp
  | .act (.moveCursor other cursor) => if other = session then [cursor] else []
  | step => (service.flushes session step).filterMap (State.told? service.settings session)

/-- A step attaches a session, which was not connected, with a cursor. -/
def Attaches (service : Service) (session : SessionId) (step : Step) (starting : Timestamp) :
    Prop :=
  service.state.registry.isConnected session = false ∧
    ((∃ now, step = .act (.attach session now starting)) ∨
      step = .attachNow session ∧ starting = service.state.clock.read.1.time)

section Steps

variable {service : Service} {session : SessionId}

theorem moves_eq_nil {step : Step}
    (failed : ∀ flushed ∈ service.flushes session step,
      flushed.told? service.settings session = none)
    (unmoved : ∀ time, step ≠ .act (.moveCursor session time)) :
    service.moves session step = [] := by
  cases step with
  | act action =>
      cases action with
      | moveCursor other time =>
          have different : other ≠ session := by
            rintro rfl
            exact unmoved time rfl
          simp [moves, different]
      | _ => rfl
  | _ => exact List.filterMap_eq_nil_iff.mpr failed

/-- A step after which a session is still connected moves its cursor by its moves. -/
theorem moved_take {cursor : Timestamp} {step : Step} (sound : service.state.Sound)
    (found : service.state.registry.cursor? session = some cursor)
    (stays : (service.take step).state.registry.isConnected session = true) :
    ∃ reached, (service.take step).state.registry.cursor? session = some reached ∧
      State.Moved service.settings session cursor reached (service.moves session step)
        (service.flushes session step) := by
  have connected := Registry.isConnected_iff_cursor?.mpr ⟨cursor, found⟩
  have read_eq := State.registry_readClock sound.quiet
  cases step with
  | record id time => exact ⟨cursor, found, .none cursor⟩
  | recordNow id | watermark | laggards =>
      refine ⟨cursor, ?_, .none cursor⟩
      exact (congrArg (Registry.cursor? · session) read_eq).trans found
  | attachNow other =>
      refine ⟨cursor, ?_, .none cursor⟩
      rcases State.attach_effect service.state.readClock.2 other service.state.readClock.1
        service.state.readClock.1 with ⟨journal, attach_eq⟩
      simp only [take, attachNow, attach_eq, read_eq]
      rw [Registry.cursor?_attach_of_connected connected, found]
  | flush other =>
      by_cases own : other = session
      · subst own
        rcases State.moved_flush service.settings sound found with
          ⟨reached, reached_eq, moved⟩
        refine ⟨reached, reached_eq, ?_⟩
        cases told : service.state.told? service.settings other <;>
          simpa [moves, flushes, told] using moved
      · refine ⟨cursor, ?_, by simpa [moves, flushes, own] using .none cursor⟩
        exact (State.cursor?_flush_of_ne sound.quiet (Ne.symm own)).trans found
  | flushAll order =>
      rcases State.moved_round service.settings sound found order with
        ⟨reached, reached_eq, moved⟩
      refine ⟨reached, ?_, moved⟩
      simpa [take, State.flushAllIn_eq] using reached_eq
  | collect =>
      refine ⟨cursor, ?_, .none cursor⟩
      exact (congrArg (Registry.cursor? · session)
        (State.registry_collect service.collector.rules sound.quiet)).trans found
  | act action =>
      by_cases own : ∃ time, action = .moveCursor session time
      · rcases own with ⟨time, rfl⟩
        rcases Option.map_eq_some_iff.mp found with ⟨entry, entry_found, rfl⟩
        have latest := Timestamp.latest_max entry.cursor time
        refine ⟨max entry.cursor time, ?_, ?_⟩
        · simp [take, State.perform, Registry.moveCursor, Registry.cursor?_adjust, entry_found,
            Session.moveCursor]
        · simpa [moves, flushes] using
            State.Moved.mk latest (.none (latest.le entry.cursor List.mem_cons_self))
      · have unmoved : ∀ time, action ≠ .moveCursor session time := not_exists.mp own
        refine ⟨cursor, State.cursor?_perform found stays unmoved, ?_⟩
        have no_move : service.moves session (.act action) = [] := by
          cases action with
          | moveCursor other time =>
              have different : other ≠ session := by
                rintro rfl
                exact unmoved time rfl
              simp [moves, different]
          | _ => rfl
        rw [no_move]
        exact .none cursor

theorem moved_run {cursor : Timestamp} {steps : List Step} (sound : service.state.Sound)
    (found : service.state.registry.cursor? session = some cursor)
    (stays : service.StaysConnected session steps) :
    ∃ reached, (service.run steps).state.registry.cursor? session = some reached ∧
      State.Moved service.settings session cursor reached
        (along (fun service => service.moves session) service steps)
        (along (fun service => service.flushes session) service steps) := by
  induction steps generalizing service cursor with
  | nil => exact ⟨cursor, found, .none cursor⟩
  | cons step rest ih =>
      rcases moved_take sound found stays.2.first with ⟨middle, middle_eq, moved⟩
      rcases ih (sound_take sound step) middle_eq stays.2 with ⟨reached, reached_eq, movedRest⟩
      rw [settings_take] at movedRest
      exact ⟨reached, reached_eq, moved.append movedRest⟩

theorem cursor_le_of_stays {steps : List Step} (sound : service.state.Sound)
    (stays : service.StaysConnected session steps) :
    ∃ before after, service.state.registry.cursor? session = some before ∧
      (service.run steps).state.registry.cursor? session = some after ∧ before ≤ after := by
  rcases Registry.isConnected_iff_cursor?.mp stays.first with ⟨before, before_eq⟩
  rcases moved_run sound before_eq stays with ⟨after, after_eq, moved⟩
  exact ⟨before, after, before_eq, after_eq, moved.latest.le before List.mem_cons_self⟩

/-- A step with no successful flush of a session leaves the session's cursor alone, unless it is one
of moving that cursor. -/
theorem cursor?_take_of_failed {step : Step} (sound : service.state.Sound)
    (stays : service.StaysConnected session [step])
    (failed : ∀ flushed ∈ service.flushes session step,
      flushed.told? service.settings session = none)
    (unmoved : ∀ time, step ≠ .act (.moveCursor session time)) :
    (service.take step).state.registry.cursor? session =
      service.state.registry.cursor? session := by
  rcases Registry.isConnected_iff_cursor?.mp stays.first with ⟨before, before_eq⟩
  rcases moved_take sound before_eq stays.last with ⟨after, after_eq, moved⟩
  have same : after = before := by
    simpa [moves_eq_nil failed unmoved] using moved.latest.mem
  rw [after_eq, before_eq, same]

theorem attaches_of_connects {step : Step} (sound : service.state.Sound)
    (absent : service.state.registry.isConnected session = false)
    (connects : (service.take step).state.registry.isConnected session = true) :
    ∃ starting, service.Attaches session step starting ∧
      (service.take step).state.registry.cursor? session = some starting := by
  have read_eq := State.registry_readClock sound.quiet
  -- A step that keeps the names of the connected sessions would not connect this one.
  have names_change : (service.take step).state.registry.ids ≠ service.state.registry.ids := by
    intro same
    have known : service.state.registry.isConnected session = true := by
      rw [Registry.isConnected_iff_mem_ids] at connects ⊢
      rwa [same] at connects
    rw [absent] at known
    cases known
  cases step with
  | record id time => exact absurd rfl names_change
  | recordNow id | watermark | laggards => exact absurd (congrArg Registry.ids read_eq) names_change
  | attachNow other =>
      have absentRead : service.state.readClock.2.registry.isConnected session = false := by
        rw [read_eq, absent]
      rcases State.attach_connects absentRead connects with ⟨rfl, found⟩
      refine ⟨service.state.clock.read.1.time, ⟨absent, Or.inr ⟨rfl, rfl⟩⟩, ?_⟩
      rcases State.readClock_of_quiet sound.quiet with ⟨journal, clock_eq⟩
      have time_eq : service.state.readClock.1 = service.state.clock.read.1.time := by
        rw [clock_eq]
      exact found.trans (congrArg some time_eq)
  | flush other => exact absurd (State.ids_flush sound.quiet) names_change
  | flushAll order =>
      refine absurd ?_ names_change
      simpa [take, State.flushAllIn_eq] using State.ids_foldl_visited sound.quiet order
  | collect =>
      exact absurd (congrArg Registry.ids
        (State.registry_collect service.collector.rules sound.quiet)) names_change
  | act action =>
      rcases State.perform_connects absent connects with ⟨now, starting, rfl, found⟩
      exact ⟨starting, ⟨absent, Or.inl ⟨now, rfl⟩⟩, found⟩

/-- A session that is connected at the end of a run has been so from the start, or was attached in
the run and has been connected since. -/
theorem stays_or_attaches {steps : List Step} (sound : service.state.Sound)
    (connected : (service.run steps).state.registry.isConnected session = true) :
    service.StaysConnected session steps ∨
      ∃ earlier attaching later starting, steps = earlier ++ attaching :: later ∧
        (service.run earlier).Attaches session attaching starting ∧
        ((service.run earlier).take attaching).StaysConnected session later ∧
        ((service.run earlier).take attaching).state.registry.cursor? session = some starting := by
  induction steps generalizing service with
  | nil => exact Or.inl connected
  | cons step rest ih =>
      rcases ih (sound_take sound step) connected with
        stays | ⟨earlier, attaching, later, starting, rfl, attaches⟩
      · cases known : service.state.registry.isConnected session with
        | true => exact Or.inl ⟨known, stays⟩
        | false =>
            rcases attaches_of_connects sound known stays.first with ⟨starting, attaches, found⟩
            exact Or.inr ⟨[], step, rest, starting, rfl, attaches, stays, found⟩
      · exact Or.inr ⟨step :: earlier, attaching, later, starting, rfl, attaches⟩

end Steps

/-- What a session's cursor tells about the steps since the session was attached, with the cursor
`starting`, and during which it stayed connected. -/
structure CursorHistory (attached : Service) (session : SessionId) (starting : Timestamp)
    (later : List Step) : Prop where
  /-- The cursor is the latest of the starting one and the times to which it was moved. -/
  latest : ∃ cursor, (attached.run later).state.registry.cursor? session = some cursor ∧
    cursor.Latest (starting :: along (fun service => service.moves session) attached later)
  /-- It never goes back. -/
  rises : ∀ first second, later = first ++ second →
    ∃ before after, (attached.run first).state.registry.cursor? session = some before ∧
      (attached.run later).state.registry.cursor? session = some after ∧ before ≤ after
  /-- Nothing moves it but a successful flush of the session and others that move it on purpose. -/
  kept : ∀ first step second, later = first ++ step :: second →
    (∀ flushed ∈ (attached.run first).flushes session step,
      flushed.told? attached.settings session = none) →
    (∀ time, step ≠ .act (.moveCursor session time)) →
    (attached.run (first ++ [step])).state.registry.cursor? session =
      (attached.run first).state.registry.cursor? session
  /-- A dispatch round that finds nothing pending for the session does not flush it. -/
  idle : ∀ first order second, later = first ++ .flushAll order :: second →
    (attached.run first).hasNews session = false →
    (attached.run first).flushes session (.flushAll order) = []
  /-- After a flush that told everything up to some time, the packets of every later flush carry
  nothing but records that are later than that time less the skew tolerance. -/
  told_once : (along (fun service => service.flushes session) attached later).Pairwise
    fun first second => ∃ cursor, second.registry.cursor? session = some cursor ∧
      let packets := State.packetsFor attached.settings second session cursor
        second.clock.read.1.time
      second.gained (second.flush attached.settings session).2 session <+:
          packets.map Packet.toBytes ∧
        ∃ window : List Record, packets.flatMap (·.ids) = window.map (·.id) ∧
          ∀ record ∈ window, second.ledger.holds record.id record.deletedAt = true ∧
            ∀ told, first.told? attached.settings session = some told →
              told.toNat < record.deletedAt.toNat + attached.settings.skewTolerance

theorem history_of_stays {attached : Service} {session : SessionId} {starting : Timestamp}
    {later : List Step} (sound : attached.state.Sound)
    (found : attached.state.registry.cursor? session = some starting)
    (stays : attached.StaysConnected session later) :
    CursorHistory attached session starting later := by
  rcases moved_run sound found stays with ⟨cursor, cursor_eq, moved⟩
  refine ⟨⟨cursor, cursor_eq, moved.latest⟩, ?_, ?_, ?_, ?_⟩
  · rintro first second rfl
    rw [run_append]
    exact cursor_le_of_stays (sound_run sound first) stays.drop
  · rintro first step second rfl failed unmoved
    have staysOnce : (attached.run first).StaysConnected session [step] :=
      ⟨stays.drop.1, stays.drop.2.first⟩
    rw [run_append]
    apply cursor?_take_of_failed (sound_run sound first) staysOnce _ unmoved
    simpa using failed
  · rintro first order second rfl idle
    exact State.flushesOf_of_idle (sound_run sound first).quiet idle order
  · refine moved.rising.pairwise.imp ?_
    rintro first second ⟨soundSecond, cursor, cursor_eq, told_le⟩
    rcases State.flush_sends_window attached.settings soundSecond.quiet soundSecond.ordered
      cursor_eq with ⟨gained, window, ids_eq, in_window⟩
    refine ⟨cursor, cursor_eq, gained, window, ids_eq, ?_⟩
    intro record record_mem
    rcases in_window record record_mem with ⟨held, later⟩
    refine ⟨held, ?_⟩
    intro told told_eq
    have not_before := told_le told told_eq
    rw [Timestamp.le_iff] at not_before
    omega

/-- Whenever a session is connected, there is the step of the run that attached it, and its cursor
tells what has happened since. -/
theorem cursor_is_history (settings : Settings) (clock : Clock) (steps : List Step)
    (session : SessionId)
    (connected : ((start settings clock).run steps).state.registry.isConnected session = true) :
    ∃ earlier attaching later starting, steps = earlier ++ attaching :: later ∧
      ((start settings clock).run earlier).Attaches session attaching starting ∧
      (((start settings clock).run earlier).take attaching).StaysConnected session later ∧
      CursorHistory (((start settings clock).run earlier).take attaching) session starting
        later := by
  have soundStart : (start settings clock).state.Sound := State.sound_start clock
  rcases stays_or_attaches soundStart connected with
    stays | ⟨earlier, attaching, later, starting, steps_eq, attaches, stays, found⟩
  · -- At the start no session is connected.
    cases stays.first
  · have sound := sound_take (sound_run soundStart earlier) attaching
    exact ⟨earlier, attaching, later, starting, steps_eq, attaches, stays,
      history_of_stays sound found stays⟩

/-- The viewer comes back after a first stay, is refused once, is told everything up to 120, is told
more when the clock has been set back, and keeps its cursor when others mean to lower it. -/
theorem cursor_is_history_of_viewer :
    let viewer : SessionId := ⟨"viewer"⟩
    let other : SessionId := ⟨"other"⟩
    let steps : List Step :=
      [.attachNow viewer, .record (.ofNat 1) ⟨95⟩, .act (.detach viewer), .attachNow other,
        .act (.attach viewer ⟨100⟩ ⟨90⟩), .flush viewer, .act (.register viewer 4 "viewer"),
        .act (.setClock ⟨120⟩), .flush viewer, .act (.setClock ⟨60⟩), .record (.ofNat 2) ⟨115⟩,
        .act (.moveCursor viewer ⟨80⟩), .flushAll [other, viewer], .act (.detach other), .collect]
    let clock := Clock.manual .direct ⟨100⟩
    ((start .pairs clock).run steps).state.registry.isConnected viewer = true ∧
      ((start .pairs clock).run steps).state.registry.cursor? viewer = some ⟨120⟩ ∧
      ∃ earlier attaching later starting, steps = earlier ++ attaching :: later ∧
        ((start .pairs clock).run earlier).Attaches viewer attaching starting ∧
        (((start .pairs clock).run earlier).take attaching).StaysConnected viewer later ∧
        CursorHistory (((start .pairs clock).run earlier).take attaching) viewer starting later := by
  intro viewer other steps clock
  have connected : ((start .pairs clock).run steps).state.registry.isConnected viewer = true := by
    decide +kernel
  have cursor_eq :
      ((start .pairs clock).run steps).state.registry.cursor? viewer = some ⟨120⟩ := by
    decide +kernel
  exact ⟨connected, cursor_eq, cursor_is_history .pairs clock steps viewer connected⟩

end Service

end Tombstone
