import Tombstone.Proofs.PacedClock
import Tombstone.Proofs.WindowDelivery

/-!
# No deletion is lost

Over a monotonic clock, what is recorded while a session is connected waits in the session's window,
through failed flushes, collections, and whatever is done with other sessions and with connections,
until a packet that tells about it comes to stand in the session's queue. The reason is that its
time is no earlier than the session's cursor, which moves only when all of the window was taken, and
that no collection goes beyond a cursor.
-/

namespace Tombstone

namespace Service

/-- The packets that the flushes of a step put into the queue of a session. -/
def acceptedIn (service : Service) (session : SessionId) (step : Step) : List Bytes :=
  match step with
  | .flush _ | .flushAll _ => service.state.gained (service.take step).state session
  | _ => []

/-- A flush of one session puts nothing into the queue of another. -/
theorem acceptedIn_flush_of_ne {service : Service} (sound : service.state.Sound)
    {session flushed : SessionId} (different : session ≠ flushed) :
    service.acceptedIn session (.flush flushed) = [] := by
  have same : (service.take (.flush flushed)).state.transport.queue session =
      service.state.transport.queue session :=
    State.queue_flush_of_ne sound.quiet sound.paired different
  rw [acceptedIn, State.gained, same, List.drop_length]

/-- The packets that the flushes of a run put into the queue of a session. -/
def accepted (service : Service) (session : SessionId) : List Step → List Bytes
  | [] => []
  | step :: rest => service.acceptedIn session step ++ (service.take step).accepted session rest

end Service

namespace State

/-- A record is held that is not earlier than the cursor of a session. -/
structure Pending (state : State) (session : SessionId) (record : Record) : Prop where
  held : record ∈ state.ledger.records
  cursor_le : ∀ cursor, state.registry.cursor? session = some cursor → cursor ≤ record.deletedAt

section Preservation

variable {state after : State} {session : SessionId} {record : Record}

theorem Pending.of_kept (pending : state.Pending session record)
    (records_kept : record ∈ state.ledger.records → record ∈ after.ledger.records)
    (cursor_kept : ∀ cursor, after.registry.cursor? session = some cursor →
      state.registry.cursor? session = some cursor) : after.Pending session record :=
  ⟨records_kept pending.held,
    fun cursor found => pending.cursor_le cursor (cursor_kept cursor found)⟩

theorem Pending.of_undisturbed (pending : state.Pending session record)
    (undisturbed : Undisturbed state after) : after.Pending session record :=
  pending.of_kept (undisturbed.records_kept record) (undisturbed.cursors_kept session)

theorem Pending.readClock (pending : state.Pending session record) (quiet : state.Quiet) :
    state.readClock.2.Pending session record := by
  rcases readClock_of_quiet quiet with ⟨journal, read_eq⟩
  rw [read_eq]
  exact ⟨pending.held, pending.cursor_le⟩

theorem Pending.attach (pending : state.Pending session record)
    (connected : state.registry.isConnected session = true) (other : SessionId)
    (now cursor : Timestamp) : (state.attach other now cursor).Pending session record := by
  rcases attach_effect state other now cursor with ⟨journal, attach_eq⟩
  rw [attach_eq]
  refine pending.of_kept (fun held => held) fun held found => ?_
  rwa [Registry.cursor?_attach_of_connected connected] at found

/-- What is pending for a session is in its window. -/
theorem Pending.mem_idsAfter {settings : Settings} {cursor : Timestamp}
    (pending : state.Pending session record) (ordered : state.ledger.Ordered)
    (positive : Timestamp.zero < record.deletedAt)
    (found : state.registry.cursor? session = some cursor) :
    record.id ∈ state.ledger.idsAfter (windowStart settings cursor) :=
  ordered.mem_idsAfter pending.held
    (windowStart_lt_of_le positive (pending.cursor_le cursor found))

/-- A flush tells a session what is pending for it, or leaves it pending. -/
theorem Pending.flush (pending : state.Pending session record) (sound : state.Sound)
    (positive : Timestamp.zero < record.deletedAt) (settings : Settings) (flushed : SessionId) :
    (∃ bytes ∈ state.gained (state.flush settings flushed).2 session, Tells bytes record.id) ∨
      (state.flush settings flushed).2.Pending session record := by
  have records_kept : record ∈ state.ledger.records →
      record ∈ (state.flush settings flushed).2.ledger.records := by
    rw [ledger_flush sound.quiet]
    exact id
  cases result : (state.flush settings flushed).1 with
  | error error =>
      right
      refine pending.of_kept records_kept fun cursor found => ?_
      rwa [cursor?_flush_of_error sound.quiet result] at found
  | ok summary =>
      by_cases own : session = flushed
      · left
        subst own
        cases connected : state.registry.find? session with
        | none =>
            rw [flush_of_unknown connected] at result
            cases result
        | some entry =>
            have found : state.registry.cursor? session = some entry.cursor := by
              rw [Registry.cursor?, connected, Option.map_some]
            exact flush_tells sound.quiet connected result
              (pending.mem_idsAfter sound.ordered positive found)
      · right
        refine pending.of_kept records_kept fun cursor found => ?_
        rwa [cursor?_flush_of_ne sound.quiet own] at found

theorem Pending.flushAllIn (pending : state.Pending session record) (sound : state.Sound)
    (positive : Timestamp.zero < record.deletedAt) (settings : Settings) (order : List SessionId) :
    (∃ bytes ∈ state.gained (state.flushAllIn settings order).2 session, Tells bytes record.id) ∨
      (state.flushAllIn settings order).2.Pending session record := by
  let reached (middle : State) : Prop :=
    state.transport.queue session <+: middle.transport.queue session ∧
      ((∃ bytes ∈ state.gained middle session, Tells bytes record.id) ∨
        middle.Pending session record)
  refine (flushAllIn_induction (motive := fun middle => middle.Sound ∧ reached middle)
    ⟨sound, List.prefix_rfl, Or.inr pending⟩ ?_ ?_ order).2.2
  · intro middle flushed ⟨soundMiddle, grown, progress⟩
    have further := queue_prefix_flush settings soundMiddle.quiet flushed session
    refine ⟨soundMiddle.flush settings flushed, grown.trans further, ?_⟩
    rw [gained_append grown further]
    rcases progress with ⟨bytes, bytes_mem, tells⟩ | pendingMiddle
    · exact Or.inl ⟨bytes, List.mem_append_left _ bytes_mem, tells⟩
    · rcases pendingMiddle.flush soundMiddle positive settings flushed with
        ⟨bytes, bytes_mem, tells⟩ | pendingAfter
      · exact Or.inl ⟨bytes, List.mem_append_right _ bytes_mem, tells⟩
      · exact Or.inr pendingAfter
  · intro middle journal ⟨soundMiddle, grown, progress⟩
    refine ⟨{ soundMiddle with }, grown, ?_⟩
    exact progress.imp (fun told => told) fun pendingMiddle =>
      ⟨pendingMiddle.held, pendingMiddle.cursor_le⟩

/-- A collection leaves what is pending for a connected session. -/
theorem Pending.collect (pending : state.Pending session record) (sound : state.Sound)
    (connected : state.registry.isConnected session = true) (rules : CollectionRules) :
    (state.collect rules).2.Pending session record := by
  rcases collect_effect rules sound.quiet with ⟨ledger, clock, journal, collect_eq, ledger_cases, _⟩
  rw [collect_eq]
  refine pending.of_kept (fun held => ?_) fun _ found => found
  rcases ledger_cases with rfl | rfl
  · exact held
  · rcases Registry.isConnected_iff_cursor?.mp connected with ⟨cursor, found⟩
    refine sound.ordered.mem_records_prune.mpr ⟨held, ?_⟩
    exact Nat.le_trans (Watermark.value_le_cursor (Registry.mem_cursors_of_cursor? found))
      (pending.cursor_le cursor found)

end Preservation

end State

namespace Service

/-- Over a monotonic clock, what is recorded now is pending for every session, at a time after the
first instant. -/
theorem pending_recordNow {service : Service} (sound : service.state.Sound)
    (paced : service.state.Paced) (session : SessionId) (id : EntityId) :
    Timestamp.zero < (service.recordNow id).1 ∧
      (service.recordNow id).2.state.Pending session
        { deletedAt := (service.recordNow id).1, id } := by
  rcases State.readClock_of_quiet sound.quiet with ⟨journal, read_eq⟩
  simp only [recordNow, read_eq]
  exact ⟨paced.zero_lt_time, Ledger.mem_records_record.mpr (Or.inl rfl),
    fun cursor found => paced.cursor_le_time found⟩

/-- A step of an orderly run tells a session what is pending for it, or leaves it pending. -/
theorem pending_take {service : Service} {session : SessionId} {record : Record}
    (pending : service.state.Pending session record) (sound : service.state.Sound)
    (positive : Timestamp.zero < record.deletedAt)
    (connected : service.state.registry.isConnected session = true) {step : Step}
    (orderly : step.isOrderly = true) :
    (∃ bytes ∈ service.acceptedIn session step, Tells bytes record.id) ∨
      (service.take step).state.Pending session record := by
  cases step with
  | record id time => exact Or.inr (pending.of_undisturbed (.record service.state id time))
  | recordNow id =>
      exact Or.inr ((pending.readClock sound.quiet).of_undisturbed (.record _ id _))
  | attachNow other =>
      have still : service.state.readClock.2.registry.isConnected session = true := by
        rw [State.registry_readClock sound.quiet]
        exact connected
      exact Or.inr ((pending.readClock sound.quiet).attach still other _ _)
  | flush flushed => exact pending.flush sound positive service.settings flushed
  | flushAll order => exact pending.flushAllIn sound positive service.settings order
  | collect => exact Or.inr (pending.collect sound connected service.collector.rules)
  | watermark | laggards => exact Or.inr (pending.readClock sound.quiet)
  | act action =>
      exact Or.inr (pending.of_undisturbed (service.state.undisturbed_perform orderly))

/-- What is pending for a session that stays connected is told in the run, or still pending at its
end. -/
theorem pending_run {service : Service} {session : SessionId} {record : Record} {steps : List Step}
    (pending : service.state.Pending session record) (sound : service.state.Sound)
    (positive : Timestamp.zero < record.deletedAt) (stays : service.StaysConnected session steps)
    (orderly : ∀ step ∈ steps, step.isOrderly = true) :
    (∃ bytes ∈ service.accepted session steps, Tells bytes record.id) ∨
      (service.run steps).state.Pending session record := by
  induction steps generalizing service with
  | nil => exact Or.inr pending
  | cons step rest ih =>
      rcases stays with ⟨connected, staysRest⟩
      rcases List.forall_mem_cons.mp orderly with ⟨orderlyFirst, orderlyRest⟩
      rcases pending_take pending sound positive connected orderlyFirst with
        ⟨bytes, bytes_mem, tells⟩ | pendingNext
      · exact Or.inl ⟨bytes, List.mem_append_left _ bytes_mem, tells⟩
      · rcases ih pendingNext (sound_take sound step) staysRest orderlyRest with
          ⟨bytes, bytes_mem, tells⟩ | pendingAfter
        · exact Or.inl ⟨bytes, List.mem_append_right _ bytes_mem, tells⟩
        · exact Or.inr pendingAfter

/-- Over a monotonic clock, whatever is recorded at the current time in an orderly run is told to
each session that is connected then and stays so, or it is still held, the packets of the session's
next flush have it, and unless one is refused, that flush tells the session about it. -/
theorem recorded_told_or_pending (settings : Settings) (clock : Clock) (earlier later : List Step)
    (session : SessionId) (id : EntityId) (monotonic : clock.mode = .monotonic)
    (positive : ∀ reading, Timestamp.zero < clock.source reading)
    (orderly : ∀ step ∈ earlier ++ later, step.isOrderly = true)
    (stays : (((start settings clock).run earlier).recordNow id).2.StaysConnected session later) :
    let time := (((start settings clock).run earlier).recordNow id).1
    let recorded := (((start settings clock).run earlier).recordNow id).2
    let state := (recorded.run later).state
    (∃ bytes ∈ recorded.accepted session later, Tells bytes id) ∨
      ∃ cursor, state.registry.cursor? session = some cursor ∧
        state.ledger.holds id time = true ∧
        cursor.toNat - settings.skewTolerance < time.toNat ∧
        (∃ packet ∈ State.packetsFor settings state session cursor state.clock.read.1.time,
          id ∈ packet.ids) ∧
        ∀ summary, (state.flush settings session).1 = .ok summary →
          ∃ bytes ∈ state.gained (state.flush settings session).2 session, Tells bytes id := by
  intro time recorded state
  rcases List.forall_mem_append.mp orderly with ⟨orderlyEarlier, orderlyLater⟩
  have sound : ((start settings clock).run earlier).state.Sound :=
    sound_run (State.sound_start clock) earlier
  have paced : ((start settings clock).run earlier).state.Paced :=
    paced_run (State.sound_start clock) (State.paced_start monotonic positive) orderlyEarlier
  rcases pending_recordNow sound paced session id with ⟨positiveTime, pending⟩
  have soundRecorded : recorded.state.Sound := sound_take sound (.recordNow id)
  rcases pending_run pending soundRecorded positiveTime stays orderlyLater with told | pendingAfter
  · exact Or.inl told
  · right
    rcases Registry.isConnected_iff_cursor?.mp stays.last with ⟨cursor, found⟩
    have window : State.windowStart settings cursor < time :=
      State.windowStart_lt_of_le positiveTime (pendingAfter.cursor_le cursor found)
    have soundAfter : state.Sound := sound_run soundRecorded later
    have inWindow : id ∈ state.ledger.idsAfter (State.windowStart settings cursor) :=
      pendingAfter.mem_idsAfter soundAfter.ordered positiveTime found
    refine ⟨cursor, found, Ledger.holds_iff_mem_records.mpr pendingAfter.held,
      State.windowStart_lt_iff.mp window, State.exists_mem_packetsFor inWindow, ?_⟩
    intro summary succeeded
    rcases Option.map_eq_some_iff.mp found with ⟨entry, connected, rfl⟩
    exact State.flush_tells soundAfter.quiet connected succeeded inWindow

/-- The clock's source runs backwards before the recording, the viewer's flush finds no connection,
and between two collections another session comes, is flushed, and goes. -/
theorem recorded_pending_after_refusal :
    let viewer : SessionId := ⟨"viewer"⟩
    let other : SessionId := ⟨"other"⟩
    let clock : Clock :=
      { mode := .monotonic, source := fun reading => if reading = 2 then ⟨40⟩ else ⟨100⟩ }
    let earlier : List Step :=
      [.attachNow viewer, .recordNow (.ofNat 7), .act (.register other 1 "other")]
    let later : List Step :=
      [.flush viewer, .collect, .attachNow other, .act (.register viewer 1 "viewer"), .flush other,
        .act (.detach other), .collect]
    let id := EntityId.ofNat 4
    clock.mode = .monotonic ∧ (∀ reading, Timestamp.zero < clock.source reading) ∧
      (∀ step ∈ earlier ++ later, step.isOrderly = true) ∧
      (((start .pairs clock).run earlier).recordNow id).2.StaysConnected viewer later ∧
      let time := (((start .pairs clock).run earlier).recordNow id).1
      let recorded := (((start .pairs clock).run earlier).recordNow id).2
      let state := (recorded.run later).state
      (∃ bytes ∈ recorded.accepted viewer later, Tells bytes id) ∨
        ∃ cursor, state.registry.cursor? viewer = some cursor ∧
          state.ledger.holds id time = true ∧
          cursor.toNat - Settings.pairs.skewTolerance < time.toNat ∧
          (∃ packet ∈ State.packetsFor .pairs state viewer cursor state.clock.read.1.time,
            id ∈ packet.ids) ∧
          ∀ summary, (state.flush .pairs viewer).1 = .ok summary →
            ∃ bytes ∈ state.gained (state.flush .pairs viewer).2 viewer, Tells bytes id := by
  intro viewer other clock earlier later id
  have positive : ∀ reading, Timestamp.zero < clock.source reading := by
    intro reading
    simp only [clock]
    split <;> decide
  have orderly : ∀ step ∈ earlier ++ later, step.isOrderly = true := by decide
  have stays : (((start .pairs clock).run earlier).recordNow id).2.StaysConnected viewer later := by
    decide +kernel
  exact ⟨rfl, positive, orderly, stays,
    recorded_told_or_pending .pairs clock earlier later viewer id rfl positive orderly stays⟩

end Service

end Tombstone
