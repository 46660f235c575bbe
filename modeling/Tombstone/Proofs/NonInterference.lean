import Tombstone.Proofs.Mirrors

/-!
# Sessions do not interfere with each other

Take a run over a clock that stands still unless it is set, in which no tombstones are collected and
every session has receiving ends of its own. If every step that is addressed to some session is left
out of the run, no other session can tell: what it has, and what its own steps answer, is the same
at every point. The two runs have the same ledger and the same time throughout, and what is shared
beyond these, a session's steps do not look at.
-/

namespace Tombstone

/-! ## Steps -/

namespace Step

/-- The session to which a step is addressed, given the owners of the receiving ends. -/
def addressee (owner : InboxName → SessionId) : Step → Option SessionId
  | .attachNow session | .flush session => some session
  | .act action => action.addressee owner
  | .record _ _ | .recordNow _ | .flushAll _ | .collect | .watermark | .laggards => none

/-- Sessions are connected to their own receiving ends only. -/
def KeepsTo (owner : InboxName → SessionId) : Step → Prop
  | .act action => action.KeepsTo owner
  | _ => True

/-- A step, whatever the order is in which it visits sessions. -/
def unordered : Step → Step
  | .flushAll _ => .flushAll []
  | step => step

theorem unordered_cases {left right : Step} (same : left.unordered = right.unordered) :
    left = right ∨ ∃ orderLeft orderRight, left = .flushAll orderLeft ∧
      right = .flushAll orderRight := by
  cases left <;> cases right <;> simp_all [unordered]

theorem addressee_eq_of_unordered {owner : InboxName → SessionId} {left right : Step}
    (same : left.unordered = right.unordered) : left.addressee owner = right.addressee owner := by
  rcases unordered_cases same with rfl | ⟨_, _, rfl, rfl⟩ <;> rfl

theorem eq_of_addressed {owner : InboxName → SessionId} {session : SessionId} {left right : Step}
    (same : left.unordered = right.unordered) (addressed : left.addressee owner = some session) :
    left = right := by
  rcases unordered_cases same with same | ⟨_, _, rfl, _⟩
  · exact same
  · cases addressed

end Step

/-- What a step answers to the session to which it is addressed. -/
inductive Reply where
  /-- Whether something was there, or was not there yet. -/
  | flag (answer : Bool)
  | numbers (taken : List UInt16)
  | flushed (result : Except FlushError FlushSummary)
  | handed (result : Except SendError Unit)
  | received (next : Received)
  | drained (packets : List Bytes)
  | nothing

namespace Service

def reply (service : Service) : Step → Reply
  | .attachNow session | .act (.attach session _ _) =>
      .flag (!service.state.registry.isConnected session)
  | .act (.detach session) | .act (.moveCursor session _) =>
      .flag (service.state.registry.isConnected session)
  | .act (.takeNumbers session count) =>
      .numbers
        (if service.state.registry.isConnected session then
          (List.range count).map (service.state.registry.numbers session)
        else [])
  | .act (.unregister session) => .flag (service.state.transport.isRegistered session)
  | .act (.dropInbox name) => .flag (service.state.transport.inboxes.contains name)
  | .flush session => .flushed (service.flush session).1
  | .act (.send session bytes) => .handed (service.state.send session bytes).1
  | .act (.receive name) => .received (service.state.transport.peek name)
  | .act (.drain name) => .drained (service.state.transport.waiting name)
  | _ => .nothing

/-- The answers of the steps that are addressed to a session. -/
def replies (owner : InboxName → SessionId) (session : SessionId) (service : Service)
    (step : Step) : List Reply :=
  if step.addressee owner = some session then [service.reply step] else []

/-- If a step is a dispatch round, it visits every connected session once. -/
def Visits (service : Service) : Step → Prop
  | .flushAll order => order.Perm service.state.registry.ids
  | _ => True

/-- Two services that differ in nothing that a session can tell. -/
structure Alongside (owner : InboxName → SessionId) (session : SessionId) (left right : Service) :
    Prop where
  settings_eq : left.settings = right.settings
  ledger_eq : left.state.ledger = right.state.ledger
  mirrors : left.state.Mirrors owner session right.state
  apart : ∃ time, left.state.Apart owner time ∧ right.state.Apart owner time

section Steps

variable {owner : InboxName → SessionId} {session other : SessionId} {time : Timestamp}
  {service left right : Service} {step : Step}

theorem Alongside.symm (alongside : Alongside owner session left right) :
    Alongside owner session right left := by
  rcases alongside.apart with ⟨time, apartLeft, apartRight⟩
  exact ⟨alongside.settings_eq.symm, alongside.ledger_eq.symm, alongside.mirrors.symm, time,
    apartRight, apartLeft⟩

theorem state_take_attachNow (apart : service.state.Apart owner time) (key : SessionId) :
    (service.take (.attachNow key)).state =
      service.state.readClock.2.perform (.attach key time time) := by
  simp only [take, attachNow, State.perform, apart.time_readClock]

/-- A step that is addressed to a session changes nothing but what sessions have. -/
theorem apart_take (apart : service.state.Apart owner time) (keeps : step.KeepsTo owner)
    (addressed : step.addressee owner = some session) :
    (service.take step).state.Apart owner time ∧
      (service.take step).state.ledger = service.state.ledger := by
  cases step with
  | record | recordNow | flushAll | collect | watermark | laggards => cases addressed
  | attachNow key =>
      have attach_keeps : (Action.attach key time time).KeepsTo owner := trivial
      rw [state_take_attachNow apart]
      rcases apart.readClock.perform attach_keeps addressed with ⟨apartAttached, ledger_eq⟩
      exact ⟨apartAttached, ledger_eq.trans (State.ledger_readClock apart.sound.quiet)⟩
  | flush key => exact ⟨apart.flush service.settings key, State.ledger_flush apart.sound.quiet⟩
  | act action => exact apart.perform keeps addressed

/-- A step that is addressed to one session makes no difference for another. -/
theorem mirrors_take_of_ne (apart : service.state.Apart owner time) (keeps : step.KeepsTo owner)
    (addressed : step.addressee owner = some other) (different : session ≠ other) :
    State.Mirrors owner session (service.take step).state service.state := by
  cases step with
  | record | recordNow | flushAll | collect | watermark | laggards => cases addressed
  | attachNow key =>
      have attach_keeps : (Action.attach key time time).KeepsTo owner := trivial
      rw [state_take_attachNow apart]
      exact (State.mirrors_perform_of_ne apart.readClock attach_keeps addressed different).trans
        (State.mirrors_readClock apart.sound.quiet)
  | flush key =>
      cases addressed
      exact State.mirrors_flush_of_ne apart service.settings different
  | act action => exact State.mirrors_perform_of_ne apart keeps addressed different

/-- What a step answers to the session to which it is addressed is told by what the session has. -/
theorem Alongside.reply_eq (alongside : Alongside owner session left right)
    (addressed : step.addressee owner = some session) : left.reply step = right.reply step := by
  rcases alongside.apart with ⟨time, apartLeft, apartRight⟩
  have connected_eq := alongside.mirrors.isConnected_eq
  cases step with
  | record | recordNow | flushAll | collect | watermark | laggards => cases addressed
  | attachNow key =>
      cases addressed
      rw [reply, reply, connected_eq]
  | flush key =>
      cases addressed
      have flushed := alongside.mirrors.flush apartLeft apartRight alongside.ledger_eq left.settings
      simp only [reply, flush, ← alongside.settings_eq, flushed.1]
  | act action =>
      cases action with
      | record | prune | setClock | advanceClock => cases addressed
      | account | register | closeInbox => rfl
      | attach key | detach key | moveCursor key =>
          cases addressed
          rw [reply, reply, connected_eq]
      | takeNumbers key count =>
          cases addressed
          have numbers_eq : left.state.registry.numbers session =
              right.state.registry.numbers session := by
            funext index
            rw [Registry.numbers, Registry.numbers, alongside.mirrors.entry_eq]
          rw [reply, reply, connected_eq, numbers_eq]
      | unregister key =>
          cases addressed
          simp only [reply, Transport.isRegistered, Directory.contains,
            alongside.mirrors.transport.connection_eq]
      | send key bytes =>
          cases addressed
          rw [reply, reply, (alongside.mirrors.send apartLeft bytes).1]
      | dropInbox name | receive name | drain name =>
          have inbox_eq := alongside.mirrors.transport.inbox_eq name (Option.some.inj addressed)
          simp only [reply, Directory.contains, Transport.peek, Transport.waiting, inbox_eq]

/-- What a step does for the session to which it is addressed is told by what the session has. -/
theorem Alongside.take_own (alongside : Alongside owner session left right)
    (keeps : step.KeepsTo owner) (addressed : step.addressee owner = some session) :
    Alongside owner session (left.take step) (right.take step) := by
  rcases alongside.apart with ⟨time, apartLeft, apartRight⟩
  rcases apart_take apartLeft keeps addressed with ⟨apartTakenLeft, ledger_left⟩
  rcases apart_take apartRight keeps addressed with ⟨apartTakenRight, ledger_right⟩
  have mirrors := alongside.mirrors
  refine ⟨by simp [alongside.settings_eq], by rw [ledger_left, ledger_right, alongside.ledger_eq],
    ?_, time, apartTakenLeft, apartTakenRight⟩
  cases step with
  | record | recordNow | flushAll | collect | watermark | laggards => cases addressed
  | attachNow key =>
      have attach_keeps : (Action.attach key time time).KeepsTo owner := trivial
      have mirrorsRead := (State.mirrors_readClock apartLeft.sound.quiet).trans
        (mirrors.trans (State.mirrors_readClock apartRight.sound.quiet).symm)
      rw [state_take_attachNow apartLeft, state_take_attachNow apartRight]
      exact mirrorsRead.perform apartLeft.readClock attach_keeps addressed
  | flush key =>
      cases addressed
      simp only [take, flush, ← alongside.settings_eq]
      exact (mirrors.flush apartLeft apartRight alongside.ledger_eq left.settings).2
  | act action => exact mirrors.perform apartLeft keeps addressed

/-- A step that is addressed to another session may be left out. -/
theorem Alongside.take_other (alongside : Alongside owner session left right)
    (keeps : step.KeepsTo owner) (addressed : step.addressee owner = some other)
    (different : session ≠ other) : Alongside owner session (left.take step) right := by
  rcases alongside.apart with ⟨time, apartLeft, apartRight⟩
  rcases apart_take apartLeft keeps addressed with ⟨apartTaken, ledger_eq⟩
  exact ⟨by simp [alongside.settings_eq], ledger_eq.trans alongside.ledger_eq,
    (mirrors_take_of_ne apartLeft keeps addressed different).trans alongside.mirrors, time,
    apartTaken, apartRight⟩

theorem Alongside.take_round (alongside : Alongside owner session left right)
    {orderLeft orderRight : List SessionId} (visitsLeft : left.Visits (.flushAll orderLeft))
    (visitsRight : right.Visits (.flushAll orderRight)) :
    Alongside owner session (left.take (.flushAll orderLeft))
      (right.take (.flushAll orderRight)) := by
  rcases alongside.apart with ⟨time, apartLeft, apartRight⟩
  simp only [take, State.flushAllIn_eq, ← alongside.settings_eq]
  refine ⟨rfl, ?_, ?_, time, apartLeft.round left.settings orderLeft,
    apartRight.round left.settings orderRight⟩
  · exact (State.ledger_round apartLeft.sound orderLeft).trans
      (alongside.ledger_eq.trans (State.ledger_round apartRight.sound orderRight).symm)
  · exact alongside.mirrors.round apartLeft apartRight alongside.ledger_eq left.settings visitsLeft
      visitsRight

theorem Alongside.readClock (alongside : Alongside owner session left right) :
    left.state.readClock.1 = right.state.readClock.1 ∧
      Alongside owner session { left with state := left.state.readClock.2 }
        { right with state := right.state.readClock.2 } := by
  rcases alongside.apart with ⟨time, apartLeft, apartRight⟩
  refine ⟨apartLeft.time_readClock.trans apartRight.time_readClock.symm, alongside.settings_eq, ?_,
    ?_, time, apartLeft.readClock, apartRight.readClock⟩
  · exact (State.ledger_readClock apartLeft.sound.quiet).trans
      (alongside.ledger_eq.trans (State.ledger_readClock apartRight.sound.quiet).symm)
  · exact (State.mirrors_readClock apartLeft.sound.quiet).trans
      (alongside.mirrors.trans (State.mirrors_readClock apartRight.sound.quiet).symm)

/-- Any change to the ledger that keeps it ordered comes to the same on both sides. -/
theorem Alongside.changeLedger (alongside : Alongside owner session left right)
    {change : Ledger → Ledger}
    (ordered : ∀ ledger : Ledger, ledger.Ordered → (change ledger).Ordered) :
    Alongside owner session
      { left with state := { left.state with ledger := change left.state.ledger } }
      { right with state := { right.state with ledger := change right.state.ledger } } := by
  rcases alongside.apart with ⟨now, apartLeft, apartRight⟩
  refine ⟨alongside.settings_eq, congrArg change alongside.ledger_eq,
    ⟨alongside.mirrors.entry_eq, alongside.mirrors.transport⟩, now, ?_, ?_⟩
  · exact ⟨{ apartLeft.sound with ordered := ordered _ apartLeft.sound.ordered }, apartLeft.owned,
      apartLeft.rests⟩
  · exact ⟨{ apartRight.sound with ordered := ordered _ apartRight.sound.ordered },
      apartRight.owned, apartRight.rests⟩

theorem Alongside.record (alongside : Alongside owner session left right) (id : EntityId)
    (time : Timestamp) : Alongside owner session (left.record id time) (right.record id time) :=
  alongside.changeLedger fun _ ordered => ordered.record id time

theorem Alongside.setClock (alongside : Alongside owner session left right) (time : Timestamp) :
    Alongside owner session (left.take (.act (.setClock time)))
      (right.take (.act (.setClock time))) := by
  rcases alongside.apart with ⟨now, apartLeft, apartRight⟩
  refine ⟨alongside.settings_eq, alongside.ledger_eq,
    ⟨alongside.mirrors.entry_eq, alongside.mirrors.transport⟩, time, ?_, ?_⟩
  · exact ⟨apartLeft.sound.perform (.setClock time), apartLeft.owned, apartLeft.rests.set time⟩
  · exact ⟨apartRight.sound.perform (.setClock time), apartRight.owned, apartRight.rests.set time⟩

/-- A step that is addressed to nobody comes to the same on both sides, if no tombstones are
collected and rounds visit all connected sessions. -/
theorem Alongside.take_shared (alongside : Alongside owner session left right) {again : Step}
    (same : step.unordered = again.unordered) (addressed : step.addressee owner = none)
    (uncollected : step ≠ .collect) (visitsLeft : left.Visits step)
    (visitsRight : right.Visits again) :
    Alongside owner session (left.take step) (right.take again) := by
  rcases Step.unordered_cases same with rfl | ⟨orderLeft, orderRight, rfl, rfl⟩
  · cases step with
    | attachNow | flush => cases addressed
    | collect => exact absurd rfl uncollected
    | record id time => exact alongside.record id time
    | recordNow id =>
        rcases alongside.readClock with ⟨time_eq, alongsideRead⟩
        have recorded := alongsideRead.record id left.state.readClock.1
        simp only [take, recordNow]
        rwa [← time_eq]
    | watermark | laggards => exact alongside.readClock.2
    | flushAll order => exact alongside.take_round visitsLeft visitsRight
    | act action =>
        cases action with
        | attach | detach | moveCursor | takeNumbers | account | register | unregister | send
        | dropInbox | closeInbox | receive | drain => cases addressed
        | record id time => exact alongside.record id time
        | prune before => exact alongside.changeLedger fun _ ordered => ordered.prune before
        | setClock time => exact alongside.setClock time
        | advanceClock micros =>
            rcases alongside.apart with ⟨now, apartLeft, apartRight⟩
            have set := alongside.setClock (now.advanceWrapping micros)
            simpa only [take, State.perform, apartLeft.rests.hand_eq, apartRight.rests.hand_eq]
              using set
  · exact alongside.take_round visitsLeft visitsRight

end Steps

/-! ## Runs -/

/-- Every dispatch round of a run visits each connected session once. -/
def VisitsConnected (service : Service) : List Step → Prop
  | [] => True
  | step :: rest => service.Visits step ∧ (service.take step).VisitsConnected rest

instance Visits.decidable (service : Service) (step : Step) : Decidable (service.Visits step) :=
  match step with
  | .flushAll order => inferInstanceAs (Decidable (order.Perm service.state.registry.ids))
  | .record .. | .recordNow _ | .attachNow _ | .flush _ | .collect | .watermark | .laggards
  | .act _ => .isTrue trivial

instance VisitsConnected.decidable : (service : Service) → (steps : List Step) →
    Decidable (service.VisitsConnected steps)
  | _, [] => .isTrue trivial
  | service, step :: rest =>
      have := VisitsConnected.decidable (service.take step) rest
      inferInstanceAs (Decidable (service.Visits step ∧ (service.take step).VisitsConnected rest))

theorem VisitsConnected.first {service : Service} {first second : List Step}
    (visits : service.VisitsConnected (first ++ second)) : service.VisitsConnected first := by
  induction first generalizing service with
  | nil => trivial
  | cons step rest ih => exact ⟨visits.1, ih visits.2⟩

/-- A run is another one without the steps that are addressed to a session, up to the orders in
which rounds visit the sessions. -/
def Omits (owner : InboxName → SessionId) (omitted : SessionId) (steps reduced : List Step) :
    Prop :=
  (steps.filter fun step => step.addressee owner ≠ some omitted).map Step.unordered =
    reduced.map Step.unordered

instance (owner : InboxName → SessionId) (omitted : SessionId) (steps reduced : List Step) :
    Decidable (Omits owner omitted steps reduced) :=
  inferInstanceAs (Decidable (_ = _))

section Runs

variable {owner : InboxName → SessionId} {session omitted : SessionId} {left right : Service}

theorem omits_append_iff {first second reduced : List Step} :
    Omits owner omitted (first ++ second) reduced ↔
      ∃ kept rest, reduced = kept ++ rest ∧ Omits owner omitted first kept ∧
        Omits owner omitted second rest := by
  simp only [Omits, List.filter_append, List.map_append]
  rw [eq_comm, List.map_eq_append_iff]
  simp only [eq_comm]

theorem Omits.of_addressed {step : Step} {rest reduced : List Step}
    (omits : Omits owner omitted (step :: rest) reduced)
    (addressed : step.addressee owner = some omitted) : Omits owner omitted rest reduced := by
  simpa [Omits, addressed] using omits

theorem Omits.exists_again {step : Step} {rest reduced : List Step}
    (omits : Omits owner omitted (step :: rest) reduced)
    (elsewhere : step.addressee owner ≠ some omitted) :
    ∃ again restReduced, reduced = again :: restReduced ∧ step.unordered = again.unordered ∧
      Omits owner omitted rest restReduced := by
  simp only [Omits, List.filter_cons, elsewhere, ne_eq, not_false_eq_true, decide_true, if_true,
    List.map_cons] at omits
  rcases List.map_eq_cons_iff.mp omits.symm with ⟨again, restReduced, rfl, same, restOmits⟩
  exact ⟨again, restReduced, rfl, same.symm, restOmits.symm⟩

/-- Leaving out of a run what is addressed to another session makes no difference for a session. -/
theorem Alongside.run (alongside : Alongside owner session left right)
    (different : session ≠ omitted) {steps reduced : List Step}
    (keeps : ∀ step ∈ steps, step.KeepsTo owner) (uncollected : .collect ∉ steps)
    (visits : left.VisitsConnected steps) (visitsReduced : right.VisitsConnected reduced)
    (omits : Omits owner omitted steps reduced) :
    Alongside owner session (left.run steps) (right.run reduced) ∧
      along (replies owner session) left steps = along (replies owner session) right reduced := by
  -- By induction on the longer run, each step of which keeps the two services alongside.
  induction steps generalizing left right reduced with
  | nil =>
      obtain rfl : reduced = [] := by simpa [Omits] using omits
      exact ⟨alongside, rfl⟩
  | cons step rest ih =>
      rcases List.forall_mem_cons.mp keeps with ⟨keepsFirst, keepsRest⟩
      rcases not_or.mp (mt List.mem_cons.mpr uncollected) with ⟨uncollectedFirst, uncollectedRest⟩
      cases addressed : step.addressee owner with
      | none =>
          -- Both runs take the step, a dispatch round perhaps in another order.
          rcases omits.exists_again (by simp [addressed]) with
            ⟨again, restReduced, rfl, same, restOmits⟩
          have next := alongside.take_shared same addressed (Ne.symm uncollectedFirst) visits.1
            visitsReduced.1
          rcases ih next keepsRest uncollectedRest visits.2 visitsReduced.2 restOmits with
            ⟨last, replies_eq⟩
          have addressedAgain : again.addressee owner = none := by
            rwa [← Step.addressee_eq_of_unordered same]
          refine ⟨last, ?_⟩
          simp [along, replies, addressed, addressedAgain, replies_eq]
      | some target =>
          by_cases toOmitted : target = omitted
          · -- Only the first run takes the step.
            subst toOmitted
            have next := alongside.take_other keepsFirst addressed different
            rcases ih next keepsRest uncollectedRest visits.2 visitsReduced
              (omits.of_addressed addressed) with ⟨last, replies_eq⟩
            refine ⟨last, ?_⟩
            simp [along, replies, addressed, Ne.symm different, replies_eq]
          · rcases omits.exists_again (by simp [addressed, toOmitted]) with
              ⟨again, restReduced, rfl, same, restOmits⟩
            obtain rfl := Step.eq_of_addressed same addressed
            by_cases own : target = session
            · subst own
              have next := alongside.take_own keepsFirst addressed
              rcases ih next keepsRest uncollectedRest visits.2 visitsReduced.2 restOmits with
                ⟨last, replies_eq⟩
              refine ⟨last, ?_⟩
              simp [along, replies, addressed, alongside.reply_eq addressed, replies_eq]
            · -- Neither side's step makes a difference for the session.
              have takenLeft := alongside.take_other keepsFirst addressed (Ne.symm own)
              have next := (takenLeft.symm.take_other keepsFirst addressed (Ne.symm own)).symm
              rcases ih next keepsRest uncollectedRest visits.2 visitsReduced.2 restOmits with
                ⟨last, replies_eq⟩
              refine ⟨last, ?_⟩
              simp [along, replies, addressed, own, replies_eq]

theorem alongside_start (settings : Settings) (time : Timestamp) (owner : InboxName → SessionId)
    (session : SessionId) :
    Alongside owner session (start settings (.manual .direct time))
      (start settings (.manual .direct time)) := by
  have apart : (start settings (.manual .direct time)).state.Apart owner time :=
    ⟨State.sound_start _, Transport.owned_empty owner, Clock.rests_manual time⟩
  exact ⟨rfl, rfl, .refl owner session _, time, apart, apart⟩

/-- What is left of a run makes a run again, as soon as its rounds visit the sessions that are
connected there. -/
theorem exists_omits (service : Service) (owner : InboxName → SessionId) (omitted : SessionId)
    (steps : List Step) :
    ∃ reduced, service.VisitsConnected reduced ∧ Omits owner omitted steps reduced := by
  induction steps generalizing service with
  | nil => exact ⟨[], trivial, rfl⟩
  | cons step rest ih =>
      by_cases addressed : step.addressee owner = some omitted
      · rcases ih service with ⟨reduced, visits, omits⟩
        exact ⟨reduced, visits, by simpa [Omits, addressed] using omits⟩
      · obtain ⟨again, visitsAgain, same⟩ :
            ∃ again, service.Visits again ∧ step.unordered = again.unordered := by
          cases step with
          | flushAll order => exact ⟨.flushAll service.state.registry.ids, .refl _, rfl⟩
          | _ =>
              refine ⟨_, ?_, rfl⟩
              trivial
        rcases ih (service.take again) with ⟨reduced, visits, omits⟩
        refine ⟨again :: reduced, ⟨visitsAgain, visits⟩, ?_⟩
        simpa [Omits, List.filter_cons, addressed, same] using omits

end Runs

/-- Over a clock that stands still unless it is set, where no tombstones are collected and every
session has receiving ends of its own, the steps that are addressed to one session can be left out
of a run without any difference for another: at every point of the two runs the other session has
the same entry, connection, queue and receiving ends, the same is pending for it, and its own steps
have given the same answers. -/
theorem sessions_do_not_interfere (settings : Settings) (time : Timestamp)
    (owner : InboxName → SessionId) (session omitted : SessionId) (steps : List Step)
    (different : session ≠ omitted) (keeps : ∀ step ∈ steps, step.KeepsTo owner)
    (uncollected : .collect ∉ steps)
    (visits : (start settings (.manual .direct time)).VisitsConnected steps) :
    let service := start settings (.manual .direct time)
    (∃ reduced, service.VisitsConnected reduced ∧ Omits owner omitted steps reduced) ∧
    ∀ reduced, service.VisitsConnected reduced → Omits owner omitted steps reduced →
      ∀ first second, steps = first ++ second →
        ∃ kept rest, reduced = kept ++ rest ∧ Omits owner omitted first kept ∧
          Omits owner omitted second rest ∧
          (service.run first).state.Mirrors owner session (service.run kept).state ∧
          (service.run first).state.transport.queue session =
            (service.run kept).state.transport.queue session ∧
          (service.run first).hasNews session = (service.run kept).hasNews session ∧
          along (replies owner session) service first =
            along (replies owner session) service kept := by
  intro service
  refine ⟨exists_omits service owner omitted steps, ?_⟩
  rintro reduced visitsReduced omits first second rfl
  rcases omits_append_iff.mp omits with ⟨kept, rest, rfl, omitsFirst, omitsSecond⟩
  have keepsFirst : ∀ step ∈ first, step.KeepsTo owner :=
    fun step inFirst => keeps step (List.mem_append_left second inFirst)
  have uncollectedFirst : .collect ∉ first :=
    fun inFirst => uncollected (List.mem_append_left second inFirst)
  rcases (alongside_start settings time owner session).run different keepsFirst uncollectedFirst
    visits.first visitsReduced.first omitsFirst with ⟨alongside, replies_eq⟩
  rcases alongside.apart with ⟨now, apartLeft, _⟩
  refine ⟨kept, rest, rfl, omitsFirst, omitsSecond, alongside.mirrors, ?_, ?_, replies_eq⟩
  · exact alongside.mirrors.transport.queue_eq apartLeft.owned apartLeft.sound.paired
  · rw [hasNews, hasNews, alongside.settings_eq]
    exact (alongside.mirrors.alike apartLeft).hasNews_eq _ alongside.ledger_eq

/-- The other session fills its queue, fails, closes its receiving end, leaves and comes back, while
the viewer is flushed, reads, and changes over to a second receiving end. -/
theorem sessions_do_not_interfere_viewer :
    let viewer : SessionId := ⟨"viewer"⟩
    let other : SessionId := ⟨"other"⟩
    let guest : SessionId := ⟨"guest"⟩
    let owner : InboxName → SessionId := fun name =>
      if name = "other" then other else if name = "guest" then guest else viewer
    let steps : List Step :=
      [.attachNow guest, .act (.attach other ⟨100⟩ ⟨10⟩), .act (.register other 1 "other"),
        .attachNow viewer, .act (.register viewer 2 "first"), .act (.register guest 1 "guest"),
        .record (.ofNat 1) ⟨95⟩, .record (.ofNat 2) ⟨96⟩, .record (.ofNat 3) ⟨97⟩, .flush other,
        .flushAll [other, viewer, guest], .act (.closeInbox "other"), .act (.receive "first"),
        .act (.setClock ⟨120⟩), .recordNow (.ofNat 4), .flush other, .flush viewer,
        .act (.detach other), .attachNow other, .act (.register other 3 "other"),
        .act (.register viewer 3 "second"), .flushAll [guest, viewer, other],
        .act (.drain "first"), .act (.receive "second"), .watermark]
    let service := start .pairs (.manual .direct ⟨100⟩)
    viewer ≠ other ∧ (∀ step ∈ steps, step.KeepsTo owner) ∧ .collect ∉ steps ∧
      service.VisitsConnected steps ∧
      (∃ reduced, service.VisitsConnected reduced ∧ Omits owner other steps reduced) ∧
      ∀ reduced, service.VisitsConnected reduced → Omits owner other steps reduced →
        ∀ first second, steps = first ++ second →
          ∃ kept rest, reduced = kept ++ rest ∧ Omits owner other first kept ∧
            Omits owner other second rest ∧
            (service.run first).state.Mirrors owner viewer (service.run kept).state ∧
            (service.run first).state.transport.queue viewer =
              (service.run kept).state.transport.queue viewer ∧
            (service.run first).hasNews viewer = (service.run kept).hasNews viewer ∧
            along (replies owner viewer) service first =
              along (replies owner viewer) service kept := by
  intro viewer other guest owner steps service
  have different : viewer ≠ other := by decide
  have keeps : ∀ step ∈ steps, step.KeepsTo owner := by
    simp [steps, owner, Step.KeepsTo, Action.KeepsTo]
  have uncollected : .collect ∉ steps := by
    simp [steps]
  have visits : service.VisitsConnected steps := by decide +kernel
  exact ⟨different, keeps, uncollected, visits,
    sessions_do_not_interfere .pairs ⟨100⟩ owner viewer other steps different keeps uncollected
      visits⟩

end Service

end Tombstone
