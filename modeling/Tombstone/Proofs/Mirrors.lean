import Tombstone.Proofs.OwnInboxes
import Tombstone.Proofs.RoundOrder

/-!
# What a session has

What a session has is its entry, its connection and its receiving ends. An action that is addressed
to another session leaves these alone, and what an action, a flush or a dispatch round makes of them
depends on nothing else but the ledger and the time. So two states that have the same for a session,
with the same ledger and over clocks that show the same time, keep having the same for it.
-/

namespace Tombstone

namespace Clock

/-- A clock that shows the same time until it is set. -/
structure Rests (clock : Clock) (time : Timestamp) : Prop where
  direct : clock.mode = .direct
  still : clock.source = fun _ => time

theorem rests_manual (time : Timestamp) : (manual .direct time).Rests time := ⟨rfl, rfl⟩

section Rests

variable {clock : Clock} {time : Timestamp}

theorem Rests.hand_eq (rests : clock.Rests time) : clock.hand = time := by
  rw [hand, rests.still]

theorem Rests.time_eq (rests : clock.Rests time) : clock.read.1.time = time := by
  simp only [read, observed, rests.direct, rests.hand_eq]

theorem Rests.read (rests : clock.Rests time) : clock.read.2.Rests time := by
  simp only [Clock.read, rests.direct]
  exact ⟨rfl, rests.still⟩

theorem Rests.set (rests : clock.Rests time) (later : Timestamp) : (clock.set later).Rests later :=
  ⟨rests.direct, rfl⟩

theorem Rests.after (rests : clock.Rests time) (readings : Nat) :
    (clock.after readings).Rests time := by
  induction readings generalizing clock with
  | zero => exact rests
  | succ readings ih => exact ih rests.read

theorem Rests.shows (rests : clock.Rests time) (readings : Nat) : clock.Shows time readings :=
  fun reading _ => (rests.after reading).time_eq

end Rests

end Clock

namespace Action

/-- The session to which an action is addressed, given the owners of the receiving ends. -/
def addressee (owner : InboxName → SessionId) : Action → Option SessionId
  | .attach session _ _ | .detach session | .moveCursor session _ | .takeNumbers session _
  | .account session _ _ | .register session _ _ | .unregister session | .send session _ =>
      some session
  | .dropInbox name | .closeInbox name | .receive name | .drain name => some (owner name)
  | .record _ _ | .prune _ | .setClock _ | .advanceClock _ => none

/-- Sessions are connected to their own receiving ends only. -/
def KeepsTo (owner : InboxName → SessionId) : Action → Prop
  | .register session _ name => owner name = session
  | _ => True

end Action

namespace State

/-- Two states have the same for a session: entry, connection and receiving ends. -/
structure Mirrors (owner : InboxName → SessionId) (session : SessionId) (left right : State) :
    Prop where
  entry_eq : left.registry.find? session = right.registry.find? session
  transport : left.transport.Mirrors owner session right.transport

/-- What holds of a state at every point of a run in which every session has receiving ends of its
own. -/
structure Apart (owner : InboxName → SessionId) (time : Timestamp) (state : State) : Prop where
  sound : state.Sound
  owned : state.transport.Owned owner
  rests : state.clock.Rests time

section Mirrors

variable {owner : InboxName → SessionId} {session other : SessionId} {time : Timestamp}
  {state left middle right : State}

theorem Mirrors.refl (owner : InboxName → SessionId) (session : SessionId) (state : State) :
    Mirrors owner session state state :=
  ⟨rfl, .refl owner session state.transport⟩

theorem Mirrors.symm (mirrors : Mirrors owner session left right) :
    Mirrors owner session right left :=
  ⟨mirrors.entry_eq.symm, mirrors.transport.symm⟩

theorem Mirrors.trans (mirrors : Mirrors owner session left middle)
    (mirrorsLater : Mirrors owner session middle right) : Mirrors owner session left right :=
  ⟨mirrors.entry_eq.trans mirrorsLater.entry_eq, mirrors.transport.trans mirrorsLater.transport⟩

theorem Mirrors.alike (mirrors : Mirrors owner session left right) (apart : left.Apart owner time) :
    Alike session left right :=
  ⟨mirrors.entry_eq, mirrors.transport.connection_eq, fun name connection =>
    mirrors.transport.inbox_eq name (apart.owned.owner_eq apart.sound.paired connection)⟩

theorem Mirrors.isConnected_eq (mirrors : Mirrors owner session left right) :
    left.registry.isConnected session = right.registry.isConnected session := by
  simp only [Registry.isConnected, Directory.contains, mirrors.entry_eq]

/-! ## Actions -/

/-- An action that is addressed to one session makes no difference for another. -/
theorem mirrors_perform_of_ne (apart : state.Apart owner time) {action : Action}
    (keeps : action.KeepsTo owner) (addressed : action.addressee owner = some other)
    (different : session ≠ other) : Mirrors owner session (state.perform action) state := by
  have owned := apart.owned
  have paired := apart.sound.paired
  cases action with
  | record | prune | setClock | advanceClock => cases addressed
  | attach key now cursor =>
      cases addressed
      rcases attach_effect state other now cursor with ⟨journal, attach_eq⟩
      refine ⟨?_, ?_⟩
      · simp [perform, attach_eq, Registry.find?_attach, different]
      · simpa [perform, attach_eq] using .refl owner session state.transport
  | detach key =>
      cases addressed
      rcases detach_effect state other with ⟨journal, detach_eq⟩
      refine ⟨?_, ?_⟩
      · simp [perform, detach_eq, Registry.detach, Directory.find?_remove, different]
      · simpa [perform, detach_eq] using .refl owner session state.transport
  | moveCursor | takeNumbers | account =>
      cases addressed
      refine ⟨?_, .refl owner session state.transport⟩
      simp [perform, Registry.moveCursor, Registry.takeNumbers, Registry.account,
        Directory.find?_adjust, different]
  | register key capacity name =>
      cases addressed
      cases keeps
      exact ⟨rfl, Transport.mirrors_register_of_ne owned paired different capacity⟩
  | unregister key =>
      cases addressed
      exact ⟨rfl, Transport.mirrors_unregister_of_ne owned paired different⟩
  | dropInbox name =>
      cases addressed
      exact ⟨rfl, Transport.mirrors_dropInbox_of_ne owned different⟩
  | closeInbox name | receive name | drain name =>
      cases addressed
      exact ⟨rfl, Transport.mirrors_adjust_of_ne different _⟩
  | send key bytes =>
      cases addressed
      rw [perform, send]
      cases sent : state.transport.send other bytes with
      | error error => exact .refl owner session state
      | ok after =>
          exact ⟨rfl, Transport.mirrors_gained_of_ne owned paired different
            (Transport.send_eq_ok sent).1⟩

/-- How handing a packet over ends, and what comes of it for its session, is told by what the
session has. -/
theorem Mirrors.send (mirrors : Mirrors owner session left right) (apart : left.Apart owner time)
    (bytes : Bytes) :
    (left.send session bytes).1 = (right.send session bytes).1 ∧
      Mirrors owner session (left.send session bytes).2 (right.send session bytes).2 := by
  have outlet_eq := mirrors.transport.outlet_eq apart.owned apart.sound.paired
  rw [State.send, State.send]
  cases sentLeft : left.transport.send session bytes with
  | error error =>
      have sentRight : right.transport.send session bytes = .error error := by
        rwa [Transport.send_eq_error_iff, ← outlet_eq, ← Transport.send_eq_error_iff]
      rw [sentRight]
      exact ⟨rfl, mirrors⟩
  | ok afterLeft =>
      cases sentRight : right.transport.send session bytes with
      | error error =>
          have refused : left.transport.send session bytes = .error error := by
            rwa [Transport.send_eq_error_iff, outlet_eq, ← Transport.send_eq_error_iff]
          cases sentLeft.symm.trans refused
      | ok afterRight =>
          exact ⟨rfl, mirrors.entry_eq, mirrors.transport.gained
            (Transport.send_eq_ok sentLeft).1 (Transport.send_eq_ok sentRight).1⟩

/-- What an action does for the session to which it is addressed is told by what the session has. -/
theorem Mirrors.perform (mirrors : Mirrors owner session left right)
    (apart : left.Apart owner time) {action : Action} (keeps : action.KeepsTo owner)
    (addressed : action.addressee owner = some session) :
    Mirrors owner session (left.perform action) (right.perform action) := by
  have entry_eq := mirrors.entry_eq
  cases action with
  | record | prune | setClock | advanceClock => cases addressed
  | attach key now cursor =>
      cases addressed
      rcases attach_effect left session now cursor with ⟨journalLeft, attach_eq_left⟩
      rcases attach_effect right session now cursor with ⟨journalRight, attach_eq_right⟩
      refine ⟨?_, ?_⟩
      · simp [State.perform, attach_eq_left, attach_eq_right, Registry.find?_attach, entry_eq,
          mirrors.isConnected_eq]
      · simpa [State.perform, attach_eq_left, attach_eq_right] using mirrors.transport
  | detach key =>
      cases addressed
      rcases detach_effect left session with ⟨journalLeft, detach_eq_left⟩
      rcases detach_effect right session with ⟨journalRight, detach_eq_right⟩
      refine ⟨?_, ?_⟩
      · simp [State.perform, detach_eq_left, detach_eq_right, Registry.detach,
          Directory.find?_remove]
      · simpa [State.perform, detach_eq_left, detach_eq_right] using mirrors.transport
  | moveCursor | takeNumbers | account =>
      cases addressed
      refine ⟨?_, mirrors.transport⟩
      simp [State.perform, Registry.moveCursor, Registry.takeNumbers, Registry.account,
        Directory.find?_adjust, entry_eq]
  | register key capacity name =>
      cases addressed
      exact ⟨entry_eq, mirrors.transport.register keeps capacity⟩
  | unregister key =>
      cases addressed
      exact ⟨entry_eq, mirrors.transport.unregister⟩
  | dropInbox name =>
      exact ⟨entry_eq, mirrors.transport.dropInbox (Option.some.inj addressed)⟩
  | closeInbox name | receive name | drain name =>
      exact ⟨entry_eq, mirrors.transport.adjust name _⟩
  | send key bytes =>
      cases addressed
      exact (mirrors.send apart bytes).2

theorem Apart.perform (apart : state.Apart owner time) {action : Action}
    (keeps : action.KeepsTo owner) (addressed : action.addressee owner = some session) :
    (state.perform action).Apart owner time ∧ (state.perform action).ledger = state.ledger := by
  have sound := apart.sound.perform action
  have owned := apart.owned
  have rests := apart.rests
  cases action with
  | record | prune | setClock | advanceClock => cases addressed
  | attach key now cursor =>
      rcases attach_effect state key now cursor with ⟨journal, attach_eq⟩
      rw [State.perform, attach_eq] at sound ⊢
      exact ⟨⟨sound, owned, rests⟩, rfl⟩
  | detach key =>
      rcases detach_effect state key with ⟨journal, detach_eq⟩
      rw [State.perform, detach_eq] at sound ⊢
      exact ⟨⟨sound, owned, rests⟩, rfl⟩
  | moveCursor | takeNumbers | account => exact ⟨⟨sound, owned, rests⟩, rfl⟩
  | register key capacity name => exact ⟨⟨sound, owned.register keeps capacity, rests⟩, rfl⟩
  | unregister key => exact ⟨⟨sound, owned.unregister key, rests⟩, rfl⟩
  | dropInbox name => exact ⟨⟨sound, owned.dropInbox name, rests⟩, rfl⟩
  | closeInbox name | receive name | drain name =>
      exact ⟨⟨sound, owned.adjust name (by intro _; rfl), rests⟩, rfl⟩
  | send key bytes =>
      rw [State.perform, State.send] at sound ⊢
      cases sent : state.transport.send key bytes with
      | error error => exact ⟨apart, rfl⟩
      | ok after =>
          rw [sent] at sound
          exact ⟨⟨sound, owned.gained (Transport.send_eq_ok sent).1, rests⟩, rfl⟩

theorem ledger_readClock (quiet : state.Quiet) : state.readClock.2.ledger = state.ledger := by
  rcases readClock_of_quiet quiet with ⟨_, read_eq⟩
  rw [read_eq]

theorem mirrors_readClock (quiet : state.Quiet) :
    Mirrors owner session state.readClock.2 state := by
  rcases readClock_of_quiet quiet with ⟨_, read_eq⟩
  rw [read_eq]
  exact ⟨rfl, .refl owner session state.transport⟩

theorem Apart.time_readClock (apart : state.Apart owner time) : state.readClock.1 = time := by
  rcases readClock_of_quiet apart.sound.quiet with ⟨_, read_eq⟩
  rw [read_eq, apart.rests.time_eq]

theorem Apart.readClock (apart : state.Apart owner time) : state.readClock.2.Apart owner time := by
  have sound := apart.sound.readClock
  rcases readClock_of_quiet apart.sound.quiet with ⟨_, read_eq⟩
  rw [read_eq] at sound ⊢
  exact ⟨sound, apart.owned, apart.rests.read⟩

/-! ## Flushes and rounds -/

theorem Apart.flush (apart : state.Apart owner time) (settings : Settings)
    (flushed : SessionId) : (state.flush settings flushed).2.Apart owner time := by
  refine ⟨apart.sound.flush settings flushed, ?_, ?_⟩
  · cases found : state.registry.find? flushed with
    | none =>
        rw [flush_of_unknown found]
        exact apart.owned
    | some entry =>
        rcases flush_of_connected settings apart.sound.quiet found with
          ⟨_, _, _, delivered, flush_eq⟩
        rw [flush_eq]
        exact apart.owned.gained delivered.gained
  · cases found : state.registry.find? flushed with
    | none =>
        rw [flush_of_unknown found]
        exact apart.rests
    | some entry =>
        rcases flush_of_connected settings apart.sound.quiet found with ⟨_, _, _, _, flush_eq⟩
        rw [flush_eq]
        exact apart.rests.read

theorem Apart.round (apart : state.Apart owner time) (settings : Settings)
    (order : List SessionId) : (order.foldl (visited settings) state).Apart owner time := by
  induction order generalizing state with
  | nil => exact apart
  | cons first rest ih =>
      apply ih
      apply visited_induction apart
      intro journal
      have flushed := apart.flush settings first
      exact ⟨{ flushed.sound with }, flushed.owned, flushed.rests⟩

theorem mirrors_flush_of_ne (apart : state.Apart owner time) (settings : Settings)
    (different : session ≠ other) : Mirrors owner session (state.flush settings other).2 state := by
  refine ⟨(alike_flush_of_ne apart.sound.quiet apart.sound.paired different).entry_eq, ?_⟩
  cases found : state.registry.find? other with
  | none =>
      rw [flush_of_unknown found]
      exact .refl owner session state.transport
  | some entry =>
      rcases flush_of_connected settings apart.sound.quiet found with
        ⟨_, _, _, delivered, flush_eq⟩
      rw [flush_eq]
      exact Transport.mirrors_gained_of_ne apart.owned apart.sound.paired different delivered.gained

/-- Of the connection and the receiving ends of a session, at most the inbox to which the connection
leads has changed. -/
structure Spares (owner : InboxName → SessionId) (session : SessionId) (before after : State) :
    Prop where
  connections_eq : after.transport.connections = before.transport.connections
  inbox_eq : ∀ name, owner name = session →
    before.transport.connections.find? session ≠ some (some name) →
    after.transport.inboxes.find? name = before.transport.inboxes.find? name

theorem spares_flush (apart : state.Apart owner time) (settings : Settings)
    (session : SessionId) : Spares owner session state (state.flush settings session).2 :=
  ⟨connections_flush settings session apart.sound.quiet,
    fun _ _ elsewhere => inbox_flush_of_elsewhere apart.sound.quiet elsewhere⟩

theorem spares_round (apart : state.Apart owner time) (settings : Settings)
    (order : List SessionId) (session : SessionId) :
    Spares owner session state (order.foldl (visited settings) state) := by
  refine ⟨connections_round apart.sound order, ?_⟩
  rintro name rfl elsewhere
  apply inbox_round_of_elsewhere apart.sound
  intro other connection
  -- Only the owner of a receiving end is connected to it.
  obtain rfl := apart.owned.owner_eq apart.sound.paired connection
  exact elsewhere connection

/-- What is alike for a session after the same happened to what it has is all that the session has.
-/
theorem Mirrors.of_alike {afterLeft afterRight : State} (mirrors : Mirrors owner session left right)
    (sparesLeft : Spares owner session left afterLeft)
    (sparesRight : Spares owner session right afterRight)
    (alike : Alike session afterLeft afterRight) : Mirrors owner session afterLeft afterRight := by
  refine ⟨alike.entry_eq, alike.connection_eq, ?_⟩
  intro name own
  by_cases leadsThere : left.transport.connections.find? session = some (some name)
  · apply alike.inbox_eq name
    rwa [sparesLeft.connections_eq]
  · rw [sparesLeft.inbox_eq name own leadsThere, mirrors.transport.inbox_eq name own,
      sparesRight.inbox_eq name own (mirrors.transport.connection_eq ▸ leadsThere)]

theorem Mirrors.flush (mirrors : Mirrors owner session left right)
    (apartLeft : left.Apart owner time) (apartRight : right.Apart owner time)
    (ledger_eq : left.ledger = right.ledger) (settings : Settings) :
    (left.flush settings session).1 = (right.flush settings session).1 ∧
      Mirrors owner session (left.flush settings session).2 (right.flush settings session).2 := by
  have time_eq := apartLeft.rests.time_eq.trans apartRight.rests.time_eq.symm
  rcases (mirrors.alike apartLeft).flush settings apartLeft.sound.quiet apartRight.sound.quiet
    ledger_eq time_eq with ⟨result_eq, alike⟩
  exact ⟨result_eq, mirrors.of_alike (spares_flush apartLeft settings session)
    (spares_flush apartRight settings session) alike⟩

/-- A session comes out of two rounds that visit all connected sessions in the same way, whichever
other sessions there are. -/
theorem Mirrors.round (mirrors : Mirrors owner session left right)
    (apartLeft : left.Apart owner time) (apartRight : right.Apart owner time)
    (ledger_eq : left.ledger = right.ledger) (settings : Settings)
    {orderLeft orderRight : List SessionId} (visitsLeft : orderLeft.Perm left.registry.ids)
    (visitsRight : orderRight.Perm right.registry.ids) :
    Mirrors owner session (orderLeft.foldl (visited settings) left)
      (orderRight.foldl (visited settings) right) := by
  apply mirrors.of_alike (spares_round apartLeft settings orderLeft session)
    (spares_round apartRight settings orderRight session)
  have mem_iff : session ∈ orderLeft ↔ session ∈ orderRight := by
    rw [visitsLeft.mem_iff, visitsRight.mem_iff, ← Registry.isConnected_iff_mem_ids,
      ← Registry.isConnected_iff_mem_ids, mirrors.isConnected_eq]
  have alike := mirrors.alike apartLeft
  by_cases visits : session ∈ orderLeft
  · have time_eq := apartLeft.rests.time_eq.trans apartRight.rests.time_eq.symm
    have visited := (alike.visited settings apartLeft.sound.quiet apartRight.sound.quiet ledger_eq
      time_eq).2
    have roundLeft := alike_round_of_mem settings apartLeft.sound
      (visitsLeft.nodup_iff.mpr apartLeft.sound.distinct) (apartLeft.rests.shows _) visits
    have roundRight := alike_round_of_mem settings apartRight.sound
      (visitsRight.nodup_iff.mpr apartRight.sound.distinct) (apartRight.rests.shows _)
      (mem_iff.mp visits)
    exact roundLeft.trans (visited.trans roundRight.symm)
  · have roundLeft : Alike session (orderLeft.foldl (visited settings) left) left :=
      alike_round_of_absent apartLeft.sound visits
    have roundRight : Alike session (orderRight.foldl (visited settings) right) right :=
      alike_round_of_absent apartRight.sound (mt mem_iff.mpr visits)
    exact roundLeft.trans (alike.trans roundRight.symm)

end Mirrors

end State

end Tombstone
