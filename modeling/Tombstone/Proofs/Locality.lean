import Tombstone.Proofs.RoundVisits

/-!
# A flush concerns its own session

How a flush ends, and what becomes of the session's entry and inbox, depends on these, on the
ledger and on the time that is read, and on nothing else. The entries and inboxes of the other
sessions are left alone. A visit of a dispatch round therefore gives the same at every place in the
round, as long as the clock does not move.
-/

namespace Tombstone

namespace Clock

/-- The clock after so many readings. -/
def after : Nat → Clock → Clock
  | 0, clock => clock
  | readings + 1, clock => clock.read.2.after readings

/-- At each of so many readings to come, a clock shows the given time. -/
def Shows (clock : Clock) (time : Timestamp) (readings : Nat) : Prop :=
  ∀ reading < readings, (clock.after reading).read.1.time = time

instance (clock : Clock) (time : Timestamp) (readings : Nat) :
    Decidable (clock.Shows time readings) :=
  inferInstanceAs (Decidable (∀ reading < readings, (clock.after reading).read.1.time = time))

variable {clock : Clock} {time : Timestamp} {readings : Nat}

theorem Shows.first (still : clock.Shows time readings) (some_reading : 0 < readings) :
    clock.read.1.time = time :=
  still 0 some_reading

theorem Shows.fewer (still : clock.Shows time (readings + 1)) : clock.Shows time readings := by
  intro reading reading_lt
  exact still reading (Nat.lt_succ_of_lt reading_lt)

theorem Shows.later (still : clock.Shows time (readings + 1)) :
    clock.read.2.Shows time readings := by
  intro reading reading_lt
  exact still (reading + 1) (Nat.succ_lt_succ reading_lt)

end Clock

namespace State

/-- Two states are alike for a session: they have the same entry and connection for it, and the same
inbox where the connection leads. -/
structure Alike (session : SessionId) (left right : State) : Prop where
  entry_eq : left.registry.find? session = right.registry.find? session
  connection_eq :
    left.transport.connections.find? session = right.transport.connections.find? session
  inbox_eq : ∀ name, left.transport.connections.find? session = some (some name) →
    left.transport.inboxes.find? name = right.transport.inboxes.find? name

section Alike

variable {session : SessionId} {left middle right : State}

theorem Alike.refl (session : SessionId) (state : State) : Alike session state state :=
  ⟨rfl, rfl, fun _ _ => rfl⟩

theorem Alike.symm (alike : Alike session left right) : Alike session right left := by
  refine ⟨alike.entry_eq.symm, alike.connection_eq.symm, ?_⟩
  intro name connection
  rw [← alike.connection_eq] at connection
  exact (alike.inbox_eq name connection).symm

theorem Alike.trans (alike : Alike session left middle) (alikeLater : Alike session middle right) :
    Alike session left right := by
  refine ⟨alike.entry_eq.trans alikeLater.entry_eq,
    alike.connection_eq.trans alikeLater.connection_eq, ?_⟩
  intro name connection
  apply (alike.inbox_eq name connection).trans
  apply alikeLater.inbox_eq name
  rw [← alike.connection_eq, connection]

theorem Alike.outlet_eq (alike : Alike session left right) :
    left.transport.outlet session = right.transport.outlet session := by
  simp only [Transport.outlet, ← alike.connection_eq]
  split
  · rfl
  · rfl
  · next name connection => rw [alike.inbox_eq name connection]

theorem Alike.hasNews_eq (settings : Settings) (alike : Alike session left right)
    (ledger_eq : left.ledger = right.ledger) :
    left.hasNews settings session = right.hasNews settings session := by
  simp only [hasNews, Registry.cursor?, alike.entry_eq, ledger_eq]

/-- The flush of a session ends alike in states that are alike for it. -/
theorem Alike.flush (settings : Settings) (alike : Alike session left right)
    (quietLeft : left.Quiet) (quietRight : right.Quiet) (ledger_eq : left.ledger = right.ledger)
    (time_eq : left.clock.read.1.time = right.clock.read.1.time) :
    (left.flush settings session).1 = (right.flush settings session).1 ∧
      Alike session (left.flush settings session).2 (right.flush settings session).2 := by
  cases found : left.registry.find? session with
  | none =>
      have foundRight : right.registry.find? session = none := alike.entry_eq ▸ found
      rw [flush_of_unknown found, flush_of_unknown foundRight]
      exact ⟨rfl, alike⟩
  | some entry =>
      have foundRight : right.registry.find? session = some entry := alike.entry_eq ▸ found
      have packets_eq : ∀ snapshot, packetsFor settings left session entry.cursor snapshot =
          packetsFor settings right session entry.cursor snapshot := by
        intro snapshot
        have numbers_eq : left.registry.numbers session = right.registry.numbers session := by
          funext index
          simp only [Registry.numbers, alike.entry_eq]
        simp only [packetsFor, numbers_eq, ledger_eq]
      rcases flush_of_connected settings quietLeft found with
        ⟨delivery, transport, journal, delivered, flush_eq⟩
      rcases flush_of_connected settings quietRight foundRight with
        ⟨other, otherTransport, otherJournal, deliveredOther, flush_eq_other⟩
      -- The same packets meet the same outlet, so they are handed over equally far.
      rw [packets_eq, time_eq] at delivered
      obtain rfl : delivery = other := delivered.eq_of_outlet deliveredOther alike.outlet_eq
      have connections_eq := delivered.gained.connections_eq
      rw [flush_eq, flush_eq_other, packets_eq, time_eq, ledger_eq]
      refine ⟨rfl, ?_, ?_, ?_⟩
      · simp only [Directory.find?_adjust, alike.entry_eq]
      · simp only [connections_eq, deliveredOther.gained.connections_eq, alike.connection_eq]
      · intro name connection
        simp only [connections_eq] at connection
        have connectionRight := alike.connection_eq ▸ connection
        rw [delivered.gained.target_eq name connection,
          deliveredOther.gained.target_eq name connectionRight, alike.inbox_eq name connection]

/-- A dispatch round may visit a session in any of the states that are alike for it. -/
theorem Alike.visited (settings : Settings) (alike : Alike session left right)
    (quietLeft : left.Quiet) (quietRight : right.Quiet) (ledger_eq : left.ledger = right.ledger)
    (time_eq : left.clock.read.1.time = right.clock.read.1.time) :
    left.outcome settings session = right.outcome settings session ∧
      Alike session (left.visited settings session) (right.visited settings session) := by
  have flushed := alike.flush settings quietLeft quietRight ledger_eq time_eq
  have news_eq := alike.hasNews_eq settings ledger_eq
  cases news : left.hasNews settings session with
  | false =>
      rw [visited_of_idle news, visited_of_idle (news_eq ▸ news)]
      exact ⟨by simp [outcome, ← news_eq, news], alike⟩
  | true =>
      rcases visited_of_news news with ⟨journal, visited_eq⟩
      rcases visited_of_news (news_eq ▸ news) with ⟨otherJournal, visited_eq_other⟩
      rw [visited_eq, visited_eq_other]
      exact ⟨by simp [outcome, ← news_eq, news, flushed.1], { flushed.2 with }⟩

end Alike

section Frame

variable {settings : Settings} {state : State} {session : SessionId}

theorem connections_flush (settings : Settings) (session : SessionId) (quiet : state.Quiet) :
    (state.flush settings session).2.transport.connections = state.transport.connections := by
  cases found : state.registry.find? session with
  | none => rw [flush_of_unknown found]
  | some entry =>
      rcases flush_of_connected settings quiet found with ⟨_, _, _, delivered, flush_eq⟩
      rw [flush_eq]
      exact delivered.gained.connections_eq

theorem inbox_flush_of_elsewhere (quiet : state.Quiet) {name : InboxName}
    (elsewhere : state.transport.connections.find? session ≠ some (some name)) :
    (state.flush settings session).2.transport.inboxes.find? name =
      state.transport.inboxes.find? name := by
  cases found : state.registry.find? session with
  | none => rw [flush_of_unknown found]
  | some entry =>
      rcases flush_of_connected settings quiet found with ⟨_, _, _, delivered, flush_eq⟩
      rw [flush_eq]
      exact delivered.gained.other_eq name elsewhere

/-- A flush makes no difference for other sessions. -/
theorem alike_flush_of_ne (quiet : state.Quiet) (paired : state.transport.Paired)
    {other : SessionId} (different : other ≠ session) :
    Alike other (state.flush settings session).2 state := by
  have connections_eq := connections_flush settings session quiet
  refine ⟨?_, by rw [connections_eq], ?_⟩
  · cases found : state.registry.find? session with
    | none => rw [flush_of_unknown found]
    | some entry =>
        rcases flush_of_connected settings quiet found with ⟨_, _, _, _, flush_eq⟩
        rw [flush_eq, Directory.find?_adjust, if_neg different]
  · intro name connection
    rw [connections_eq] at connection
    apply inbox_flush_of_elsewhere quiet
    intro leadsThere
    exact different (paired.eq_of_shared connection leadsThere)

theorem connections_visited (quiet : state.Quiet) :
    (state.visited settings session).transport.connections = state.transport.connections :=
  visited_induction (motive := fun after =>
    after.transport.connections = state.transport.connections) rfl
    fun _ => connections_flush settings session quiet

theorem inbox_visited_of_elsewhere (quiet : state.Quiet) {name : InboxName}
    (elsewhere : state.transport.connections.find? session ≠ some (some name)) :
    (state.visited settings session).transport.inboxes.find? name =
      state.transport.inboxes.find? name :=
  visited_induction (motive := fun after =>
    after.transport.inboxes.find? name = state.transport.inboxes.find? name) rfl
    fun _ => inbox_flush_of_elsewhere quiet elsewhere

theorem alike_visited_of_ne (quiet : state.Quiet) (paired : state.transport.Paired)
    {other : SessionId} (different : other ≠ session) :
    Alike other (state.visited settings session) state :=
  visited_induction (motive := fun after => Alike other after state) (Alike.refl other state)
    fun _ => { alike_flush_of_ne quiet paired different with }

/-- A visit reads the clock at most once. -/
theorem shows_visited (settings : Settings) (session : SessionId) (quiet : state.Quiet)
    {time : Timestamp} {readings : Nat}
    (still : state.clock.Shows time (readings + 1)) :
    (state.visited settings session).clock.Shows time readings := by
  apply visited_induction (motive := fun after => after.clock.Shows time readings) still.fewer
  intro journal
  cases found : state.registry.find? session with
  | none =>
      rw [flush_of_unknown found]
      exact still.fewer
  | some entry =>
      rcases flush_of_connected settings quiet found with ⟨_, _, _, _, flush_eq⟩
      rw [flush_eq]
      exact still.later

end Frame

end State

end Tombstone
