import Tombstone.Proofs.CursorMoves

/-!
# A dispatch round, visit by visit

A dispatch round is a sequence of visits, each of which flushes its session if something is pending
for it, and leaves the state alone otherwise. The numbers of the round only sum up how the flushes
ended, so what a round does to the state can be followed without them.
-/

namespace Tombstone

/-- Adds a visit to the numbers of a round, given how its flush ended if there was one. -/
def RoundSummary.count (round : RoundSummary) :
    Option (Except FlushError FlushSummary) → RoundSummary
  | none | some (.error (.unknownSession _)) => round
  | some (.ok summary) => round.add summary
  | some (.error (.transport ..)) => { round with failures := round.failures + 1 }

namespace State

/-- The state after a visit of a dispatch round. -/
def visited (settings : Settings) (state : State) (session : SessionId) : State :=
  (visit settings ({}, state) session).2

/-- How the flush of a visit ends; none if nothing is pending. -/
def outcome (settings : Settings) (state : State) (session : SessionId) :
    Option (Except FlushError FlushSummary) :=
  if state.hasNews settings session then some (state.flush settings session).1 else none

theorem visit_eq (settings : Settings) (round : RoundSummary) (state : State)
    (session : SessionId) :
    visit settings (round, state) session =
      (round.count (state.outcome settings session), state.visited settings session) := by
  simp only [visited, outcome, visit]
  split
  · cases flushed : state.flush settings session with
    | mk result after =>
        cases result with
        | ok summary => rfl
        | error error => cases error <;> rfl
  · rfl

section Visit

variable {settings : Settings} {state : State} {session : SessionId}

theorem visited_of_idle (idle : state.hasNews settings session = false) :
    state.visited settings session = state := by
  simp [visited, visit, idle]

theorem visited_of_news (news : state.hasNews settings session = true) :
    ∃ journal, state.visited settings session =
      { (state.flush settings session).2 with journal } := by
  simp only [visited, visit, if_pos news]
  cases flushed : state.flush settings session with
  | mk result after =>
      cases result with
      | ok summary => exact ⟨after.journal, rfl⟩
      | error error =>
          cases error with
          | unknownSession _ => exact ⟨after.journal, rfl⟩
          | transport _ _ _ => exact ⟨_, rfl⟩

/-- What a flush of the session and a note in the journal preserve, a visit preserves. -/
theorem visited_induction {motive : State → Prop} (start : motive state)
    (flushed : ∀ journal, motive { (state.flush settings session).2 with journal }) :
    motive (state.visited settings session) := by
  cases news : state.hasNews settings session with
  | false =>
      rw [visited_of_idle news]
      exact start
  | true =>
      rcases visited_of_news news with ⟨journal, visited_eq⟩
      rw [visited_eq]
      exact flushed journal

theorem quiet_visited (quiet : state.Quiet) : (state.visited settings session).Quiet :=
  visited_induction quiet fun _ => quiet_flush settings session quiet

theorem ids_visited (quiet : state.Quiet) :
    (state.visited settings session).registry.ids = state.registry.ids :=
  visited_induction (motive := fun after => after.registry.ids = state.registry.ids) rfl
    fun _ => ids_flush quiet

theorem ledger_visited (quiet : state.Quiet) :
    (state.visited settings session).ledger = state.ledger :=
  visited_induction (motive := fun after => after.ledger = state.ledger) rfl
    fun _ => ledger_flush quiet

theorem cursor?_visited_of_ne (quiet : state.Quiet) {other : SessionId}
    (different : other ≠ session) :
    (state.visited settings session).registry.cursor? other = state.registry.cursor? other :=
  visited_induction (motive := fun after =>
    after.registry.cursor? other = state.registry.cursor? other) rfl
    fun _ => cursor?_flush_of_ne quiet different

theorem hasNews_visited_of_ne (quiet : state.Quiet) {other : SessionId}
    (different : other ≠ session) :
    (state.visited settings session).hasNews settings other = state.hasNews settings other := by
  simp only [hasNews, cursor?_visited_of_ne quiet different, ledger_visited quiet]

end Visit

/-! ## Whole rounds -/

/-- How the flushes of a round end, visit by visit. -/
def outcomes (settings : Settings) : State → List SessionId →
    List (Option (Except FlushError FlushSummary))
  | _, [] => []
  | state, session :: rest =>
      state.outcome settings session :: outcomes settings (state.visited settings session) rest

/-- A round counts how the flushes of its visits end, and leaves what the last visit leaves. -/
theorem flushAllIn_eq (settings : Settings) (order : List SessionId) (state : State) :
    state.flushAllIn settings order =
      ((outcomes settings state order).foldl RoundSummary.count { considered := order.length },
        order.foldl (visited settings) state) := by
  have rounds : ∀ round : RoundSummary, order.foldl (visit settings) (round, state) =
      ((outcomes settings state order).foldl RoundSummary.count round,
        order.foldl (visited settings) state) := by
    induction order generalizing state with
    | nil => exact fun _ => rfl
    | cons session rest ih =>
        intro round
        simp only [List.foldl_cons, visit_eq, outcomes]
        exact ih _ _
  exact rounds _

theorem ids_foldl_visited {settings : Settings} {state : State} (quiet : state.Quiet)
    (order : List SessionId) :
    (order.foldl (visited settings) state).registry.ids = state.registry.ids := by
  induction order generalizing state with
  | nil => rfl
  | cons session rest ih => exact (ih (quiet_visited quiet)).trans (ids_visited quiet)

/-- What flushes and notes in the journal preserve, a dispatch round preserves. -/
theorem flushAllIn_induction {settings : Settings} {motive : State → Prop} {state : State}
    (start : motive state)
    (flush : ∀ state session, motive state → motive (state.flush settings session).2)
    (note : ∀ state journal, motive state → motive { state with journal })
    (order : List SessionId) : motive (state.flushAllIn settings order).2 := by
  rw [flushAllIn_eq]
  induction order generalizing state with
  | nil => exact start
  | cons session rest ih =>
      apply ih
      exact visited_induction start fun journal => note _ journal (flush state session start)

/-- The states in which a round flushes a session. -/
def flushesOf (settings : Settings) (session : SessionId) : State → List SessionId → List State
  | _, [] => []
  | state, first :: rest =>
      if first = session ∧ state.hasNews settings session = true then
        state :: flushesOf settings session (state.visited settings first) rest
      else flushesOf settings session (state.visited settings first) rest

theorem flushesOf_of_idle {settings : Settings} {session : SessionId} {state : State}
    (quiet : state.Quiet) (idle : state.hasNews settings session = false)
    (order : List SessionId) : flushesOf settings session state order = [] := by
  induction order generalizing state with
  | nil => rfl
  | cons first rest ih =>
      have still : (state.visited settings first).hasNews settings session = false := by
        by_cases own : session = first
        · rw [← own, visited_of_idle idle, idle]
        · rw [hasNews_visited_of_ne quiet own, idle]
      simp [flushesOf, idle, ih (quiet_visited quiet) still]

/-- In a state in which a round flushes a session, something is pending for it, and how the flush
ends is how a visit of the round ends. -/
theorem outcome_of_mem_flushesOf {settings : Settings} {session : SessionId} {state flushed : State}
    {order : List SessionId} (flushed_mem : flushed ∈ flushesOf settings session state order) :
    flushed.hasNews settings session = true ∧
      some (flushed.flush settings session).1 ∈ outcomes settings state order := by
  induction order generalizing state with
  | nil => cases flushed_mem
  | cons first rest ih =>
      simp only [flushesOf] at flushed_mem
      simp only [outcomes, List.mem_cons]
      split at flushed_mem
      · next visited =>
          rcases List.mem_cons.mp flushed_mem with rfl | inRest
          · rcases visited with ⟨rfl, news⟩
            exact ⟨news, Or.inl (by rw [outcome, if_pos news])⟩
          · exact (ih inRest).imp_right Or.inr
      · exact (ih flushed_mem).imp_right Or.inr

/-- A round that visits a session with something pending flushes it, from the cursor and with the
ledger of the round's start. -/
theorem exists_mem_flushesOf {settings : Settings} {session : SessionId} {state : State}
    (quiet : state.Quiet) (news : state.hasNews settings session = true) {order : List SessionId}
    (session_mem : session ∈ order) :
    ∃ flushed ∈ flushesOf settings session state order, flushed.ledger = state.ledger ∧
      flushed.registry.cursor? session = state.registry.cursor? session := by
  induction order generalizing state with
  | nil => cases session_mem
  | cons first rest ih =>
      by_cases own : session = first
      · subst own
        exact ⟨state, by simp [flushesOf, news], rfl, rfl⟩
      · have inRest : session ∈ rest := by simpa [own] using session_mem
        have still : (state.visited settings first).hasNews settings session = true := by
          rw [hasNews_visited_of_ne quiet own, news]
        rcases ih (quiet_visited quiet) still inRest with
          ⟨flushed, flushed_mem, ledger_eq, cursor_eq⟩
        refine ⟨flushed, ?_, ?_, ?_⟩
        · simpa [flushesOf, Ne.symm own] using flushed_mem
        · rw [ledger_eq, ledger_visited quiet]
        · rw [cursor_eq, cursor?_visited_of_ne quiet own]

end State

end Tombstone
