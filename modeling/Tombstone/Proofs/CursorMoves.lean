import Tombstone.Proofs.FlushEffect

/-!
# What moves a cursor

A cursor comes with its session and goes with it. In between it is moved by nothing but a successful
flush of its own session.
-/

namespace Tombstone

namespace Registry

theorem cursor?_adjust (registry : Registry) (key other : SessionId) (change : Session → Session) :
    Registry.cursor? (registry.adjust key change) other =
      if other = key then (registry.find? other).map fun session => (change session).cursor
      else registry.cursor? other := by
  rw [cursor?, Directory.find?_adjust]
  split
  · rw [Option.map_map]
    rfl
  · rfl

/-- Sequence numbers and accounts have nothing to do with cursors. -/
theorem cursor?_adjust_of_kept {registry : Registry} {key : SessionId} {change : Session → Session}
    (kept : ∀ session, (change session).cursor = session.cursor) (other : SessionId) :
    Registry.cursor? (registry.adjust key change) other = registry.cursor? other := by
  rw [cursor?_adjust]
  split
  · simp only [kept, cursor?]
  · rfl

theorem find?_attach (registry : Registry) (key other : SessionId) (now cursor : Timestamp) :
    (registry.attach key now cursor).find? other =
      if registry.isConnected key = false ∧ other = key then some { attachedAt := now, cursor }
      else registry.find? other := by
  by_cases known : registry.isConnected key = true
  · simp [attach, known]
  · simp [attach, known, Directory.find?_put]

theorem cursor?_attach (registry : Registry) (key other : SessionId) (now cursor : Timestamp) :
    (registry.attach key now cursor).cursor? other =
      if registry.isConnected key = false ∧ other = key then some cursor
      else registry.cursor? other := by
  rw [cursor?, find?_attach]
  split <;> rfl

/-- A session that is connected stays as it is when it is attached once more. -/
theorem cursor?_attach_of_connected {registry : Registry} {session : SessionId}
    (connected : registry.isConnected session = true) (key : SessionId) (now cursor : Timestamp) :
    (registry.attach key now cursor).cursor? session = registry.cursor? session := by
  rw [cursor?_attach, if_neg]
  rintro ⟨unknown, rfl⟩
  rw [connected] at unknown
  cases unknown

theorem distinct_attach {registry : Registry} (distinct : registry.Distinct) (key : SessionId)
    (now cursor : Timestamp) : Directory.Distinct (registry.attach key now cursor) := by
  rw [attach]
  split
  · exact distinct
  · exact distinct.put key _

theorem cursor?_detach (registry : Registry) (key other : SessionId) :
    (registry.detach key).cursor? other = if other = key then none else registry.cursor? other := by
  rw [detach, cursor?, Directory.find?_remove]
  split <;> rfl

theorem isConnected_iff_cursor? {registry : Registry} {session : SessionId} :
    registry.isConnected session = true ↔ ∃ cursor, registry.cursor? session = some cursor := by
  rw [isConnected, Directory.contains, Option.isSome_iff_exists, cursor?]
  simp only [Option.map_eq_some_iff]
  constructor
  · rintro ⟨entry, found⟩
    exact ⟨entry.cursor, entry, found, rfl⟩
  · rintro ⟨_, entry, found, _⟩
    exact ⟨entry, found⟩

theorem isConnected_iff_mem_ids {registry : Registry} {session : SessionId} :
    registry.isConnected session = true ↔ session ∈ registry.ids :=
  Directory.contains_iff_mem_keys

theorem map_fst_cursors (registry : Registry) : registry.cursors.map (·.1) = registry.ids :=
  List.map_map

theorem ids_eq_nil_iff {registry : Registry} : registry.ids = [] ↔ registry.cursors = [] := by
  rw [← map_fst_cursors, List.map_eq_nil_iff]

theorem mem_cursors_of_cursor? {registry : Registry} {session : SessionId} {cursor : Timestamp}
    (found : registry.cursor? session = some cursor) : (session, cursor) ∈ registry.cursors := by
  rcases Option.map_eq_some_iff.mp found with ⟨entry, entry_found, rfl⟩
  exact List.mem_map.mpr ⟨(session, entry), Directory.mem_entries_of_find? entry_found, rfl⟩

theorem mem_cursors_iff {registry : Registry} (distinct : registry.Distinct) {session : SessionId}
    {cursor : Timestamp} :
    (session, cursor) ∈ registry.cursors ↔ registry.cursor? session = some cursor := by
  refine ⟨fun visit_mem => ?_, mem_cursors_of_cursor?⟩
  rcases List.mem_map.mp visit_mem with ⟨entry, entry_mem, visit_eq⟩
  rcases Prod.mk.inj visit_eq with ⟨rfl, rfl⟩
  rw [cursor?, distinct.find?_of_mem_entries entry_mem, Option.map_some]

end Registry

namespace State

/-- Attaching a session changes at most the registry and the journal. -/
theorem attach_effect (state : State) (session : SessionId) (now cursor : Timestamp) :
    ∃ journal, state.attach session now cursor =
      { state with registry := state.registry.attach session now cursor, journal } := by
  by_cases known : state.registry.isConnected session = true
  · exact ⟨state.journal, by simp [attach, Registry.attach, known]⟩
  · rw [attach, if_neg known]
    exact ⟨_, rfl⟩

/-- Detaching a session changes at most the registry and the journal. -/
theorem detach_effect (state : State) (session : SessionId) :
    ∃ journal, state.detach session =
      { state with registry := state.registry.detach session, journal } := by
  by_cases known : state.registry.isConnected session = true
  · rw [detach, if_pos known]
    exact ⟨_, rfl⟩
  · have absent : state.registry.contains session = false := by
      simpa [Registry.isConnected] using known
    refine ⟨state.journal, ?_⟩
    rw [detach, if_neg known, Registry.detach, Directory.remove_of_absent absent]

theorem send_effect (state : State) (session : SessionId) (bytes : Bytes) :
    ∃ transport, (state.send session bytes).2 = { state with transport } := by
  simp only [send]
  split
  · exact ⟨_, rfl⟩
  · exact ⟨state.transport, rfl⟩

/-- No action of another party moves the cursor of a session that stays connected, unless it is one
of moving that cursor. -/
theorem cursor?_perform {state : State} {session : SessionId} {cursor : Timestamp}
    (found : state.registry.cursor? session = some cursor) {action : Action}
    (stays : (state.perform action).registry.isConnected session = true)
    (unmoved : ∀ time, action ≠ .moveCursor session time) :
    (state.perform action).registry.cursor? session = some cursor := by
  cases action with
  | moveCursor other time =>
      have different : session ≠ other := by
        rintro rfl
        exact unmoved time rfl
      simp [perform, Registry.moveCursor, Registry.cursor?_adjust, different, found]
  | attach other now start =>
      have connected := Registry.isConnected_iff_cursor?.mpr ⟨cursor, found⟩
      rcases attach_effect state other now start with ⟨journal, attach_eq⟩
      simp only [perform, attach_eq]
      rw [Registry.cursor?_attach_of_connected connected, found]
  | detach other =>
      rcases detach_effect state other with ⟨journal, detach_eq⟩
      rcases Registry.isConnected_iff_cursor?.mp stays with ⟨held, held_eq⟩
      simp only [perform, detach_eq, Registry.cursor?_detach] at held_eq ⊢
      split at held_eq
      · cases held_eq
      · next different => rw [if_neg different, found]
  | takeNumbers other count | account other packets bytes =>
      rw [← found]
      apply Registry.cursor?_adjust_of_kept
      intro entry
      rfl
  | send other bytes =>
      rcases send_effect state other bytes with ⟨transport, send_eq⟩
      simpa [perform, send_eq] using found
  | record | prune | setClock | advanceClock | register | unregister | dropInbox | closeInbox
  | receive | drain => exact found

theorem attach_connects {state : State} {session other : SessionId} {now start : Timestamp}
    (absent : state.registry.isConnected session = false)
    (connects : (state.attach other now start).registry.isConnected session = true) :
    other = session ∧ (state.attach other now start).registry.cursor? session = some start := by
  rcases attach_effect state other now start with ⟨journal, attach_eq⟩
  rw [attach_eq, Registry.isConnected_iff_cursor?] at connects
  rw [attach_eq]
  simp only [Registry.cursor?_attach] at connects ⊢
  split at connects
  · next attached =>
      rcases attached with ⟨fresh, rfl⟩
      exact ⟨rfl, by simp [fresh]⟩
  · rw [← Registry.isConnected_iff_cursor?, absent] at connects
    cases connects

/-- No action of another party connects a session, unless it is one of attaching that session. -/
theorem perform_connects {state : State} {session : SessionId} {action : Action}
    (absent : state.registry.isConnected session = false)
    (connects : (state.perform action).registry.isConnected session = true) :
    ∃ now start, action = .attach session now start ∧
      (state.perform action).registry.cursor? session = some start := by
  have kept : (state.perform action).registry.ids ≠ state.registry.ids := by
    intro same
    rw [Registry.isConnected_iff_mem_ids, same, ← Registry.isConnected_iff_mem_ids, absent]
      at connects
    cases connects
  cases action with
  | attach other now start =>
      rcases attach_connects absent connects with ⟨rfl, found⟩
      exact ⟨now, start, rfl, found⟩
  | detach other =>
      rcases detach_effect state other with ⟨journal, detach_eq⟩
      simp only [perform, detach_eq, Registry.isConnected_iff_cursor?,
        Registry.cursor?_detach] at connects
      split at connects
      · simp at connects
      · rw [← Registry.isConnected_iff_cursor?, absent] at connects
        cases connects
  | moveCursor other time => exact absurd (Directory.keys_adjust ..) kept
  | takeNumbers other count => exact absurd (Directory.keys_adjust ..) kept
  | account other packets bytes => exact absurd (Directory.keys_adjust ..) kept
  | send other bytes =>
      rcases send_effect state other bytes with ⟨transport, send_eq⟩
      simp [perform, send_eq] at kept
  | record | prune | setClock | advanceClock | register | unregister | dropInbox | closeInbox
  | receive | drain => exact absurd rfl kept

section Flush

variable {settings : Settings} {state : State} {session : SessionId}

/-- No flush changes the ledger. -/
theorem ledger_flush (quiet : state.Quiet) :
    (state.flush settings session).2.ledger = state.ledger := by
  cases connected : state.registry.find? session with
  | none => rw [flush_of_unknown connected]
  | some entry =>
      rcases flush_of_connected settings quiet connected with ⟨_, _, _, _, flush_eq⟩
      rw [flush_eq]

/-- A flush moves no cursor but that of its session. -/
theorem cursor?_flush_of_ne (quiet : state.Quiet) {other : SessionId}
    (different : other ≠ session) :
    (state.flush settings session).2.registry.cursor? other = state.registry.cursor? other := by
  cases connected : state.registry.find? session with
  | none => rw [flush_of_unknown connected]
  | some entry =>
      rcases flush_of_connected settings quiet connected with ⟨_, _, _, _, flush_eq⟩
      rw [flush_eq, Registry.cursor?_adjust, if_neg different]

/-- A flush that fails moves no cursor. -/
theorem cursor?_flush_of_error (quiet : state.Quiet) {error : FlushError}
    (failed : (state.flush settings session).1 = .error error) (other : SessionId) :
    (state.flush settings session).2.registry.cursor? other = state.registry.cursor? other := by
  cases connected : state.registry.find? session with
  | none => rw [flush_of_unknown connected]
  | some entry =>
      rcases flush_of_connected settings quiet connected with ⟨delivery, _, _, _, flush_eq⟩
      rw [flush_eq] at failed ⊢
      cases refusal : delivery.refusal with
      | none => simp [Delivery.result, refusal] at failed
      | some _ =>
          apply Registry.cursor?_adjust_of_kept
          intro entry
          simp [Session.cursor_afterFlush, refusal]

end Flush

end State

end Tombstone
