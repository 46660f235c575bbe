import Tombstone.Proofs.CursorMoves

/-!
# What becomes of a queue

The queue of a session gets longer only by packets that are handed over to the session. Whatever
else is done with connections and receiving ends takes packets from its front, or all of them.
-/

namespace Tombstone

namespace Transport

section Queue

variable {before after transport : Transport} {session : SessionId}

theorem queue_eq_nil_or_leads (transport : Transport) (session : SessionId) :
    transport.queue session = [] ∨ ∃ name inbox, transport.Leads session name inbox := by
  cases connection : transport.connections.find? session with
  | none => simp [queue, connection]
  | some place =>
      cases place with
      | none => simp [queue, connection]
      | some name =>
          cases inbox_found : transport.inboxes.find? name with
          | none => simp [queue, waiting, connection, inbox_found]
          | some inbox => exact Or.inr ⟨name, inbox, connection, inbox_found⟩

/-- A connection that leads to an empty inbox, or where it led before and fewer packets wait, has
lost packets at most from the front of its queue. -/
theorem queue_suffix (kept : ∀ name inbox, after.Leads session name inbox →
    inbox.waiting = [] ∨
      ∃ earlier, before.Leads session name earlier ∧ inbox.waiting <:+ earlier.waiting) :
    after.queue session <:+ before.queue session := by
  rcases after.queue_eq_nil_or_leads session with empty | ⟨name, inbox, leads⟩
  · rw [empty]
    exact List.nil_suffix
  · rw [leads.queue_eq]
    rcases kept name inbox leads with empty | ⟨earlier, leadsEarlier, suffix⟩
    · rw [empty]
      exact List.nil_suffix
    · rwa [leadsEarlier.queue_eq]

theorem queue_adjust_suffix (transport : Transport) (name : InboxName) {change : Inbox → Inbox}
    (shrinks : ∀ inbox, (change inbox).waiting <:+ inbox.waiting) (session : SessionId) :
    queue { transport with inboxes := transport.inboxes.adjust name change } session <:+
      transport.queue session := by
  apply queue_suffix
  rintro other inbox ⟨connection, inbox_found⟩
  right
  rw [Directory.find?_adjust] at inbox_found
  split at inbox_found
  · rcases Option.map_eq_some_iff.mp inbox_found with ⟨earlier, earlier_found, rfl⟩
    exact ⟨earlier, ⟨connection, earlier_found⟩, shrinks earlier⟩
  · exact ⟨inbox, ⟨connection, inbox_found⟩, List.suffix_rfl⟩

theorem queue_unregister_suffix (transport : Transport) (other session : SessionId) :
    (transport.unregister other).queue session <:+ transport.queue session := by
  apply queue_suffix
  rintro name inbox ⟨connection, inbox_found⟩
  rw [connections_unregister] at connection
  rw [inboxes_unregister] at inbox_found
  split at connection
  · cases connection
  · right
    split at inbox_found
    · rcases Option.map_eq_some_iff.mp inbox_found with ⟨earlier, earlier_found, rfl⟩
      exact ⟨earlier, ⟨connection, earlier_found⟩, List.suffix_rfl⟩
    · exact ⟨inbox, ⟨connection, inbox_found⟩, List.suffix_rfl⟩

theorem queue_dropInbox_suffix (transport : Transport) (name : InboxName) (session : SessionId) :
    (transport.dropInbox name).queue session <:+ transport.queue session := by
  apply queue_suffix
  rintro target inbox ⟨connection, inbox_found⟩
  rw [connections_dropInbox] at connection
  rw [inboxes_dropInbox] at inbox_found
  split at connection
  · cases connection
  · split at inbox_found
    · cases inbox_found
    · exact Or.inr ⟨inbox, ⟨connection, inbox_found⟩, List.suffix_rfl⟩

/-- A new connection starts with an empty queue. -/
theorem queue_register_suffix (transport : Transport) (other session : SessionId) (capacity : Nat)
    (name : InboxName) :
    (transport.register other capacity name).queue session <:+ transport.queue session := by
  let cleared := (transport.unregister other).dropInbox name
  have cleared_suffix : cleared.queue session <:+ transport.queue session :=
    (queue_dropInbox_suffix _ name session).trans (queue_unregister_suffix transport other session)
  refine List.IsSuffix.trans (queue_suffix ?_) cleared_suffix
  rintro target inbox ⟨connection, inbox_found⟩
  simp only [register, Directory.find?_put] at connection inbox_found
  split at inbox_found
  · cases inbox_found
    exact Or.inl rfl
  · next elsewhere =>
      split at connection
      · cases connection
        exact absurd rfl elsewhere
      · exact Or.inr ⟨inbox, ⟨connection, inbox_found⟩, List.suffix_rfl⟩

end Queue

end Transport

namespace State

variable {state : State} {session : SessionId}

/-- Others make a queue longer only by handing packets over. -/
theorem queue_perform_suffix {action : Action}
    (unsent : ∀ other bytes, action ≠ .send other bytes) :
    (state.perform action).transport.queue session <:+ state.transport.queue session := by
  cases action with
  | send other bytes => exact absurd rfl (unsent other bytes)
  | register other capacity name =>
      exact Transport.queue_register_suffix _ other session capacity name
  | unregister other => exact Transport.queue_unregister_suffix _ other session
  | dropInbox name => exact Transport.queue_dropInbox_suffix _ name session
  | closeInbox name =>
      exact Transport.queue_adjust_suffix _ name (by intro _; exact List.suffix_rfl) session
  | receive name =>
      exact Transport.queue_adjust_suffix _ name (fun inbox => inbox.waiting.tail_suffix) session
  | drain name =>
      exact Transport.queue_adjust_suffix _ name (fun _ => List.nil_suffix) session
  | attach other now cursor =>
      rcases attach_effect state other now cursor with ⟨journal, attach_eq⟩
      simp [perform, attach_eq]
  | detach other =>
      rcases detach_effect state other with ⟨journal, detach_eq⟩
      simp [perform, detach_eq]
  | record | prune | moveCursor | takeNumbers | account | setClock | advanceClock =>
      exact List.suffix_rfl

theorem queue_prefix_send (state : State) (other : SessionId) (bytes : Bytes)
    (session : SessionId) :
    state.transport.queue session <+: (state.send other bytes).2.transport.queue session := by
  rw [send]
  cases sent : state.transport.send other bytes with
  | error error => exact List.prefix_rfl
  | ok after =>
      rcases Transport.send_eq_ok sent with ⟨gained, _⟩
      exact gained.queue_prefix session

end State

end Tombstone
