import Tombstone.Proofs.Handover

/-!
# One sender for each inbox

A connection leads to an inbox that has the session of the connection as its sender. So no two
connections lead to one inbox, and what is handed over to a session comes to stand in no other
session's queue. This holds at the start and is kept by whatever is done with connections and
inboxes.
-/

namespace Tombstone

namespace Transport

section Effects

variable (transport : Transport)

theorem connections_unregister (session other : SessionId) :
    (transport.unregister session).connections.find? other =
      if other = session then none else transport.connections.find? other := by
  cases connected : transport.connections.find? session with
  | none =>
      simp only [unregister, connected]
      split
      · next same => rw [same, connected]
      · rfl
  | some place => simp [unregister, connected, Directory.find?_remove]

/-- The inbox to which the connection led has no sender any more. -/
theorem inboxes_unregister (session : SessionId) (name : InboxName) :
    (transport.unregister session).inboxes.find? name =
      if transport.connections.find? session = some (some name) then
        (transport.inboxes.find? name).map fun inbox => { inbox with sender := none }
      else transport.inboxes.find? name := by
  cases connected : transport.connections.find? session with
  | none => simp [unregister, connected]
  | some place =>
      cases place with
      | none => simp [unregister, connected]
      | some target => simp [unregister, connected, Directory.find?_adjust, eq_comm]

/-- The connection that led to a dropped inbox leads nowhere. -/
theorem connections_dropInbox (name : InboxName) (session : SessionId) :
    (transport.dropInbox name).connections.find? session =
      if (transport.inboxes.find? name).bind (·.sender) = some session then some none
      else transport.connections.find? session := by
  cases dropped : transport.inboxes.find? name with
  | none => simp [dropInbox, dropped]
  | some gone =>
      cases sender : gone.sender with
      | none => simp [dropInbox, dropped, sender]
      | some other => simp [dropInbox, dropped, sender, Directory.find?_put, eq_comm]

theorem inboxes_dropInbox (name other : InboxName) :
    (transport.dropInbox name).inboxes.find? other =
      if other = name then none else transport.inboxes.find? other := by
  cases dropped : transport.inboxes.find? name with
  | none =>
      simp only [dropInbox, dropped]
      split
      · next same => rw [same, dropped]
      · rfl
  | some gone => simp [dropInbox, dropped, Directory.find?_remove]

end Effects

/-- Where a connection leads, there is an inbox that has its session as the sender. -/
def Paired (transport : Transport) : Prop :=
  ∀ session name, transport.connections.find? session = some (some name) →
    ∃ inbox, transport.inboxes.find? name = some inbox ∧ inbox.sender = some session

theorem paired_empty : ({} : Transport).Paired := fun _ _ connection => nomatch connection

section Preservation

variable {transport : Transport}

theorem Paired.eq_of_shared (paired : transport.Paired) {left right : SessionId} {name : InboxName}
    (leftLeads : transport.connections.find? left = some (some name))
    (rightLeads : transport.connections.find? right = some (some name)) : left = right := by
  rcases paired left name leftLeads with ⟨inbox, inbox_found, left_sends⟩
  rcases paired right name rightLeads with ⟨same, same_found, right_sends⟩
  rw [inbox_found] at same_found
  cases same_found
  exact Option.some.inj (left_sends.symm.trans right_sends)

/-- Inboxes may change in any way that keeps their senders. -/
theorem Paired.adjust (paired : transport.Paired) (name : InboxName) {change : Inbox → Inbox}
    (kept : ∀ inbox, (change inbox).sender = inbox.sender) :
    Paired { transport with inboxes := transport.inboxes.adjust name change } := by
  intro session target connection
  rcases paired session target connection with ⟨inbox, inbox_found, sends⟩
  simp only [Directory.find?_adjust]
  split
  · exact ⟨change inbox, by rw [inbox_found, Option.map_some], (kept inbox).trans sends⟩
  · exact ⟨inbox, inbox_found, sends⟩

theorem Paired.unregister (paired : transport.Paired) (session : SessionId) :
    (transport.unregister session).Paired := by
  intro other target connection
  rw [connections_unregister] at connection
  split at connection
  · cases connection
  · next different =>
      rcases paired other target connection with ⟨inbox, inbox_found, sends⟩
      refine ⟨inbox, ?_, sends⟩
      rw [inboxes_unregister, if_neg, inbox_found]
      intro led
      exact different (paired.eq_of_shared connection led)

theorem Paired.dropInbox (paired : transport.Paired) (name : InboxName) :
    (transport.dropInbox name).Paired := by
  intro other target connection
  rw [connections_dropInbox] at connection
  split at connection
  · cases connection
  · next elsewhere =>
      rcases paired other target connection with ⟨inbox, inbox_found, sends⟩
      refine ⟨inbox, ?_, sends⟩
      rw [inboxes_dropInbox, if_neg, inbox_found]
      -- The one connection that led to the inbox leads nowhere now.
      rintro rfl
      exact elsewhere (Option.bind_eq_some_iff.mpr ⟨inbox, inbox_found, sends⟩)

theorem Paired.register (paired : transport.Paired) (session : SessionId) (capacity : Nat)
    (name : InboxName) : (transport.register session capacity name).Paired := by
  have cleared := (paired.unregister session).dropInbox name
  have vacated : ((transport.unregister session).dropInbox name).inboxes.find? name = none := by
    rw [inboxes_dropInbox, if_pos rfl]
  intro other target connection
  simp only [Transport.register, Directory.find?_put] at connection ⊢
  split at connection
  · next same =>
      cases connection
      exact ⟨_, if_pos rfl, congrArg some same.symm⟩
  · rcases cleared other target connection with ⟨inbox, inbox_found, sends⟩
    have elsewhere : target ≠ name := by
      rintro rfl
      rw [vacated] at inbox_found
      cases inbox_found
    exact ⟨inbox, by rw [if_neg elsewhere, inbox_found], sends⟩

theorem Paired.gained {after : Transport} {session : SessionId} {packets : List Bytes}
    (paired : transport.Paired) (gained : Gained transport after session packets) :
    after.Paired := by
  intro other target connection
  rw [gained.connections_eq] at connection
  rcases paired other target connection with ⟨inbox, inbox_found, sends⟩
  by_cases leadsThere : transport.connections.find? session = some (some target)
  · exact ⟨inbox.push packets, by rw [gained.target_eq target leadsThere, inbox_found]; rfl, sends⟩
  · exact ⟨inbox, by rw [gained.other_eq target leadsThere, inbox_found], sends⟩

/-- What is handed over to a session comes to stand in no other session's queue. -/
theorem Gained.queue_of_ne {after : Transport} {session other : SessionId} {packets : List Bytes}
    (gained : Gained transport after session packets) (paired : transport.Paired)
    (different : other ≠ session) : after.queue other = transport.queue other := by
  rw [queue, queue, gained.connections_eq]
  split
  · next name connection =>
      have elsewhere : transport.connections.find? session ≠ some (some name) := fun leadsThere =>
        different (paired.eq_of_shared connection leadsThere)
      rw [waiting, waiting, gained.other_eq name elsewhere]
  · rfl

end Preservation

end Transport

end Tombstone
