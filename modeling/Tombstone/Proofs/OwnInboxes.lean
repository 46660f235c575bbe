import Tombstone.Proofs.Locality
import Tombstone.Proofs.Runs

/-!
# Every session with its own receiving ends

If every session is connected to receiving ends of its own only, an action of another party is
addressed to one session, or to none: it names the session or one of the session's receiving ends.
What is addressed to one session makes no difference for another, and what it does for its own
session depends on nothing but what the session has: its entry, its connection and its receiving
ends.
-/

namespace Tombstone

namespace Transport

/-- Inboxes have no senders but their owners. -/
def Owned (owner : InboxName → SessionId) (transport : Transport) : Prop :=
  ∀ name inbox session, transport.inboxes.find? name = some inbox → inbox.sender = some session →
    owner name = session

section Owned

variable {owner : InboxName → SessionId} {transport : Transport}

theorem owned_empty (owner : InboxName → SessionId) : ({} : Transport).Owned owner :=
  fun _ _ _ found => nomatch found

/-- A connection leads to an inbox of its session's own. -/
theorem Owned.owner_eq (owned : transport.Owned owner) (paired : transport.Paired)
    {session : SessionId} {name : InboxName}
    (connection : transport.connections.find? session = some (some name)) :
    owner name = session := by
  rcases paired session name connection with ⟨inbox, inbox_found, sends⟩
  exact owned name inbox session inbox_found sends

theorem Owned.unregister (owned : transport.Owned owner) (session : SessionId) :
    (transport.unregister session).Owned owner := by
  intro name inbox sender found sends
  rw [inboxes_unregister] at found
  split at found
  · rcases Option.map_eq_some_iff.mp found with ⟨_, _, rfl⟩
    cases sends
  · exact owned name inbox sender found sends

theorem Owned.dropInbox (owned : transport.Owned owner) (dropped : InboxName) :
    (transport.dropInbox dropped).Owned owner := by
  intro name inbox sender found sends
  rw [inboxes_dropInbox] at found
  split at found
  · cases found
  · exact owned name inbox sender found sends

theorem Owned.register (owned : transport.Owned owner) {session : SessionId} {name : InboxName}
    (own : owner name = session) (capacity : Nat) :
    (transport.register session capacity name).Owned owner := by
  intro other inbox sender found sends
  simp only [Transport.register, Directory.find?_put] at found
  split at found
  · next same =>
      cases found
      cases sends
      rw [same, own]
  · exact (owned.unregister session).dropInbox name other inbox sender found sends

theorem Owned.adjust (owned : transport.Owned owner) (changed : InboxName) {change : Inbox → Inbox}
    (kept : ∀ inbox, (change inbox).sender = inbox.sender) :
    Owned owner { transport with inboxes := transport.inboxes.adjust changed change } := by
  intro name inbox sender found sends
  simp only [Directory.find?_adjust] at found
  split at found
  · rcases Option.map_eq_some_iff.mp found with ⟨earlier, earlier_found, rfl⟩
    exact owned name earlier sender earlier_found ((kept earlier).symm.trans sends)
  · exact owned name inbox sender found sends

theorem Owned.gained {after : Transport} {session : SessionId} {packets : List Bytes}
    (owned : transport.Owned owner) (gained : Gained transport after session packets) :
    after.Owned owner := by
  intro name inbox sender found sends
  by_cases leadsThere : transport.connections.find? session = some (some name)
  · rw [gained.target_eq name leadsThere] at found
    rcases Option.map_eq_some_iff.mp found with ⟨earlier, earlier_found, rfl⟩
    exact owned name earlier sender earlier_found sends
  · rw [gained.other_eq name leadsThere] at found
    exact owned name inbox sender found sends

end Owned

/-! ## What a session has of a transport -/

/-- Two transports have the same connection and the same receiving ends for a session. -/
structure Mirrors (owner : InboxName → SessionId) (session : SessionId) (left right : Transport) :
    Prop where
  connection_eq : left.connections.find? session = right.connections.find? session
  inbox_eq : ∀ name, owner name = session → left.inboxes.find? name = right.inboxes.find? name

section Mirrors

variable {owner : InboxName → SessionId} {session : SessionId} {left middle right : Transport}

theorem Mirrors.refl (owner : InboxName → SessionId) (session : SessionId)
    (transport : Transport) : Mirrors owner session transport transport :=
  ⟨rfl, fun _ _ => rfl⟩

theorem Mirrors.symm (mirrors : Mirrors owner session left right) :
    Mirrors owner session right left :=
  ⟨mirrors.connection_eq.symm, fun name own => (mirrors.inbox_eq name own).symm⟩

theorem Mirrors.trans (mirrors : Mirrors owner session left middle)
    (mirrorsLater : Mirrors owner session middle right) : Mirrors owner session left right :=
  ⟨mirrors.connection_eq.trans mirrorsLater.connection_eq,
    fun name own => (mirrors.inbox_eq name own).trans (mirrorsLater.inbox_eq name own)⟩

/-! What a session does with what it has comes to the same. -/

theorem Mirrors.unregister (mirrors : Mirrors owner session left right) :
    Mirrors owner session (left.unregister session) (right.unregister session) := by
  constructor
  · simp [connections_unregister]
  · intro name own
    rw [inboxes_unregister, inboxes_unregister, mirrors.connection_eq, mirrors.inbox_eq name own]

theorem Mirrors.dropInbox (mirrors : Mirrors owner session left right) {name : InboxName}
    (own : owner name = session) :
    Mirrors owner session (left.dropInbox name) (right.dropInbox name) := by
  constructor
  · rw [connections_dropInbox, connections_dropInbox, mirrors.inbox_eq name own,
      mirrors.connection_eq]
  · intro other ownOther
    rw [inboxes_dropInbox, inboxes_dropInbox, mirrors.inbox_eq other ownOther]

theorem Mirrors.register (mirrors : Mirrors owner session left right) {name : InboxName}
    (own : owner name = session) (capacity : Nat) :
    Mirrors owner session (left.register session capacity name)
      (right.register session capacity name) := by
  have cleared := mirrors.unregister.dropInbox own
  constructor
  · simp [Transport.register, Directory.find?_put]
  · intro other ownOther
    simp only [Transport.register, Directory.find?_put, cleared.inbox_eq other ownOther]

theorem Mirrors.adjust (mirrors : Mirrors owner session left right) (name : InboxName)
    (change : Inbox → Inbox) :
    Mirrors owner session { left with inboxes := left.inboxes.adjust name change }
      { right with inboxes := right.inboxes.adjust name change } := by
  refine ⟨mirrors.connection_eq, ?_⟩
  intro other own
  simp only [Directory.find?_adjust, mirrors.inbox_eq other own]

theorem Mirrors.gained {afterLeft afterRight : Transport} {packets : List Bytes}
    (mirrors : Mirrors owner session left right)
    (gainedLeft : Gained left afterLeft session packets)
    (gainedRight : Gained right afterRight session packets) :
    Mirrors owner session afterLeft afterRight := by
  constructor
  · rw [gainedLeft.connections_eq, gainedRight.connections_eq, mirrors.connection_eq]
  · intro name own
    by_cases leadsThere : left.connections.find? session = some (some name)
    · rw [gainedLeft.target_eq name leadsThere,
        gainedRight.target_eq name (mirrors.connection_eq ▸ leadsThere), mirrors.inbox_eq name own]
    · rw [gainedLeft.other_eq name leadsThere,
        gainedRight.other_eq name (mirrors.connection_eq ▸ leadsThere), mirrors.inbox_eq name own]

/-- Where a session's packets come out is told by what the session has. -/
theorem Mirrors.outlet_eq (mirrors : Mirrors owner session left right) (owned : left.Owned owner)
    (paired : left.Paired) : left.outlet session = right.outlet session := by
  simp only [outlet, ← mirrors.connection_eq]
  split
  · rfl
  · rfl
  · next name connection => rw [mirrors.inbox_eq name (owned.owner_eq paired connection)]

theorem Mirrors.queue_eq (mirrors : Mirrors owner session left right) (owned : left.Owned owner)
    (paired : left.Paired) : left.queue session = right.queue session := by
  simp only [queue, ← mirrors.connection_eq]
  split
  · next name connection =>
      rw [waiting, waiting, mirrors.inbox_eq name (owned.owner_eq paired connection)]
  · rfl

end Mirrors

/-! What another session does makes no difference. -/

section Frame

variable {owner : InboxName → SessionId} {session other : SessionId} {transport : Transport}

theorem mirrors_unregister_of_ne (owned : transport.Owned owner) (paired : transport.Paired)
    (different : session ≠ other) :
    Mirrors owner session (transport.unregister other) transport := by
  constructor
  · rw [connections_unregister, if_neg different]
  · rintro name rfl
    rw [inboxes_unregister, if_neg]
    intro connection
    exact different (owned.owner_eq paired connection)

theorem mirrors_dropInbox_of_ne (owned : transport.Owned owner) {name : InboxName}
    (different : session ≠ owner name) :
    Mirrors owner session (transport.dropInbox name) transport := by
  constructor
  · rw [connections_dropInbox, if_neg]
    intro sends
    rcases Option.bind_eq_some_iff.mp sends with ⟨inbox, inbox_found, sender_eq⟩
    exact different (owned name inbox session inbox_found sender_eq).symm
  · rintro target rfl
    rw [inboxes_dropInbox, if_neg]
    rintro rfl
    exact different rfl

theorem mirrors_register_of_ne (owned : transport.Owned owner) (paired : transport.Paired)
    {name : InboxName} (different : session ≠ owner name) (capacity : Nat) :
    Mirrors owner session (transport.register (owner name) capacity name) transport := by
  have cleared : Mirrors owner session ((transport.unregister (owner name)).dropInbox name)
      transport :=
    (mirrors_dropInbox_of_ne (owned.unregister _) different).trans
      (mirrors_unregister_of_ne owned paired different)
  refine Mirrors.trans ⟨?_, ?_⟩ cleared
  · simp [register, Directory.find?_put, different]
  · rintro target rfl
    have elsewhere : target ≠ name := by
      rintro rfl
      exact different rfl
    simp [register, Directory.find?_put, elsewhere]

theorem mirrors_adjust_of_ne {name : InboxName} (different : session ≠ owner name)
    (change : Inbox → Inbox) :
    Mirrors owner session { transport with inboxes := transport.inboxes.adjust name change }
      transport := by
  refine ⟨rfl, ?_⟩
  rintro target rfl
  have elsewhere : target ≠ name := by
    rintro rfl
    exact different rfl
  simp [Directory.find?_adjust, elsewhere]

theorem mirrors_gained_of_ne {after : Transport} {packets : List Bytes}
    (owned : transport.Owned owner) (paired : transport.Paired) (different : session ≠ other)
    (gained : Gained transport after other packets) : Mirrors owner session after transport := by
  constructor
  · rw [gained.connections_eq]
  · rintro name rfl
    apply gained.other_eq name
    intro connection
    exact different (owned.owner_eq paired connection)

end Frame

end Transport

end Tombstone
