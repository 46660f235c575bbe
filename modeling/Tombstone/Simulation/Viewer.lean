import Std.Data.HashSet
import Tombstone.Service

/-!
# Viewers

A viewer is the far end of a session: it takes packets out of its inbox, which has the session's
name, and remembers which ids it was told since it was connected.
-/

namespace Tombstone

/-- The far end of a session. -/
structure Viewer where
  session : SessionId
  /-- The session is flushed in every tick that is a multiple of this number. -/
  pace : Nat
  /-- When the viewer was connected, while it is. -/
  attachedAt : Option Timestamp := none
  /-- The ids it was told since then. -/
  received : Std.HashSet EntityId := ∅

/-- The number of ids a viewer was told, and of those it had been told before. -/
structure Haul where
  delivered : Nat := 0
  /-- Those it had been told before. -/
  duplicates : Nat := 0
  deriving DecidableEq, Repr

namespace Viewer

/-- The session of the viewer at an index: a word, and the index with at least two digits. -/
def sessionId (word : String) (index : Nat) : SessionId :=
  ⟨word ++ (if index < 10 then "0" else "") ++ toString index⟩

/-- The number of packets that a viewer's inbox holds. -/
def inboxCapacity : Nat := 4096

def inbox (viewer : Viewer) : InboxName := viewer.session.name

def isConnected (viewer : Viewer) : Bool := viewer.attachedAt.isSome

/-- Attaches the viewer's session at a time and connects its inbox. -/
def connect (viewer : Viewer) (now : Timestamp) (service : Service) : Viewer × Service :=
  let attached := service.state.attach viewer.session now now
  let connected :=
    { attached with
      transport := attached.transport.register viewer.session inboxCapacity viewer.inbox }
  ({ viewer with attachedAt := some now, received := ∅ }, { service with state := connected })

/-- Detaches the viewer's session and takes its connection and its inbox away. -/
def disconnect (viewer : Viewer) (service : Service) : Viewer × Service :=
  let detached := service.state.detach viewer.session
  let disconnected :=
    { detached with
      transport := (detached.transport.unregister viewer.session).dropInbox viewer.inbox }
  ({ viewer with attachedAt := none }, { service with state := disconnected })

def hear (progress : Haul × Std.HashSet EntityId) (id : EntityId) : Haul × Std.HashSet EntityId :=
  let (haul, received) := progress
  ({ delivered := haul.delivered + 1
     duplicates := haul.duplicates + if received.contains id then 1 else 0 },
    received.insert id)

/-- The ids of the packets among byte strings. -/
def idsIn (packets : List Bytes) : List EntityId :=
  packets.flatMap fun bytes =>
    match Packet.ofBytes bytes with
    | .ok packet => packet.ids
    | .error _ => []

/-- Takes everything out of the viewer's inbox. -/
def drain (viewer : Viewer) (service : Service) : Haul × Viewer × Service :=
  let transport := service.state.transport
  let (haul, received) := (idsIn (transport.waiting viewer.inbox)).foldl hear ({}, viewer.received)
  (haul, { viewer with received },
    { service with
      state := { service.state with transport := transport.drain viewer.inbox } })

/-- The records among a log that the viewer should have been told since it was connected, and was
not. -/
def missed (viewer : Viewer) (log : List Record) : List Record :=
  match viewer.attachedAt with
  | none => []
  | some attachedAt =>
      log.filter fun record => attachedAt < record.deletedAt && !viewer.received.contains record.id

end Viewer

/-- Lets each viewer in turn act on what is shared. -/
def eachViewer {β : Type} (act : Viewer → β → Viewer × β) : List Viewer → β → List Viewer × β
  | [], shared => ([], shared)
  | viewer :: rest, shared =>
      let (viewer, shared) := act viewer shared
      let (rest, shared) := eachViewer act rest shared
      (viewer :: rest, shared)

end Tombstone
