import Tombstone.Bytes
import Tombstone.Registry

/-!
# Handing packets over

Each session may have one connection, which leads to an inbox of bounded capacity. The receiving
ends are known by name. Handing a packet over never waits: it is refused when the session has no
connection, when the receiving end is closed or gone, and when the inbox is full, in this order.
What waits in an inbox stays receivable when the connection is taken away or made anew.
-/

namespace Tombstone

/-- The name of a receiving end. -/
abbrev InboxName := String

/-- A receiving end with the packets that wait in it. -/
structure Inbox where
  /-- The largest number of packets that may wait. -/
  capacity : Nat
  /-- The packets that wait, in the order in which they came. -/
  waiting : List Bytes := []
  /-- Whether the receiving end refuses further packets. -/
  closed : Bool := false
  /-- The session whose connection leads here; none when that connection is gone. -/
  sender : Option SessionId
  deriving DecidableEq, Repr

/-- The largest number of packets that an inbox can be made for. -/
def Inbox.largestCapacity : Nat := UInt64.size / 8 - 1

/-- Why a packet was not handed over. -/
inductive SendError where
  | unknownSession (session : SessionId)
  | queueFull (session : SessionId)
  /-- The receiving end is closed or gone. -/
  | closed (session : SessionId)
  deriving DecidableEq, Repr

def SendError.message : SendError → String
  | unknownSession session => "No connection registered for session " ++ session.name
  | queueFull session => "Outbound queue for session " ++ session.name ++ " is full"
  | closed session => "Connection for session " ++ session.name ++ " is closed"

/-- What a receiving end gives. -/
inductive Received where
  /-- The packet that has waited longest. -/
  | packet (bytes : Bytes)
  /-- Nothing waits yet. -/
  | empty
  /-- Nothing waits, and nothing can come. -/
  | disconnected
  deriving DecidableEq, Repr

/-- The connections and the receiving ends. -/
structure Transport where
  /-- Where the connection of each session leads; nowhere when the receiving end is gone. -/
  connections : Directory SessionId (Option InboxName) := {}
  inboxes : Directory InboxName Inbox := {}
  deriving DecidableEq, Repr, Inhabited

namespace Transport

def isRegistered (transport : Transport) (session : SessionId) : Bool :=
  transport.connections.contains session

/-- Takes the connection of a session away. The inbox keeps what waits in it. -/
def unregister (transport : Transport) (session : SessionId) : Transport :=
  match transport.connections.find? session with
  | none => transport
  | some target =>
      { connections := transport.connections.remove session
        inboxes := match target with
          | none => transport.inboxes
          | some name => transport.inboxes.adjust name fun inbox => { inbox with sender := none } }

/-- Drops a receiving end with all that waits in it. -/
def dropInbox (transport : Transport) (name : InboxName) : Transport :=
  match transport.inboxes.find? name with
  | none => transport
  | some inbox =>
      { connections := match inbox.sender with
          | none => transport.connections
          | some session => transport.connections.put session none
        inboxes := transport.inboxes.remove name }

/-- Lets a receiving end refuse further packets. -/
def closeInbox (transport : Transport) (name : InboxName) : Transport :=
  { transport with
    inboxes := transport.inboxes.adjust name fun inbox => { inbox with closed := true } }

/-- Connects a session to a new inbox for `capacity` packets, at least one; callers ask for no more
than `Inbox.largestCapacity`. An earlier connection of the session is taken away, and an earlier
receiving end of that name is dropped. -/
def register (transport : Transport) (session : SessionId) (capacity : Nat) (name : InboxName) :
    Transport :=
  let cleared := (transport.unregister session).dropInbox name
  { connections := cleared.connections.put session (some name)
    inboxes := cleared.inboxes.put name { capacity := max capacity 1, sender := some session } }

/-- Hands a packet over to the connection of a session. -/
def send (transport : Transport) (session : SessionId) (bytes : Bytes) :
    Except SendError Transport :=
  match transport.connections.find? session with
  | none => .error (.unknownSession session)
  | some none => .error (.closed session)
  | some (some name) =>
      match transport.inboxes.find? name with
      | none => .error (.closed session)
      | some inbox =>
          if inbox.closed then .error (.closed session)
          else if inbox.capacity ≤ inbox.waiting.length then .error (.queueFull session)
          else
            .ok
              { transport with
                inboxes := transport.inboxes.put name
                  { inbox with waiting := inbox.waiting ++ [bytes] } }

/-- What the receiving end of a name gives next. -/
def peek (transport : Transport) (name : InboxName) : Received :=
  match transport.inboxes.find? name with
  | none => .disconnected
  | some inbox =>
      match inbox.waiting with
      | bytes :: _ => .packet bytes
      | [] => if inbox.closed || inbox.sender.isNone then .disconnected else .empty

/-- Takes the packet that has waited longest. -/
def receive (transport : Transport) (name : InboxName) : Transport :=
  { transport with
    inboxes := transport.inboxes.adjust name fun inbox =>
      { inbox with waiting := inbox.waiting.tail } }

/-- The packets that wait at a receiving end, in the order in which they came. -/
def waiting (transport : Transport) (name : InboxName) : List Bytes :=
  match transport.inboxes.find? name with
  | none => []
  | some inbox => inbox.waiting

def drain (transport : Transport) (name : InboxName) : Transport :=
  { transport with
    inboxes := transport.inboxes.adjust name fun inbox => { inbox with waiting := [] } }

end Transport

end Tombstone
