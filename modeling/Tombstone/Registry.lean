import Tombstone.Directory
import Tombstone.Timestamp

/-!
# Sessions and their registry

A session's cursor is the time up to which the session has been told about deletions. The registry
holds the connected sessions in the order in which they were attached. A cursor never moves back;
it is dropped when its session is detached.
-/

namespace Tombstone

/-- The name of a session. Names are ordered by their characters. -/
structure SessionId where
  name : String
  deriving DecidableEq, Hashable, Repr, Inhabited

instance : LT SessionId := ⟨fun left right => left.name < right.name⟩

instance (left right : SessionId) : Decidable (left < right) :=
  inferInstanceAs (Decidable (left.name < right.name))

/-- What is known about a connected session. -/
structure Session where
  attachedAt : Timestamp
  /-- The time up to which the session has been told about deletions. -/
  cursor : Timestamp
  /-- The number of the next packet to be built; after the last 16-bit number comes zero. -/
  sequence : UInt16 := 0
  /-- The number of packets handed over, counted in 64 bits. -/
  packetsSent : UInt64 := 0
  /-- The number of bytes handed over, counted in 64 bits. -/
  bytesSent : UInt64 := 0
  deriving DecidableEq, Repr, Inhabited

namespace Session

/-- Moves the cursor forward; an earlier time leaves it where it is. -/
def moveCursor (session : Session) (cursor : Timestamp) : Session :=
  { session with cursor := max session.cursor cursor }

/-- Takes `count` sequence numbers. -/
def takeNumbers (session : Session) (count : Nat) : Session :=
  { session with sequence := session.sequence + UInt16.ofNat count }

/-- Accounts for packets that were handed over. -/
def account (session : Session) (packets bytes : UInt64) : Session :=
  { session with
    packetsSent := session.packetsSent + packets
    bytesSent := session.bytesSent + bytes }

end Session

/-- The connected sessions under their names. -/
abbrev Registry := Directory SessionId Session

namespace Registry

def isConnected (registry : Registry) (id : SessionId) : Bool := registry.contains id

def cursor? (registry : Registry) (id : SessionId) : Option Timestamp :=
  (registry.find? id).map (·.cursor)

/-- Adds a session that was attached at `now` and knows of deletions up to `cursor`. A session that
is connected already stays as it is. -/
def attach (registry : Registry) (id : SessionId) (now cursor : Timestamp) : Registry :=
  if registry.isConnected id then registry
  else registry.put id { attachedAt := now, cursor }

def detach (registry : Registry) (id : SessionId) : Registry := registry.remove id

def moveCursor (registry : Registry) (id : SessionId) (cursor : Timestamp) : Registry :=
  registry.adjust id (·.moveCursor cursor)

/-- The numbers that the next packets of a session get: counted up from the session's next number,
and all zero if the session is not connected. -/
def numbers (registry : Registry) (id : SessionId) (index : Nat) : UInt16 :=
  match registry.find? id with
  | some session => session.sequence + UInt16.ofNat index
  | none => 0

/-- Takes `count` sequence numbers of a session. -/
def takeNumbers (registry : Registry) (id : SessionId) (count : Nat) : Registry :=
  registry.adjust id (·.takeNumbers count)

/-- Accounts for packets that were handed over to a session's connection. -/
def account (registry : Registry) (id : SessionId) (packets bytes : UInt64) : Registry :=
  registry.adjust id (·.account packets bytes)

/-- The names of the connected sessions, in the order in which they were attached. -/
def ids (registry : Registry) : List SessionId := registry.keys

/-- Each connected session's name and cursor, in the order in which they were attached. -/
def cursors (registry : Registry) : List (SessionId × Timestamp) :=
  registry.entries.map fun entry => (entry.1, entry.2.cursor)

end Registry

end Tombstone
