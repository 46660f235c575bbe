import Tombstone.Collection
import Tombstone.Dispatch

/-!
# The journal

Operations note in a journal what an operator may want to know. An event is shown as its level, its
message and its fields, each of which is a name with a text.
-/

namespace Tombstone

/-- How much an event matters. -/
inductive Level where
  | debug
  | warn
  deriving DecidableEq, Repr

/-- What an operator may want to know. -/
inductive Event where
  | attached (session : SessionId) (cursor : Timestamp)
  | detached (session : SessionId)
  /-- The source of a monotonic clock ran backwards. -/
  | clockHeld (observed held : Timestamp)
  /-- A session was told everything. -/
  | flushed (session : SessionId) (summary : FlushSummary)
  /-- A session was gone when its flush came to an end. -/
  | detachedDuringFlush (session : SessionId)
  /-- A flush in a dispatch round did not succeed. -/
  | flushFailed (session : SessionId) (error : FlushError)
  /-- A collection was skipped because no session is connected. -/
  | retained
  | stalled (laggard : Laggard)
  /-- A collection removed the records before the watermark. -/
  | pruned (watermark : Watermark) (removed remaining : Nat)
  | dispatchStopped
  | pruneStopped
  deriving DecidableEq, Repr

namespace Event

def level : Event → Level
  | flushFailed .. | stalled .. => .warn
  | _ => .debug

def message : Event → String
  | attached .. => "session attached"
  | detached .. => "session detached"
  | clockHeld .. => "clock went backwards, holding previous time"
  | flushed .. => "flushed deletions"
  | detachedDuringFlush .. => "session detached during flush"
  | flushFailed .. => "deletion flush failed"
  | retained => "no sessions connected, retaining tombstones"
  | stalled .. => "session is holding back tombstone collection"
  | pruned .. => "pruned tombstones"
  | dispatchStopped => "dispatch loop stopped"
  | pruneStopped => "prune loop stopped"

def fields : Event → List (String × String)
  | attached session cursor =>
      [("session", session.name), ("cursor", toString cursor.toNat)]
  | detached session => [("session", session.name)]
  | clockHeld observed held =>
      [("observed", toString observed.toNat), ("previous", toString held.toNat),
        ("regression_us", toString (held.since observed))]
  | flushed session summary =>
      [("session", session.name), ("ids", toString summary.idsSent),
        ("packets", toString summary.packetsSent), ("bytes", toString summary.bytesSent),
        ("cursor", toString summary.snapshot.toNat)]
  | detachedDuringFlush session => [("session", session.name)]
  | flushFailed session error => [("session", session.name), ("error", error.message)]
  | stalled laggard =>
      [("session", laggard.session.name), ("cursor", toString laggard.cursor.toNat),
        ("lag_ms", toString laggard.lag.millis)]
  | pruned watermark removed remaining =>
      [("watermark", toString watermark.value.toNat), ("sessions", toString watermark.sessions),
        ("removed", toString removed), ("remaining", toString remaining)]
  | retained | dispatchStopped | pruneStopped => []

end Event

end Tombstone
