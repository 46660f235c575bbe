import Tombstone.Duration
import Tombstone.Registry

/-!
# The watermark and the sessions that lag

Everything before the watermark has been told to every connected session, so it can be forgotten.
The watermark is the earliest cursor, but never later than the instant after now: what is stamped
later than that is nobody's business yet. Both the watermark and the report of lagging sessions take
the sessions in whatever order they are visited; among sessions with one cursor the least name
counts as the slowest.
-/

namespace Tombstone

/-- What bounds a watermark. -/
inductive WatermarkBound where
  /-- The slowest connected session. -/
  | session (id : SessionId)
  /-- Now, because every cursor is ahead of the clock. -/
  | now
  /-- Now, because no session is connected. -/
  | noSessions
  deriving DecidableEq, Repr

/-- The time before which everybody has been told everything. -/
structure Watermark where
  value : Timestamp
  bound : WatermarkBound
  /-- The number of sessions that were visited. -/
  sessions : Nat
  deriving DecidableEq, Repr

/-- A visited session with its cursor. -/
abbrev Visit := SessionId × Timestamp

/-- Whether the left session is behind the right one, by cursor and then by name. -/
def Visit.isSlower (left right : Visit) : Bool :=
  left.2 < right.2 || (left.2 = right.2 && left.1 < right.1)

/-- The slowest of the visited sessions, of which `best` is the slowest so far. -/
def slowest (best : Option Visit) : List Visit → Option Visit
  | [] => best
  | visit :: rest =>
      match best with
      | none => slowest (some visit) rest
      | some held => slowest (some (if visit.isSlower held then visit else held)) rest

namespace Watermark

/-- The latest that a watermark can be: the instant after now. -/
def cap (now : Timestamp) : Timestamp := now.advance 1

def ofVisits (visits : List Visit) (now : Timestamp) : Watermark :=
  match slowest none visits with
  | none => { value := cap now, bound := .noSessions, sessions := 0 }
  | some (id, cursor) =>
      if cap now < cursor then { value := cap now, bound := .now, sessions := visits.length }
      else { value := cursor, bound := .session id, sessions := visits.length }

/-- Whether no session bounds the watermark because none is connected. -/
def isUnattended (watermark : Watermark) : Bool := watermark.bound = .noSessions

def session? (watermark : Watermark) : Option SessionId :=
  match watermark.bound with
  | .session id => some id
  | .now | .noSessions => none

end Watermark

/-- A session whose cursor trails behind now. -/
structure Laggard where
  session : SessionId
  cursor : Timestamp
  /-- How far the cursor is behind now. -/
  lag : Duration
  deriving DecidableEq, Repr

/-- The visited sessions whose cursor is more than `threshold` behind now, slowest first. -/
def laggards (visits : List Visit) (now : Timestamp) (threshold : Duration) : List Laggard :=
  let late := visits.filter fun visit => threshold < Duration.ofMicros (now.since visit.2)
  (late.mergeSort fun left right => !right.isSlower left).map fun visit =>
    { session := visit.1, cursor := visit.2, lag := Duration.ofMicros (now.since visit.2) }

end Tombstone
