import Tombstone.EntityId
import Tombstone.Timestamp

/-!
# The ledger of deletions

The ledger holds a record for every deletion that somebody may still have to be told about: which
entity, and when. Records are kept in buckets, one for each time of deletion, oldest first, and the
ids of a bucket are kept in ascending order. A pair of time and id is held at most once. The view
`Ledger.records` lists what is held in ascending order of time and id.
-/

namespace Tombstone

/-- The deletion of an entity. -/
structure Record where
  deletedAt : Timestamp
  id : EntityId
  deriving DecidableEq, Repr, Inhabited

/-- The entities deleted at one time. -/
structure Bucket where
  time : Timestamp
  /-- The deleted entities, in ascending order. -/
  ids : List EntityId
  deriving DecidableEq, Repr, Inhabited

def Bucket.records (bucket : Bucket) : List Record :=
  bucket.ids.map fun id => { deletedAt := bucket.time, id }

/-- The deletions that are remembered, with counts over the ledger's life. -/
structure Ledger where
  /-- One bucket for each time of deletion, oldest first. -/
  buckets : List Bucket := []
  size : Nat := 0
  totalRecorded : Nat := 0
  totalPruned : Nat := 0
  deriving DecidableEq, Repr, Inhabited

/-- The state of a ledger in numbers. -/
structure LedgerSummary where
  records : Nat
  /-- The number of different times of deletion. -/
  timestamps : Nat
  oldest : Option Timestamp
  /-- The latest time of deletion. -/
  newest : Option Timestamp
  totalRecorded : Nat
  totalPruned : Nat
  deriving DecidableEq, Repr

namespace Ledger

/-- Puts an id at its place among ascending ids. -/
def insertId (id : EntityId) : List EntityId → List EntityId
  | [] => [id]
  | first :: rest =>
      if id < first then id :: first :: rest
      else if id = first then first :: rest
      else first :: insertId id rest

/-- Puts an id into the bucket of its time, which is made if there is none. -/
def insertRecord (id : EntityId) (time : Timestamp) : List Bucket → List Bucket
  | [] => [{ time, ids := [id] }]
  | first :: rest =>
      if time < first.time then { time, ids := [id] } :: first :: rest
      else if time = first.time then { first with ids := insertId id first.ids } :: rest
      else first :: insertRecord id time rest

/-- Whether the deletion of `id` at `time` is held. -/
def holds (ledger : Ledger) (id : EntityId) (time : Timestamp) : Bool :=
  ledger.buckets.any fun bucket => bucket.time = time && bucket.ids.contains id

/-- Records that `id` was deleted at `time`. A pair that is held already changes nothing. -/
def record (ledger : Ledger) (id : EntityId) (time : Timestamp) : Ledger :=
  if ledger.holds id time then ledger
  else
    { ledger with
      buckets := insertRecord id time ledger.buckets
      size := ledger.size + 1
      totalRecorded := ledger.totalRecorded + 1 }

/-- Every record held, in ascending order of time and id. -/
def records (ledger : Ledger) : List Record := ledger.buckets.flatMap Bucket.records

/-- The buckets of deletions after `since`, oldest first. -/
def window (ledger : Ledger) (since : Timestamp) : List Bucket :=
  ledger.buckets.dropWhile fun bucket => bucket.time ≤ since

/-- The records of deletions after `since`, oldest first. -/
def recordsAfter (ledger : Ledger) (since : Timestamp) : List Record :=
  (ledger.window since).flatMap Bucket.records

/-- The entities deleted after `since`, oldest deletion first. -/
def idsAfter (ledger : Ledger) (since : Timestamp) : List EntityId :=
  (ledger.window since).flatMap Bucket.ids

/-- Whether anything was deleted after `since`. -/
def hasRecordAfter (ledger : Ledger) (since : Timestamp) : Bool := !(ledger.window since).isEmpty

/-- Whether there is a bucket at all. -/
def hasBucket (ledger : Ledger) : Bool := !ledger.buckets.isEmpty

/-- Whether the number of records held is zero. -/
def isEmpty (ledger : Ledger) : Bool := ledger.size = 0

/-- The number of records of deletions before `before`. -/
def countBefore (ledger : Ledger) (before : Timestamp) : Nat :=
  ((ledger.buckets.takeWhile fun bucket => bucket.time < before).flatMap Bucket.ids).length

/-- Forgets every deletion before `before`. -/
def prune (ledger : Ledger) (before : Timestamp) : Ledger :=
  { ledger with
    buckets := ledger.buckets.dropWhile fun bucket => bucket.time < before
    size := ledger.size - ledger.countBefore before
    totalPruned := ledger.totalPruned + ledger.countBefore before }

/-- The number of different times of deletion. -/
def timestamps (ledger : Ledger) : Nat := ledger.buckets.length

def oldest (ledger : Ledger) : Option Timestamp := ledger.buckets.head?.map (·.time)

/-- The latest time of deletion. -/
def newest (ledger : Ledger) : Option Timestamp := ledger.buckets.getLast?.map (·.time)

/-- The state of the ledger in numbers. -/
def summary (ledger : Ledger) : LedgerSummary :=
  { records := ledger.size
    timestamps := ledger.timestamps
    oldest := ledger.oldest
    newest := ledger.newest
    totalRecorded := ledger.totalRecorded
    totalPruned := ledger.totalPruned }

end Ledger

end Tombstone
