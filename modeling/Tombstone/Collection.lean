import Tombstone.Ledger
import Tombstone.Watermark

/-!
# Collecting tombstones

A collection forgets the deletions before the watermark. When no session is connected, a policy
decides whether everything up to now is forgotten or retained for sessions to come.
-/

namespace Tombstone

/-- What becomes of the deletions when no session is connected. -/
inductive EmptyRegistryPolicy where
  /-- They are forgotten. -/
  | forgetAll
  /-- They are retained. -/
  | retainAll
  deriving DecidableEq, Repr, Inhabited

/-- Why a collection removed nothing without looking at single records. -/
inductive SkipReason where
  | emptyLedger
  /-- No session is connected, and the policy retains everything. -/
  | retainedWithoutSessions
  deriving DecidableEq, Repr

/-- What a collection did. -/
inductive CollectionOutcome where
  | skipped (reason : SkipReason)
  /-- It removed the records before the watermark. -/
  | pruned (watermark : Watermark) (removed remaining : Nat)
  deriving DecidableEq, Repr

namespace CollectionOutcome

def removed : CollectionOutcome → Nat
  | skipped _ => 0
  | pruned _ removed _ => removed

def watermark : CollectionOutcome → Option Watermark
  | skipped _ => none
  | pruned watermark _ _ => some watermark

end CollectionOutcome

/-- How tombstones are collected. -/
structure CollectionRules where
  /-- What becomes of the deletions when no session is connected. -/
  policy : EmptyRegistryPolicy := .forgetAll
  /-- The lag beyond which a session is reported as holding collection back. -/
  stallAfter : Duration := Duration.ofMillis 30000
  deriving DecidableEq, Repr

/-- Counts over the collections of one collector. -/
structure CollectionTally where
  ticks : Nat := 0
  /-- The number of collections that were skipped. -/
  skipped : Nat := 0
  recordsPruned : Nat := 0
  lastWatermark : Option Timestamp := none
  deriving DecidableEq, Repr, Inhabited

def CollectionTally.count (tally : CollectionTally) : CollectionOutcome → CollectionTally
  | .skipped _ => { tally with ticks := tally.ticks + 1, skipped := tally.skipped + 1 }
  | .pruned watermark removed _ =>
      { tally with
        ticks := tally.ticks + 1
        recordsPruned := tally.recordsPruned + removed
        lastWatermark := some watermark.value }

end Tombstone
