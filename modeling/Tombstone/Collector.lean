import Tombstone.State

/-!
# Collectors

A collector removes from the ledger what lies before the watermark. It looks at the ledger first and
leaves the clock alone when nothing is held; then it reads the clock and visits the connected
sessions. Any number of collectors may share a ledger; each counts what it did.
-/

namespace Tombstone

/-- A collector of tombstones. -/
structure Collector where
  rules : CollectionRules := {}
  tally : CollectionTally := {}
  deriving DecidableEq, Repr

namespace State

def watermark (state : State) : Watermark × State :=
  let (now, state) := state.readClock
  (Watermark.ofVisits state.registry.cursors now, state)

/-- The connected sessions that lag more than `threshold` behind the clock's time. -/
def laggards (state : State) (threshold : Duration) : List Laggard × State :=
  let (now, state) := state.readClock
  (Tombstone.laggards state.registry.cursors now threshold, state)

/-- Removes the records before a watermark. -/
def pruneAt (state : State) (watermark : Watermark) : CollectionOutcome × State :=
  let outcome : CollectionOutcome :=
    .pruned watermark (state.ledger.countBefore watermark.value)
      (state.ledger.prune watermark.value).size
  let pruned := { state with ledger := state.ledger.prune watermark.value }
  (outcome, pruned.note (.pruned watermark outcome.removed pruned.ledger.size))

/-- Removes what nobody has to be told any more. -/
def collect (rules : CollectionRules) (state : State) : CollectionOutcome × State :=
  if state.ledger.hasBucket then
    let (now, state) := state.readClock
    let watermark := Watermark.ofVisits state.registry.cursors now
    if watermark.isUnattended && rules.policy = .retainAll then
      (.skipped .retainedWithoutSessions, state.note .retained)
    else
      let late := Tombstone.laggards state.registry.cursors now rules.stallAfter
      let warned := late.foldl (fun state laggard => state.note (.stalled laggard)) state
      warned.pruneAt watermark
  else (.skipped .emptyLedger, state)

end State

namespace Collector

def tick (collector : Collector) (state : State) : CollectionOutcome × Collector × State :=
  let (outcome, state) := state.collect collector.rules
  (outcome, { collector with tally := collector.tally.count outcome }, state)

end Collector

end Tombstone
