import Tombstone.Simulation.Extent
import Tombstone.Simulation.Viewer

/-!
# Live runs

A live run lets the background loops of a service do the work while time passes millisecond by
millisecond. In each millisecond a number of deletions is recorded; the viewers take their packets
as they come. At the end the loops are given four more dispatch periods, a last round is dispatched,
and what the viewers were told is compared with what was recorded.
-/

namespace Tombstone.LiveRun

/-- What a live run is run with. -/
structure Plan where
  sessions : Nat
  /-- The number of milliseconds in which deletions are recorded. -/
  duration : Nat
  /-- The number of deletions in each of them. -/
  deletionsPerMilli : Nat
  deriving DecidableEq, Repr

/-- Whether there can be a place for each viewer. -/
def Plan.fits (plan : Plan) : Bool := Extent.fits Extent.wordBytes plan.sessions

/-- What a live run reports. -/
structure Report where
  sessions : Nat
  deletionsRecorded : Nat
  /-- The least number of different ids that a viewer was told; zero if there is no viewer. -/
  minReceived : Nat
  /-- The number of records removed by collections. -/
  recordsPruned : Nat
  ledgerRemaining : Nat
  /-- The number of deletions that viewers were not told. -/
  missing : Nat
  deriving DecidableEq, Repr

/-- Whether every viewer was told everything. -/
def Report.isComplete (report : Report) : Bool := report.missing = 0

/-- The time at which live runs start. -/
def startTime : Timestamp := Timestamp.ofNat 1000000

/-- The viewers, none of them connected yet. -/
def viewers (count : Nat) : List Viewer :=
  (List.range count).map fun index =>
    { session := Viewer.sessionId "live-" index, pace := 1 }

/-- A service with its viewers and the ids of the deletions recorded. -/
structure Stage where
  service : Service
  viewers : List Viewer
  /-- The ids recorded, the latest first. -/
  recorded : List EntityId := []

/-- Lets every viewer take what waits for it. -/
def drain (stage : Stage) : Stage :=
  let (viewers, service) :=
    eachViewer (fun viewer service => (viewer.drain service).2) stage.viewers stage.service
  { stage with viewers, service }

/-- Records deletions of ids not used before. -/
def recordDeletions : Nat → Stage → Stage
  | 0, stage => stage
  | count + 1, stage =>
      let id := EntityId.ofNat (stage.recorded.length + 1)
      recordDeletions count
        { stage with
          service := (stage.service.recordNow id).2
          recorded := id :: stage.recorded }

/-- Runs a millisecond. -/
def runMilli (plan : Plan) (stage : Stage) : Stage :=
  let recorded := recordDeletions plan.deletionsPerMilli stage
  drain { recorded with service := recorded.service.sleep 1 }

/-- Lets the loops come to rest, and dispatches a last round. -/
def finish (stage : Stage) : Stage :=
  let rested := drain
    { stage with service := stage.service.sleep (4 * stage.service.settings.dispatchInterval) }
  drain { rested with service := rested.service.stopLoops.flushAll.2 }

/-- What a live run reports at its end. -/
def report (plan : Plan) (stage : Stage) : Report :=
  { sessions := plan.sessions
    deletionsRecorded := stage.recorded.length
    minReceived := (stage.viewers.map (·.received.size)).min?.getD 0
    recordsPruned := stage.service.collector.tally.recordsPruned
    ledgerRemaining := stage.service.state.ledger.size
    missing := (stage.viewers.flatMap fun viewer =>
      stage.recorded.filter fun id => !viewer.received.contains id).length }

/-- Runs a live run with validated settings. -/
def runWith (plan : Plan) (settings : Settings) : Report :=
  let service := Service.start settings (Clock.manual .running startTime)
  let (viewers, service) := eachViewer (·.connect startTime) (viewers plan.sessions) service
  let started : Stage := { service := service.spawn .standard, viewers }
  let worked := (List.range plan.duration).foldl (fun stage _ => runMilli plan stage) started
  report plan (finish worked)

/-- Runs a live run with a configuration. -/
def run (plan : Plan) (config : Config) : Except RunError Report := do
  let settings ← config.check.mapError .config
  if plan.fits then return runWith plan settings else throw .tooLarge

end Tombstone.LiveRun
