import Tombstone.Simulation.Extent
import Tombstone.Simulation.Generator
import Tombstone.Simulation.Viewer

/-!
# Simulations

A simulation runs a service on a hand-driven clock for a number of ticks. Deletions are spread over
the ticks at random; viewers flush at paces of their own and connect and disconnect at random;
tombstones are collected about once a second. At the end every connected viewer is flushed once
more, and what it should have been told since it was connected is compared with what it was told.
The draws come from any source.
-/

namespace Tombstone.Simulation

/-- What a simulation is run with. -/
structure Plan where
  sessions : Nat
  deletions : Nat
  /-- The number of ticks; at least one is run. -/
  ticks : Nat
  /-- The largest number of bytes of a packet. -/
  maxPacketBytes : UInt64
  /-- How likely each viewer connects or disconnects in a tick. -/
  churn : Chance
  /-- What becomes of the deletions when no viewer is connected. -/
  policy : EmptyRegistryPolicy
  deriving DecidableEq, Repr

/-- Whether there can be a place for each viewer, each deletion and each tick. -/
def Plan.fits (plan : Plan) : Bool :=
  Extent.fits Extent.viewerBytes plan.sessions &&
    Extent.fits Extent.recordBytes plan.deletions && Extent.fits Extent.wordBytes plan.ticks

/-- Counts over a simulation. -/
structure Tally where
  flushes : Nat := 0
  /-- The flushes in which a packet was refused. -/
  failures : Nat := 0
  packetsSent : Nat := 0
  bytesSent : Nat := 0
  /-- The ids that viewers were told. -/
  delivered : Nat := 0
  /-- Those among them that the viewer had been told before. -/
  duplicates : Nat := 0
  /-- The viewers that were connected again. -/
  reconnects : Nat := 0
  deriving DecidableEq, Repr, Inhabited

/-- What a simulation reports. -/
structure Report where
  /-- The number of viewers asked for. -/
  sessions : Nat
  /-- The number of ticks asked for. -/
  ticks : Nat
  deletionsRecorded : Nat
  tally : Tally
  pruneTicks : Nat
  /-- The number of records removed by them. -/
  recordsPruned : Nat
  ledgerRemaining : Nat
  /-- The number of deletions that connected viewers should have been told and were not. -/
  missing : Nat
  deriving DecidableEq, Repr

/-- Whether every connected viewer was told everything since it was connected. -/
def Report.isComplete (report : Report) : Bool := report.missing = 0

/-- The length of a tick, in microseconds. -/
def tickMicros : Nat := 16000

/-- The number of ticks between two collections. -/
def ticksPerPrune : Nat := 60

/-- The largest pace of a viewer. -/
def slowestPace : Nat := 8

/-- The time at which simulations start. -/
def startTime : Timestamp := Timestamp.ofNat 1000000

/-- What viewers share while a simulation runs. -/
structure Stage (σ : Type) where
  /-- The state of the source of draws. -/
  draws : σ
  service : Service
  /-- The deletions recorded, the latest first. -/
  log : List Record := []
  tally : Tally := {}

variable {σ : Type}

def config (plan : Plan) : Config :=
  { maxPacketBytes := plan.maxPacketBytes, emptyRegistryPolicy := plan.policy }

/-- Draws the paces of viewers. -/
def drawPaces (source : DrawSource σ) : Nat → σ → List Nat × σ
  | 0, draws => ([], draws)
  | count + 1, draws =>
      let (pace, draws) := source.below slowestPace (by decide) draws
      let (paces, draws) := drawPaces source count draws
      ((pace.val + 1) :: paces, draws)

/-- Draws the ticks of deletions. -/
def drawTicks (source : DrawSource σ) (ticks : Nat) (positive : 0 < ticks) : Nat → σ → List Nat × σ
  | 0, draws => ([], draws)
  | count + 1, draws =>
      let (tick, draws) := source.below ticks positive draws
      let (rest, draws) := drawTicks source ticks positive count draws
      (tick.val :: rest, draws)

/-- The viewers of given paces, none of them connected yet. -/
def viewers (paces : List Nat) : List Viewer :=
  paces.mapIdx fun index pace => { session := Viewer.sessionId "viewer-" index, pace }

/-- Moves the clock to the next tick. -/
def advance (stage : Stage σ) : Stage σ :=
  { stage with
    service := { stage.service with
      state := stage.service.state.perform (.advanceClock tickMicros) } }

/-- Records deletions of ids that are drawn. -/
def recordDeletions (source : DrawSource σ) : Nat → Stage σ → Stage σ
  | 0, stage => stage
  | count + 1, stage =>
      let (id, draws) := source.id stage.draws
      let (now, service) := stage.service.recordNow id
      recordDeletions source count
        { stage with draws, service, log := { deletedAt := now, id } :: stage.log }

/-- Connects or disconnects a viewer, if a draw says so. -/
def churn (source : DrawSource σ) (chance : Chance) (viewer : Viewer) (stage : Stage σ) :
    Viewer × Stage σ :=
  let (happens, draws) := source.happens chance stage.draws
  let stage := { stage with draws }
  if happens then
    if viewer.isConnected then
      let (viewer, service) := viewer.disconnect stage.service
      (viewer, { stage with service })
    else
      let now := stage.service.state.clock.hand
      let (viewer, service) := viewer.connect now stage.service
      (viewer,
        { stage with
          service
          tally := { stage.tally with reconnects := stage.tally.reconnects + 1 } })
  else (viewer, stage)

def countFlush (tally : Tally) : Except FlushError FlushSummary → Tally
  | .ok summary =>
      { tally with
        flushes := tally.flushes + 1
        packetsSent := tally.packetsSent + summary.packetsSent
        bytesSent := tally.bytesSent + summary.bytesSent }
  | .error _ => { tally with failures := tally.failures + 1 }

/-- Counts what a viewer was told. -/
def countHaul (tally : Tally) (haul : Haul) : Tally :=
  { tally with
    delivered := tally.delivered + haul.delivered
    duplicates := tally.duplicates + haul.duplicates }

/-- Flushes a viewer's session and takes everything out of its inbox. -/
def flushViewer (viewer : Viewer) (stage : Stage σ) : Viewer × Stage σ :=
  let (result, service) := stage.service.flush viewer.session
  let (haul, viewer, service) := viewer.drain service
  (viewer, { stage with service, tally := countHaul (countFlush stage.tally result) haul })

/-- Whether a viewer is flushed in a tick: it is connected, the tick is one of its own, and
something is pending for it. -/
def isDue (tick : Nat) (viewer : Viewer) (stage : Stage σ) : Bool :=
  viewer.isConnected && tick % viewer.pace = 0 && stage.service.hasNews viewer.session

/-- Flushes a viewer in a tick, if it is due. -/
def flushDue (tick : Nat) (viewer : Viewer) (stage : Stage σ) : Viewer × Stage σ :=
  if isDue tick viewer stage then flushViewer viewer stage else (viewer, stage)

/-- Flushes a viewer if it is connected. -/
def flushConnected (viewer : Viewer) (stage : Stage σ) : Viewer × Stage σ :=
  if viewer.isConnected then flushViewer viewer stage else (viewer, stage)

def collect (stage : Stage σ) : Stage σ := { stage with service := stage.service.collect.2 }

/-- Runs a tick: deletions are recorded, viewers come and go, those that are due are flushed, and in
the last tick of every second tombstones are collected. -/
def runTick (source : DrawSource σ) (plan : Plan) (schedule : List Nat)
    (progress : List Viewer × Stage σ) (tick : Nat) : List Viewer × Stage σ :=
  let (viewers, stage) := progress
  let stage := recordDeletions source (schedule.count tick) (advance stage)
  let (viewers, stage) := eachViewer (churn source plan.churn) viewers stage
  let (viewers, stage) := eachViewer (flushDue tick) viewers stage
  (viewers, if tick % ticksPerPrune = ticksPerPrune - 1 then collect stage else stage)

/-- Ends a simulation: every connected viewer is flushed, and tombstones are collected. -/
def finish (progress : List Viewer × Stage σ) : List Viewer × Stage σ :=
  let (viewers, stage) := eachViewer flushConnected progress.1 (advance progress.2)
  (viewers, collect stage)

/-- What a simulation reports at its end. -/
def report (plan : Plan) (progress : List Viewer × Stage σ) : Report :=
  let (viewers, stage) := progress
  let collected := stage.service.collector.tally
  { sessions := plan.sessions
    ticks := plan.ticks
    deletionsRecorded := stage.log.length
    tally := stage.tally
    pruneTicks := collected.ticks
    recordsPruned := collected.recordsPruned
    ledgerRemaining := stage.service.state.ledger.size
    missing := (viewers.flatMap fun viewer => viewer.missed stage.log).length }

/-- Plays a simulation with validated settings to its end. -/
def play (source : DrawSource σ) (plan : Plan) (settings : Settings) (draws : σ) :
    List Viewer × Stage σ :=
  let ticks := max plan.ticks 1
  let (paces, draws) := drawPaces source plan.sessions draws
  let (schedule, draws) :=
    drawTicks source ticks (Nat.le_max_right plan.ticks 1) plan.deletions draws
  let service := Service.start settings (Clock.manual .direct startTime)
  let (viewers, service) := eachViewer (·.connect startTime) (viewers paces) service
  let progress := (List.range ticks).foldl (runTick source plan schedule)
    (viewers, { draws, service })
  finish progress

def runWith (source : DrawSource σ) (plan : Plan) (settings : Settings) (draws : σ) : Report :=
  report plan (play source plan settings draws)

/-- The settings that a simulation is run with, if it can be made. -/
def Plan.check (plan : Plan) : Except RunError Settings := do
  let settings ← (config plan).check.mapError .config
  if plan.fits then return settings else throw .tooLarge

/-- Runs a simulation on draws from a source. -/
def run (source : DrawSource σ) (plan : Plan) (draws : σ) : Except RunError Report :=
  plan.check.map fun settings => runWith source plan settings draws

end Tombstone.Simulation
