import Tombstone.Collector
import Tombstone.Flush
import Tombstone.Timetable

/-!
# The service

A service is validated settings, what the parties share, a collector of its own, and the timetable
of its background loops while they run. Every operation gives its result and the service afterwards.
The loops are let run only while the caller sleeps or waits for them to end.
-/

namespace Tombstone

namespace Settings

/-- The time between two pieces of work of a loop, in milliseconds. -/
def period (settings : Settings) : Work → Nat
  | .dispatch => settings.dispatchInterval
  | .collect => settings.pruneInterval

theorem period_pos (settings : Settings) (work : Work) : 0 < settings.period work := by
  cases work with
  | dispatch => exact settings.dispatchInterval_pos
  | collect => exact settings.pruneInterval_pos

end Settings

/-- What is noted when a loop ends. -/
def Work.ended : Work → Event
  | .dispatch => .dispatchStopped
  | .collect => .pruneStopped

/-- A service with what it shares with other parties. -/
structure Service where
  settings : Settings
  state : State
  collector : Collector
  /-- The background loops; none when they do not run. -/
  timetable : Option Timetable := none

namespace Service

/-- A service without deletions and sessions. -/
def start (settings : Settings) (clock : Clock) : Service :=
  { settings
    state := { clock }
    collector := { rules := settings.config.collectionRules } }

/-- Records that an entity was deleted at a time. -/
def record (service : Service) (id : EntityId) (time : Timestamp) : Service :=
  { service with
    state := { service.state with ledger := service.state.ledger.record id time } }

/-- Records that an entity was deleted now; gives the time that was read. -/
def recordNow (service : Service) (id : EntityId) : Timestamp × Service :=
  let (now, state) := service.state.readClock
  (now, { service with state := { state with ledger := state.ledger.record id now } })

/-- Whether a session has deletions in its window. -/
def hasNews (service : Service) (session : SessionId) : Bool :=
  service.state.hasNews service.settings session

/-- Tells a session everything in its window. -/
def flush (service : Service) (session : SessionId) :
    Except FlushError FlushSummary × Service :=
  let (result, state) := service.state.flush service.settings session
  (result, { service with state })

/-- Flushes every session that has something pending. -/
def flushAll (service : Service) : RoundSummary × Service :=
  let (round, state) := service.state.flushAll service.settings
  (round, { service with state })

def collect (service : Service) : CollectionOutcome × Service :=
  let (outcome, collector, state) := service.collector.tick service.state
  (outcome, { service with collector, state })

def watermark (service : Service) : Watermark × Service :=
  let (watermark, state) := service.state.watermark
  (watermark, { service with state })

/-- The sessions that lag more than the settings allow. -/
def laggards (service : Service) : List Laggard × Service :=
  let (laggards, state) := service.state.laggards service.collector.rules.stallAfter
  (laggards, { service with state })

/-! ## Background loops -/

def work (service : Service) : Work → Service
  | .dispatch => service.flushAll.2
  | .collect => service.collect.2

/-- Lets time be slept through up to an instant. -/
def sleepUntil (service : Service) (instant : Nat) : Service :=
  { service with
    state := { service.state with clock := { service.state.clock with slept := instant } } }

/-- Does a piece of background work at the time at which it is due. -/
def workAt (service : Service) (due : Nat × Work) : Service :=
  (service.sleepUntil due.1).work due.2

/-- Starts the background loops of a service without any. Both have a tick at once, but nothing is
done before they are let run. -/
def spawn (service : Service) (runtime : Runtime) : Service :=
  { service with
    timetable := some (Timetable.start runtime service.settings.period service.settings.period_pos
      service.state.clock.slept) }

/-- Lets a loop end, which may do its work once more before. -/
def endLoop (service : Service) (work : Work) (onceMore : Bool) : Service :=
  let worked := if onceMore then service.work work else service
  { worked with state := worked.state.note work.ended }

/-- Lets loops end one after the other. -/
def endLoops (service : Service) (order : List Work) (onceMore : Work → Bool) : Service :=
  order.foldl (fun service work => service.endLoop work (onceMore work)) service

/-- Tells the background loops to end, and waits for them. -/
def stopLoops (service : Service) : Service :=
  match service.timetable with
  | none => service
  | some timetable =>
      let now := service.state.clock.slept
      let ended := service.endLoops (timetable.runtime.order now) (timetable.takesTick now true)
      { ended with timetable := none }

/-- Lets time pass by sleeping. The background work that is due up to the new time is done, each
piece at its own time. -/
def sleep (service : Service) (millis : Nat) : Service :=
  let wake := service.state.clock.slept + millis
  match service.timetable with
  | none => service.sleepUntil wake
  | some timetable =>
      let worked := (timetable.due wake).foldl workAt service
      { worked.sleepUntil wake with timetable := some (timetable.after wake) }

/-- Starts the background loops anew with the standard runtime, and lets them run. -/
def startLoops (service : Service) : Service := (service.stopLoops.spawn .standard).sleep 0

end Service

end Tombstone
