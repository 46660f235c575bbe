import Tombstone.Clock
import Tombstone.Journal
import Tombstone.Ledger

/-!
# What the parties share

The ledger, the registry, the transport and the clock are shared by a service, its collectors, the
sessions' connections and whoever records deletions. Each single action on them is atomic. A service
reads the clock and hands packets over in the middle of longer operations, and other parties may act
just before: what they will do then is part of the state, as one list of actions for each reading of
the clock and one for each packet handed over.
-/

namespace Tombstone

/-- An action of another party on what is shared. -/
inductive Action where
  | record (id : EntityId) (time : Timestamp)
  | prune (before : Timestamp)
  | attach (session : SessionId) (now cursor : Timestamp)
  | detach (session : SessionId)
  | moveCursor (session : SessionId) (cursor : Timestamp)
  | takeNumbers (session : SessionId) (count : Nat)
  | account (session : SessionId) (packets bytes : UInt64)
  | setClock (time : Timestamp)
  | advanceClock (micros : Nat)
  | register (session : SessionId) (capacity : Nat) (inbox : InboxName)
  | unregister (session : SessionId)
  | dropInbox (inbox : InboxName)
  | closeInbox (inbox : InboxName)
  | send (session : SessionId) (bytes : Bytes)
  | receive (inbox : InboxName)
  | drain (inbox : InboxName)
  deriving DecidableEq, Repr

/-- What other parties will do in the middle of a service's operations. -/
structure Interleaving where
  /-- Their actions before each of the next readings of the clock. -/
  beforeReading : List (List Action) := []
  /-- Their actions before each of the next packets handed over by the service. -/
  beforeSending : List (List Action) := []
  deriving DecidableEq, Repr, Inhabited

/-- What the parties share. -/
structure State where
  ledger : Ledger := {}
  registry : Registry := {}
  transport : Transport := {}
  clock : Clock
  /-- What other parties will do in the middle of operations. -/
  interleaving : Interleaving := {}
  /-- The events noted, the latest first. -/
  journal : List Event := []

namespace State

def note (state : State) (event : Event) : State := { state with journal := event :: state.journal }

def attach (state : State) (session : SessionId) (now cursor : Timestamp) : State :=
  if state.registry.isConnected session then state
  else
    { state with registry := state.registry.attach session now cursor }.note
      (.attached session cursor)

def detach (state : State) (session : SessionId) : State :=
  if state.registry.isConnected session then
    { state with registry := state.registry.detach session }.note (.detached session)
  else state

/-- Hands a packet over without giving other parties a turn. -/
def send (state : State) (session : SessionId) (bytes : Bytes) : Except SendError Unit × State :=
  match state.transport.send session bytes with
  | .ok transport => (.ok (), { state with transport })
  | .error error => (.error error, state)

def perform (state : State) : Action → State
  | .record id time => { state with ledger := state.ledger.record id time }
  | .prune before => { state with ledger := state.ledger.prune before }
  | .attach session now cursor => state.attach session now cursor
  | .detach session => state.detach session
  | .moveCursor session cursor =>
      { state with registry := state.registry.moveCursor session cursor }
  | .takeNumbers session count =>
      { state with registry := state.registry.takeNumbers session count }
  | .account session packets bytes =>
      { state with registry := state.registry.account session packets bytes }
  | .setClock time => { state with clock := state.clock.set time }
  | .advanceClock micros =>
      { state with clock := state.clock.set (state.clock.hand.advanceWrapping micros) }
  | .register session capacity inbox =>
      { state with transport := state.transport.register session capacity inbox }
  | .unregister session => { state with transport := state.transport.unregister session }
  | .dropInbox inbox => { state with transport := state.transport.dropInbox inbox }
  | .closeInbox inbox => { state with transport := state.transport.closeInbox inbox }
  | .send session bytes => (state.send session bytes).2
  | .receive inbox => { state with transport := state.transport.receive inbox }
  | .drain inbox => { state with transport := state.transport.drain inbox }

/-- Gives other parties their turn before a reading of the clock. -/
def yieldBeforeReading (state : State) : State :=
  match state.interleaving.beforeReading with
  | [] => state
  | actions :: later =>
      actions.foldl perform
        { state with interleaving := { state.interleaving with beforeReading := later } }

/-- Gives other parties their turn before a packet is handed over. -/
def yieldBeforeSending (state : State) : State :=
  match state.interleaving.beforeSending with
  | [] => state
  | actions :: later =>
      actions.foldl perform
        { state with interleaving := { state.interleaving with beforeSending := later } }

/-- Reads the clock, after the other parties' turn. -/
def readClock (state : State) : Timestamp × State :=
  let turned := state.yieldBeforeReading
  let (reading, clock) := turned.clock.read
  let noted := { turned with clock }
  if reading.observed < reading.time then
    (reading.time, noted.note (.clockHeld reading.observed reading.time))
  else (reading.time, noted)

/-- Hands a packet over, after the other parties' turn. -/
def handOver (state : State) (session : SessionId) (bytes : Bytes) :
    Except SendError Unit × State :=
  state.yieldBeforeSending.send session bytes

end State

end Tombstone
