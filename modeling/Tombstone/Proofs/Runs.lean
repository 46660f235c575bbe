import Tombstone.Proofs.CollectionEffect
import Tombstone.Proofs.RoundVisits
import Tombstone.Service

/-!
# Runs

A run is a sequence of steps: operations of a service, and actions of other parties between them.
Whatever the steps are, nobody acts in the middle of an operation, the ledger stays ordered, and no
two sessions are connected under one name.
-/

namespace Tombstone

/-- An operation of a service, or an action of another party between its operations. -/
inductive Step where
  | record (id : EntityId) (time : Timestamp)
  | recordNow (id : EntityId)
  | attachNow (session : SessionId)
  | flush (session : SessionId)
  | flushAll (order : List SessionId)
  | collect
  | watermark
  | laggards
  | act (action : Action)
  deriving DecidableEq, Repr

namespace Service

/-- Attaches a session at the time that the clock shows. -/
def attachNow (service : Service) (session : SessionId) : Service :=
  let (now, state) := service.state.readClock
  { service with state := state.attach session now now }

/-- Takes a step. -/
def take (service : Service) : Step → Service
  | .record id time => service.record id time
  | .recordNow id => (service.recordNow id).2
  | .attachNow session => service.attachNow session
  | .flush session => (service.flush session).2
  | .flushAll order =>
      { service with state := (service.state.flushAllIn service.settings order).2 }
  | .collect => service.collect.2
  | .watermark => service.watermark.2
  | .laggards => service.laggards.2
  | .act action => { service with state := service.state.perform action }

/-- Takes steps one after the other. -/
def run (service : Service) (steps : List Step) : Service := steps.foldl take service

theorem run_append (service : Service) (first second : List Step) :
    service.run (first ++ second) = (service.run first).run second := List.foldl_append

@[simp]
theorem settings_take (service : Service) (step : Step) :
    (service.take step).settings = service.settings := by
  cases step <;> rfl

@[simp]
theorem settings_run (service : Service) (steps : List Step) :
    (service.run steps).settings = service.settings := by
  induction steps generalizing service with
  | nil => rfl
  | cons step rest ih => exact (ih (service.take step)).trans (settings_take service step)

end Service

namespace State

/-- What holds of the shared state between any two steps of a run. -/
structure Sound (state : State) : Prop where
  quiet : state.Quiet
  ordered : state.ledger.Ordered
  distinct : state.registry.Distinct
  paired : state.transport.Paired

theorem sound_start (clock : Clock) : Sound { clock } :=
  ⟨rfl, Ledger.ordered_empty, Directory.distinct_empty, Transport.paired_empty⟩

theorem Sound.readClock {state : State} (sound : state.Sound) : state.readClock.2.Sound := by
  rcases readClock_of_quiet sound.quiet with ⟨journal, read_eq⟩
  rw [read_eq]
  exact { sound with }

theorem Sound.record {state : State} (sound : state.Sound) (id : EntityId) (time : Timestamp) :
    Sound { state with ledger := state.ledger.record id time } :=
  { sound with ordered := sound.ordered.record id time }

theorem Sound.attach {state : State} (sound : state.Sound) (session : SessionId)
    (now cursor : Timestamp) : (state.attach session now cursor).Sound := by
  rcases attach_effect state session now cursor with ⟨journal, attach_eq⟩
  rw [attach_eq]
  exact { sound with distinct := Registry.distinct_attach sound.distinct session now cursor }

theorem Sound.detach {state : State} (sound : state.Sound) (session : SessionId) :
    (state.detach session).Sound := by
  rcases detach_effect state session with ⟨journal, detach_eq⟩
  rw [detach_eq]
  exact { sound with distinct := sound.distinct.remove session }

theorem Sound.send {state : State} (sound : state.Sound) (session : SessionId) (bytes : Bytes) :
    (state.send session bytes).2.Sound := by
  rw [State.send]
  cases sent : state.transport.send session bytes with
  | error error => exact sound
  | ok after => exact { sound with paired := sound.paired.gained (Transport.send_eq_ok sent).1 }

theorem Sound.perform {state : State} (sound : state.Sound) (action : Action) :
    (state.perform action).Sound := by
  cases action with
  | record id time => exact sound.record id time
  | prune before => exact { sound with ordered := sound.ordered.prune before }
  | attach session now cursor => exact sound.attach session now cursor
  | detach session => exact sound.detach session
  | moveCursor session cursor | takeNumbers session count | account session packets bytes =>
      exact { sound with distinct := sound.distinct.adjust session _ }
  | send session bytes => exact sound.send session bytes
  | register session capacity name =>
      exact { sound with paired := sound.paired.register session capacity name }
  | unregister session => exact { sound with paired := sound.paired.unregister session }
  | dropInbox name => exact { sound with paired := sound.paired.dropInbox name }
  | closeInbox name | receive name | drain name =>
      exact { sound with paired := sound.paired.adjust name fun _ => rfl }
  | setClock | advanceClock => exact { sound with }

theorem Sound.flush {state : State} (sound : state.Sound) (settings : Settings)
    (session : SessionId) : (state.flush settings session).2.Sound := by
  cases found : state.registry.find? session with
  | none =>
      rw [flush_of_unknown found]
      exact sound
  | some entry =>
      rcases flush_of_connected settings sound.quiet found with ⟨_, _, _, delivered, flush_eq⟩
      rw [flush_eq]
      exact
        { sound with
          distinct := sound.distinct.adjust session _
          paired := sound.paired.gained delivered.gained }

theorem Sound.visited {state : State} (sound : state.Sound) (settings : Settings)
    (session : SessionId) : (state.visited settings session).Sound :=
  visited_induction sound fun _ => { sound.flush settings session with }

theorem Sound.flushAllIn {state : State} (sound : state.Sound) (settings : Settings)
    (order : List SessionId) : (state.flushAllIn settings order).2.Sound :=
  flushAllIn_induction sound (fun _ session sound => sound.flush settings session)
    (fun _ _ sound => { sound with }) order

theorem Sound.collect {state : State} (sound : state.Sound) (rules : CollectionRules) :
    (state.collect rules).2.Sound := by
  rcases collect_effect rules sound.quiet with ⟨ledger, clock, journal, collect_eq, ledger_cases, _⟩
  rw [collect_eq]
  rcases ledger_cases with rfl | rfl
  · exact { sound with }
  · exact { sound with ordered := sound.ordered.prune _ }

end State

namespace Service

theorem sound_take {service : Service} (sound : service.state.Sound) (step : Step) :
    (service.take step).state.Sound := by
  cases step with
  | record id time => exact sound.record id time
  | recordNow id => exact sound.readClock.record id _
  | attachNow session => exact sound.readClock.attach session _ _
  | flush session => exact sound.flush service.settings session
  | flushAll order => exact sound.flushAllIn service.settings order
  | collect => exact sound.collect service.collector.rules
  | watermark | laggards => exact sound.readClock
  | act action => exact sound.perform action

/-- A run keeps the state of a service sound. -/
theorem sound_run {service : Service} (sound : service.state.Sound) (steps : List Step) :
    (service.run steps).state.Sound := by
  induction steps generalizing service with
  | nil => exact sound
  | cons step rest ih => exact ih (sound_take sound step)

/-- A session is connected at every point of a run. -/
def StaysConnected (service : Service) (session : SessionId) : List Step → Prop
  | [] => service.state.registry.isConnected session = true
  | step :: rest =>
      service.state.registry.isConnected session = true ∧
        (service.take step).StaysConnected session rest

instance StaysConnected.decidable (session : SessionId) :
    (service : Service) → (steps : List Step) → Decidable (service.StaysConnected session steps)
  | service, [] => inferInstanceAs (Decidable (service.state.registry.isConnected session = true))
  | service, step :: rest =>
      have := StaysConnected.decidable session (service.take step) rest
      inferInstanceAs (Decidable (service.state.registry.isConnected session = true ∧
        (service.take step).StaysConnected session rest))

theorem StaysConnected.last {service : Service} {session : SessionId} {steps : List Step}
    (stays : service.StaysConnected session steps) :
    (service.run steps).state.registry.isConnected session = true := by
  induction steps generalizing service with
  | nil => exact stays
  | cons step rest ih => exact ih stays.2

theorem StaysConnected.first {service : Service} {session : SessionId} {steps : List Step}
    (stays : service.StaysConnected session steps) :
    service.state.registry.isConnected session = true := by
  cases steps with
  | nil => exact stays
  | cons step rest => exact stays.1

theorem StaysConnected.drop {service : Service} {session : SessionId} {first second : List Step}
    (stays : service.StaysConnected session (first ++ second)) :
    (service.run first).StaysConnected session second := by
  induction first generalizing service with
  | nil => exact stays
  | cons step rest ih => exact ih stays.2

/-- What is seen in the steps of a run, in order. -/
def along {α : Type} (seen : Service → Step → List α) : Service → List Step → List α
  | _, [] => []
  | service, step :: rest => seen service step ++ along seen (service.take step) rest

end Service

end Tombstone
