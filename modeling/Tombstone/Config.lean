import Tombstone.Capacity
import Tombstone.Collection
import Tombstone.Json.Token

/-!
# Configuration

A configuration is seven values. Not every configuration can drive a service: a packet must hold an
id, and neither the skew tolerance nor one of the two intervals may be zero. `Config.check` finds
the first violation in that order, and turns a configuration without one into `Settings`, which
carry the proofs. A configuration can also be built from the defaults by a list of changes, of which
the last one for each value counts.
-/

namespace Tombstone

/-- The values that a service is configured by. -/
structure Config where
  /-- How long before its cursor a session's window starts, in microseconds. -/
  skewTolerance : UInt64 := 50000
  /-- The largest number of bytes of a packet. -/
  maxPacketBytes : UInt64 := 1400
  packetFlags : UInt8 := 0
  /-- The time between two dispatch rounds, in milliseconds. -/
  dispatchInterval : UInt64 := 16
  /-- The time between two collections, in milliseconds. -/
  pruneInterval : UInt64 := 1000
  /-- The lag beyond which a session is reported, in milliseconds. -/
  stallWarningAfter : UInt64 := 30000
  /-- What becomes of the deletions when no session is connected. -/
  emptyRegistryPolicy : EmptyRegistryPolicy := .forgetAll
  deriving DecidableEq, Repr

/-- Why a configuration cannot drive a service. -/
inductive ConfigError where
  /-- The packets are too small or too large. -/
  | capacity (error : CapacityError)
  /-- The skew tolerance is zero. -/
  | zeroSkewTolerance
  /-- The dispatch interval is zero. -/
  | zeroDispatchInterval
  /-- The prune interval is zero. -/
  | zeroPruneInterval
  /-- The text of the configuration cannot be read. -/
  | unreadable (fault : Json.Fault)
  deriving DecidableEq, Repr

/-- The error's text, if it has one. -/
def ConfigError.message? : ConfigError → Option String
  | capacity error => some ("Invalid packet capacity: " ++ error.message)
  | zeroSkewTolerance => some "Skew tolerance must be at least one microsecond"
  | zeroDispatchInterval => some "Dispatch interval must be greater than zero"
  | zeroPruneInterval => some "Prune interval must be greater than zero"
  | unreadable _ => none

/-- A configuration that can drive a service. -/
structure Settings where
  config : Config
  capacity : Capacity
  capacity_bytes : capacity.bytes = config.maxPacketBytes.toNat
  skewTolerance_ne_zero : config.skewTolerance ≠ 0
  /-- Time passes between dispatch rounds. -/
  dispatchInterval_ne_zero : config.dispatchInterval ≠ 0
  /-- Time passes between collections. -/
  pruneInterval_ne_zero : config.pruneInterval ≠ 0

namespace Config

def capacity (config : Config) : Except ConfigError Capacity :=
  (Capacity.ofBytes config.maxPacketBytes.toNat).mapError .capacity

/-- The settings of a configuration, or the first reason why there are none. -/
def check (config : Config) : Except ConfigError Settings :=
  match capacity : Capacity.ofBytes config.maxPacketBytes.toNat with
  | .error error => .error (.capacity error)
  | .ok found =>
      if skew : config.skewTolerance = 0 then .error .zeroSkewTolerance
      else if dispatch : config.dispatchInterval = 0 then .error .zeroDispatchInterval
      else if prune : config.pruneInterval = 0 then .error .zeroPruneInterval
      else
        .ok
          { config
            capacity := found
            capacity_bytes := Capacity.bytes_of_ofBytes capacity
            skewTolerance_ne_zero := skew
            dispatchInterval_ne_zero := dispatch
            pruneInterval_ne_zero := prune }

def collectionRules (config : Config) : CollectionRules :=
  { policy := config.emptyRegistryPolicy
    stallAfter := Duration.ofMillis config.stallWarningAfter.toNat }

/-- A change of one of the values. -/
inductive Change where
  | skewTolerance (micros : UInt64)
  | maxPacketBytes (bytes : UInt64)
  | packetFlags (flags : UInt8)
  | dispatchInterval (millis : UInt64)
  | pruneInterval (millis : UInt64)
  | stallWarningAfter (millis : UInt64)
  | emptyRegistryPolicy (policy : EmptyRegistryPolicy)
  deriving DecidableEq, Repr

def apply (config : Config) : Change → Config
  | .skewTolerance micros => { config with skewTolerance := micros }
  | .maxPacketBytes bytes => { config with maxPacketBytes := bytes }
  | .packetFlags flags => { config with packetFlags := flags }
  | .dispatchInterval millis => { config with dispatchInterval := millis }
  | .pruneInterval millis => { config with pruneInterval := millis }
  | .stallWarningAfter millis => { config with stallWarningAfter := millis }
  | .emptyRegistryPolicy policy => { config with emptyRegistryPolicy := policy }

/-- The settings that changes of the defaults lead to. -/
def build (changes : List Change) : Except ConfigError Settings := (changes.foldl apply {}).check

end Config

namespace Settings

/-- How long before its cursor a session's window starts, in microseconds. -/
def skewTolerance (settings : Settings) : Nat := settings.config.skewTolerance.toNat

/-- The time between two dispatch rounds, in milliseconds. -/
def dispatchInterval (settings : Settings) : Nat := settings.config.dispatchInterval.toNat

/-- The time between two collections, in milliseconds. -/
def pruneInterval (settings : Settings) : Nat := settings.config.pruneInterval.toNat

theorem dispatchInterval_pos (settings : Settings) : 0 < settings.dispatchInterval := by
  have nonzero := settings.dispatchInterval_ne_zero
  rw [dispatchInterval]
  apply Nat.pos_of_ne_zero
  intro zero
  exact nonzero (UInt64.toNat_inj.1 zero)

theorem pruneInterval_pos (settings : Settings) : 0 < settings.pruneInterval := by
  have nonzero := settings.pruneInterval_ne_zero
  rw [pruneInterval]
  apply Nat.pos_of_ne_zero
  intro zero
  exact nonzero (UInt64.toNat_inj.1 zero)

end Settings

end Tombstone
