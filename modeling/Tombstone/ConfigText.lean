import Tombstone.Config
import Tombstone.Documents

/-!
# Configurations as texts

A configuration is written as an object with its seven values, one to a line. Read, each value may
be missing, in which case it keeps its default, also at the end of a list; keys of no value are
skipped. What is read still has to be checked.
-/

namespace Tombstone.Config

open Json

/-- The 64-bit values of a configuration are written as numbers. -/
def wordFormat : Format UInt64 := Format.word64.convert UInt64.ofNat UInt64.toNat

/-- The flags are written as a number. -/
def flagsFormat : Format UInt8 := (Format.natBelow UInt8.size).convert UInt8.ofNat UInt8.toNat

/-- A value of a configuration: reading it makes a change. -/
def valueMember {β : Type} (name : String) (format : Format β) (change : β → Change)
    (take : Config → β) : Format.Member Config :=
  Format.optional name format (fun value config => config.apply (change value)) take

def members : List (Format.Member Config) :=
  [valueMember "skew_tolerance_us" wordFormat .skewTolerance (·.skewTolerance),
    valueMember "max_packet_bytes" wordFormat .maxPacketBytes (·.maxPacketBytes),
    valueMember "packet_flags" flagsFormat .packetFlags (·.packetFlags),
    valueMember "dispatch_interval_ms" wordFormat .dispatchInterval (·.dispatchInterval),
    valueMember "prune_interval_ms" wordFormat .pruneInterval (·.pruneInterval),
    valueMember "stall_warning_after_ms" wordFormat .stallWarningAfter (·.stallWarningAfter),
    valueMember "empty_registry_policy" EmptyRegistryPolicy.format .emptyRegistryPolicy
      (·.emptyRegistryPolicy)]

def layout : Reader.Layout Config := { Format.layout members {} with shortLists := true }

def format : Format Config := { read := layout.read, write := Format.objectOf members }

/-- Reads a configuration without checking it. -/
def ofText (text : String) : Except ConfigError Config :=
  (format.parse text).mapError .unreadable

/-- Reads a configuration and checks it. -/
def readSettings (text : String) : Except ConfigError Settings := do
  let config ← ofText text
  config.check

/-- The text of a configuration, with each value on a line of its own. -/
def pretty (config : Config) : String := format.pretty config

end Tombstone.Config
