import Tombstone.Dispatch
import Tombstone.Collection
import Tombstone.Json.Format
import Tombstone.Ledger

/-!
# Written forms

The values that are stored or sent as JSON texts, each with its format. Times are numbers of
microseconds, ids are whole numbers of 128 bits, and durations are objects of seconds and
nanoseconds.
-/

namespace Tombstone

open Json

namespace Timestamp

/-- A timestamp is written as its number of microseconds. -/
def format : Format Timestamp := Format.word64.convert ofNat toNat

end Timestamp

namespace EntityId

/-- An id is written as a number. -/
def format : Format EntityId :=
  ({ read := Reader.nat128, write := .number } : Format Nat).convert ofNat toNat

end EntityId

namespace SessionId

/-- A session's name is written as it is. -/
def format : Format SessionId := Format.string.convert SessionId.mk SessionId.name

end SessionId

namespace EmptyRegistryPolicy

/-- The name of a policy in written form. -/
def name : EmptyRegistryPolicy → String
  | forgetAll => "forget_all"
  | retainAll => "retain_all"

/-- A policy is written as its name. -/
def format : Format EmptyRegistryPolicy :=
  Format.names [("forget_all", forgetAll), ("retain_all", retainAll)] name

end EmptyRegistryPolicy

namespace SkipReason

/-- The name of a reason in written form. -/
def name : SkipReason → String
  | emptyLedger => "EmptyLedger"
  | retainedWithoutSessions => "RetainedWithoutSessions"

/-- A reason is written as its name. -/
def format : Format SkipReason :=
  Format.names
    [("EmptyLedger", emptyLedger), ("RetainedWithoutSessions", retainedWithoutSessions)] name

end SkipReason

namespace WatermarkBound

/-- What bounds a watermark is written as its name, a session as an object with the session's name.
-/
def format : Format WatermarkBound where
  read := Reader.choice
    [("Session", .text fun name => session ⟨name⟩), ("Now", .plain now),
      ("NoSessions", .plain noSessions)]
  write
    | session id => .object [("Session", SessionId.format.write id)]
    | now => .string "Now"
    | noSessions => .string "NoSessions"

end WatermarkBound

namespace Duration

/-- The whole seconds and the nanoseconds of a duration, not yet carried over. -/
structure Parts where
  /-- The seconds. -/
  secs : Nat := 0
  /-- The nanoseconds. -/
  nanos : Nat := 0

def members : List (Format.Member Parts) :=
  [Format.required "secs" Format.word64 (fun secs parts => { parts with secs }) (·.secs),
    Format.required "nanos" (Format.natBelow UInt32.size) (fun nanos parts => { parts with nanos })
      (·.nanos)]

/-- How a duration is read. Nanoseconds that make up whole seconds are carried over, and the seconds
have to fit 64 bits then. -/
def layout : Reader.Layout Parts :=
  { Format.layout members {} with
    skipsUnknown := false
    isValid := fun parts => parts.secs + parts.nanos / 1000000000 < UInt64.size }

/-- A duration is written as an object of seconds and nanoseconds. -/
def format : Format Duration where
  read := layout.read.map fun parts => ofSecs parts.secs parts.nanos
  write duration :=
    Format.objectOf members { secs := duration.secs, nanos := duration.subsecNanos }

end Duration

namespace Record

def members : List (Format.Member Record) :=
  [Format.required "deleted_at" Timestamp.format (fun deletedAt record => { record with deletedAt })
      (·.deletedAt),
    Format.required "entity_id" EntityId.format (fun id record => { record with id }) (·.id)]

def format : Format Record := Format.record members { deletedAt := .zero, id := .nil }

end Record

namespace LedgerSummary

def members : List (Format.Member LedgerSummary) :=
  [Format.required "records" Format.word64 (fun records summary => { summary with records })
      (·.records),
    Format.required "timestamps" Format.word64
      (fun timestamps summary => { summary with timestamps }) (·.timestamps),
    Format.optional "oldest" Timestamp.format.option (fun oldest summary => { summary with oldest })
      (·.oldest),
    Format.optional "newest" Timestamp.format.option (fun newest summary => { summary with newest })
      (·.newest),
    Format.required "total_recorded" Format.word64
      (fun totalRecorded summary => { summary with totalRecorded }) (·.totalRecorded),
    Format.required "total_pruned" Format.word64
      (fun totalPruned summary => { summary with totalPruned }) (·.totalPruned)]

/-- The written form of a ledger's state. -/
def format : Format LedgerSummary := Format.record members ({} : Ledger).summary

end LedgerSummary

namespace Session

/-- A 64-bit count is written as a number. -/
def countFormat : Format UInt64 := Format.word64.convert UInt64.ofNat UInt64.toNat

/-- A 16-bit count is written as a number. -/
def sequenceFormat : Format UInt16 :=
  (Format.natBelow UInt16.size).convert UInt16.ofNat UInt16.toNat

def members : List (Format.Member Session) :=
  [Format.required "attached_at" Timestamp.format
      (fun attachedAt session => { session with attachedAt }) (·.attachedAt),
    Format.required "last_sent_at" Timestamp.format (fun cursor session => { session with cursor })
      (·.cursor),
    Format.required "next_sequence" sequenceFormat
      (fun sequence session => { session with sequence }) (·.sequence),
    Format.required "packets_sent" countFormat
      (fun packetsSent session => { session with packetsSent }) (·.packetsSent),
    Format.required "bytes_sent" countFormat (fun bytesSent session => { session with bytesSent })
      (·.bytesSent)]

def format : Format Session := Format.record members { attachedAt := .zero, cursor := .zero }

end Session

namespace CollectionRules

/-- The fields of the rules of collection. -/
def members : List (Format.Member CollectionRules) :=
  [Format.required "empty_registry_policy" EmptyRegistryPolicy.format
      (fun policy rules => { rules with policy }) (·.policy),
    Format.required "stall_warning_after" Duration.format
      (fun stallAfter rules => { rules with stallAfter }) (·.stallAfter)]

/-- The written form of the rules of collection. -/
def format : Format CollectionRules := Format.record members {}

end CollectionRules

namespace CollectionTally

def members : List (Format.Member CollectionTally) :=
  [Format.required "ticks" Format.word64 (fun ticks tally => { tally with ticks }) (·.ticks),
    Format.required "skipped" Format.word64 (fun skipped tally => { tally with skipped })
      (·.skipped),
    Format.required "records_pruned" Format.word64
      (fun recordsPruned tally => { tally with recordsPruned }) (·.recordsPruned),
    Format.optional "last_watermark" Timestamp.format.option
      (fun lastWatermark tally => { tally with lastWatermark }) (·.lastWatermark)]

/-- The written form of a collector's counts. -/
def format : Format CollectionTally := Format.record members {}

end CollectionTally

namespace Watermark

def members : List (Format.Member Watermark) :=
  [Format.required "value" Timestamp.format (fun value watermark => { watermark with value })
      (·.value),
    Format.required "source" WatermarkBound.format (fun bound watermark => { watermark with bound })
      (·.bound),
    Format.required "sessions" Format.word64 (fun sessions watermark => { watermark with sessions })
      (·.sessions)]

def format : Format Watermark :=
  Format.record members { value := .zero, bound := .noSessions, sessions := 0 }

end Watermark

namespace FlushSummary

def members : List (Format.Member FlushSummary) :=
  [Format.required "packets_sent" Format.word64
      (fun packetsSent summary => { summary with packetsSent }) (·.packetsSent),
    Format.required "bytes_sent" Format.word64 (fun bytesSent summary => { summary with bytesSent })
      (·.bytesSent),
    Format.required "ids_sent" Format.word64 (fun idsSent summary => { summary with idsSent })
      (·.idsSent),
    Format.required "snapshot" Timestamp.format (fun snapshot summary => { summary with snapshot })
      (·.snapshot)]

def format : Format FlushSummary :=
  Format.record members { packetsSent := 0, bytesSent := 0, idsSent := 0, snapshot := .zero }

end FlushSummary

namespace RoundSummary

def members : List (Format.Member RoundSummary) :=
  [Format.required "sessions_considered" Format.word64
      (fun considered round => { round with considered }) (·.considered),
    Format.required "sessions_flushed" Format.word64 (fun flushed round => { round with flushed })
      (·.flushed),
    Format.required "failures" Format.word64 (fun failures round => { round with failures })
      (·.failures),
    Format.required "packets_sent" Format.word64
      (fun packetsSent round => { round with packetsSent }) (·.packetsSent),
    Format.required "bytes_sent" Format.word64 (fun bytesSent round => { round with bytesSent })
      (·.bytesSent),
    Format.required "ids_sent" Format.word64 (fun idsSent round => { round with idsSent })
      (·.idsSent)]

/-- The written form of a dispatch round. -/
def format : Format RoundSummary := Format.record members {}

end RoundSummary

end Tombstone
