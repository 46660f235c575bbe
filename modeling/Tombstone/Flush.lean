import Tombstone.Config
import Tombstone.State

/-!
# Telling sessions about deletions

A flush reads the session's cursor, then the clock, and then the ledger. The session's window are
the deletions after its cursor less the skew tolerance. They are packed with the session's next
sequence numbers and handed over packet by packet. If all are taken, the cursor moves to the time
that was read, which lies before the ledger was read: what is recorded meanwhile is left to the next
flush. If one is refused, the rest are dropped and the cursor stays, so that the next flush covers
the same window.

A dispatch round flushes, in some order of visiting, each session whose window is not empty.
-/

namespace Tombstone

namespace State

/-- The time after which the deletions of a session's window lie. -/
def windowStart (settings : Settings) (cursor : Timestamp) : Timestamp :=
  cursor.rewind settings.skewTolerance

/-- Whether a session has deletions in its window. -/
def hasNews (settings : Settings) (state : State) (session : SessionId) : Bool :=
  match state.registry.cursor? session with
  | none => false
  | some cursor => state.ledger.hasRecordAfter (windowStart settings cursor)

/-- How far the handing over of packets came. -/
structure Delivery where
  packets : Nat := 0
  bytes : Nat := 0
  refusal : Option SendError := none
  deriving DecidableEq, Repr

/-- Counts a packet in front of a delivery. -/
def Delivery.after (delivery : Delivery) (packet : Packet) : Delivery :=
  { delivery with packets := delivery.packets + 1, bytes := packet.size + delivery.bytes }

/-- Hands packets over in order until one is refused. -/
def deliver (state : State) (session : SessionId) : List Packet → Delivery × State
  | [] => ({}, state)
  | packet :: rest =>
      match state.handOver session packet.toBytes with
      | (.error error, state) => ({ refusal := some error }, state)
      | (.ok (), state) =>
          let (delivery, state) := deliver state session rest
          (delivery.after packet, state)

/-- The packets of a flush: the session's window after the cursor, packed with its next numbers. -/
def packetsFor (settings : Settings) (state : State) (session : SessionId) (cursor : Timestamp)
    (snapshot : Timestamp) : List Packet :=
  settings.capacity.pack settings.config.packetFlags snapshot (state.registry.numbers session)
    (state.ledger.idsAfter (windowStart settings cursor))

/-- Ends a flush: accounts for the packets handed over and, if none was refused, moves the cursor.
-/
def settle (state : State) (session : SessionId) (delivery : Delivery) (ids : Nat)
    (snapshot : Timestamp) : Except FlushError FlushSummary × State :=
  let accounted :=
    { state with
      registry := state.registry.account session (UInt64.ofNat delivery.packets)
        (UInt64.ofNat delivery.bytes) }
  match delivery.refusal with
  | some error => (.error (.transport session delivery.packets error), accounted)
  | none =>
      let summary : FlushSummary :=
        { packetsSent := delivery.packets
          bytesSent := delivery.bytes
          idsSent := ids
          snapshot }
      let moved :=
        { accounted with registry := accounted.registry.moveCursor session snapshot }
      let noted :=
        if accounted.registry.isConnected session then moved
        else moved.note (.detachedDuringFlush session)
      (.ok summary, noted.note (.flushed session summary))

/-- Tells a session everything in its window. At least one packet is sent, without ids if the window
is empty. -/
def flush (settings : Settings) (state : State) (session : SessionId) :
    Except FlushError FlushSummary × State :=
  match state.registry.cursor? session with
  | none => (.error (.unknownSession session), state)
  | some cursor =>
      let (snapshot, state) := state.readClock
      let ids := state.ledger.idsAfter (windowStart settings cursor)
      let packets := packetsFor settings state session cursor snapshot
      let numbered :=
        { state with registry := state.registry.takeNumbers session packets.length }
      let (delivery, delivered) := numbered.deliver session packets
      delivered.settle session delivery ids.length snapshot

/-- Flushes one session of a dispatch round, if it has something pending. -/
def visit (settings : Settings) (progress : RoundSummary × State) (session : SessionId) :
    RoundSummary × State :=
  let (round, state) := progress
  if state.hasNews settings session then
    match state.flush settings session with
    | (.ok summary, state) => (round.add summary, state)
    | (.error (.unknownSession _), state) => (round, state)
    | (.error error, state) =>
        ({ round with failures := round.failures + 1 }, state.note (.flushFailed session error))
  else (round, state)

/-- A dispatch round that visits sessions in the given order. -/
def flushAllIn (settings : Settings) (order : List SessionId) (state : State) :
    RoundSummary × State :=
  order.foldl (visit settings) ({ considered := order.length }, state)

/-- A dispatch round that visits the connected sessions in the order in which they were attached. -/
def flushAll (settings : Settings) (state : State) : RoundSummary × State :=
  state.flushAllIn settings state.registry.ids

end State

end Tombstone
