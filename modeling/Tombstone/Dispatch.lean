import Tombstone.Transport

/-!
# What dispatching gives

A flush tells one session what it has not been told yet; a dispatch round flushes every session that
has something pending. Both are summed up in numbers.
-/

namespace Tombstone

/-- What a successful flush sent. -/
structure FlushSummary where
  packetsSent : Nat
  bytesSent : Nat
  idsSent : Nat
  /-- The time that was read before the ledger. -/
  snapshot : Timestamp
  deriving DecidableEq, Repr

/-- Why a flush did not succeed. -/
inductive FlushError where
  /-- The session is not connected. -/
  | unknownSession (session : SessionId)
  /-- A packet was refused; its index counts from zero. -/
  | transport (session : SessionId) (packetIndex : Nat) (refusal : SendError)
  deriving DecidableEq, Repr

/-- The session that was to be flushed. -/
def FlushError.session : FlushError → SessionId
  | unknownSession session => session
  | transport session _ _ => session

def FlushError.message : FlushError → String
  | unknownSession session => "Session not found: " ++ session.name
  | transport session packetIndex refusal =>
      "Failed to send packet " ++ toString packetIndex ++ " to session " ++ session.name ++ ": " ++
        refusal.message

/-- What a dispatch round did. -/
structure RoundSummary where
  considered : Nat := 0
  /-- The number of successful flushes. -/
  flushed : Nat := 0
  /-- The number of flushes in which a packet was refused. -/
  failures : Nat := 0
  packetsSent : Nat := 0
  bytesSent : Nat := 0
  idsSent : Nat := 0
  deriving DecidableEq, Repr, Inhabited

/-- Adds a successful flush to a round. -/
def RoundSummary.add (round : RoundSummary) (flush : FlushSummary) : RoundSummary :=
  { round with
    flushed := round.flushed + 1
    packetsSent := round.packetsSent + flush.packetsSent
    bytesSent := round.bytesSent + flush.bytesSent
    idsSent := round.idsSent + flush.idsSent }

end Tombstone
