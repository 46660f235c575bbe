import Tombstone.Proofs.FlushTrail

/-!
# Accounts of what was sent

A flush accounts for its packets once, at its end, whether it succeeds or stops at a refusal. As
long as nobody else writes to a session's account, it therefore counts what came to stand in the
session's queue since the session was attached, modulo 2^64, and this is what the flushes of the
session say that they sent before they succeeded or failed.
-/

namespace Tombstone

/-- The number of packets that a flush says to have sent, if it succeeded. -/
def packetsOfSuccess : Except FlushError FlushSummary → Nat
  | .ok summary => summary.packetsSent
  | .error _ => 0

/-- The index of the packet at which a flush was refused, if it was. -/
def indexOfRefusal : Except FlushError FlushSummary → Nat
  | .error (.transport _ index _) => index
  | .error (.unknownSession _) | .ok _ => 0

namespace State

/-- An entry's account matches what the session's flushes handed over and what they say. -/
structure Accounted (settings : Settings) (session : SessionId) (entry : Session)
    (flushes : List State) : Prop where
  packets_eq : entry.packetsSent =
    UInt64.ofNat (flushes.flatMap (gainedBy settings session)).length
  bytes_eq : entry.bytesSent =
    UInt64.ofNat ((flushes.flatMap (gainedBy settings session)).map List.length).sum
  /-- A flush that succeeds says how many packets it sent, and one that is refused at which. -/
  told_eq : (flushes.flatMap (gainedBy settings session)).length =
    ((flushes.map (resultOf settings session)).map packetsOfSuccess).sum +
      ((flushes.map (resultOf settings session)).map indexOfRefusal).sum

section Accounted

variable {settings : Settings} {session : SessionId}

theorem accounted_fresh (settings : Settings) (session : SessionId) (now cursor : Timestamp) :
    Accounted settings session { attachedAt := now, cursor } [] := ⟨rfl, rfl, rfl⟩

theorem Delivery.told_eq (delivery : Delivery) (session : SessionId) (ids : Nat)
    (snapshot : Timestamp) :
    delivery.packets = packetsOfSuccess (delivery.result session ids snapshot) +
      indexOfRefusal (delivery.result session ids snapshot) := by
  cases refusal : delivery.refusal with
  | none => simp [result, refusal, packetsOfSuccess, indexOfRefusal]
  | some error => simp [result, refusal, packetsOfSuccess, indexOfRefusal]

theorem accounted_kept (settings : Settings) (session : SessionId) :
    KeptByFlushes settings session (Accounted settings session) := by
  intro state entry after earlier sound connected after_eq accounted
  rcases flushed_of_connected settings sound.quiet connected with ⟨delivery, flushed⟩
  obtain rfl := Option.some.inj (flushed.entry_eq.symm.trans after_eq)
  have count_eq := flushed.length_gainedBy
  have told_eq : delivery.packets = packetsOfSuccess (state.resultOf settings session) +
      indexOfRefusal (state.resultOf settings session) := by
    rw [resultOf, flushed.result_eq]
    exact delivery.told_eq session _ _
  refine ⟨?_, ?_, ?_⟩
  · simp [Session.packetsSent_afterFlush, accounted.packets_eq, ← count_eq, UInt64.ofNat_add]
  · simp [Session.bytesSent_afterFlush, accounted.bytes_eq, flushed.bytes_eq, UInt64.ofNat_add]
  · have earlier_eq := accounted.told_eq
    simp only [List.flatMap_append, List.length_append, List.map_append, List.sum_append,
      List.flatMap_cons, List.flatMap_nil, List.append_nil, List.map_cons, List.map_nil,
      List.sum_cons, List.sum_nil]
    omega

/-- Nobody else touches an account, but for those who write to it. -/
theorem Accounted.adjusted {action : Action}
    (unwritten : ∀ packets bytes, action ≠ .account session packets bytes) {entry : Session}
    {flushes : List State} (accounted : Accounted settings session entry flushes) :
    Accounted settings session (action.adjusted session entry) flushes := by
  rcases accounted with ⟨packets_eq, bytes_eq, told_eq⟩
  cases action with
  | account other packets bytes =>
      have different : other ≠ session := by
        rintro rfl
        exact unwritten packets bytes rfl
      rw [Action.adjusted, if_neg different]
      exact ⟨packets_eq, bytes_eq, told_eq⟩
  | moveCursor other cursor | takeNumbers other count =>
      refine ⟨?_, ?_, told_eq⟩
      · rw [← packets_eq, Action.adjusted]
        split <;> rfl
      · rw [← bytes_eq, Action.adjusted]
        split <;> rfl
  | _ => exact ⟨packets_eq, bytes_eq, told_eq⟩

end Accounted

end State

namespace Service

/-- How the flushes of a session in a step end. -/
def results (service : Service) (session : SessionId) (step : Step) :
    List (Except FlushError FlushSummary) :=
  (service.flushes session step).map (State.resultOf service.settings session)

theorem along_results {service : Service} {session : SessionId} (steps : List Step) :
    along (fun service => service.results session) service steps =
      (along (fun service => service.flushes session) service steps).map
        (State.resultOf service.settings session) := by
  induction steps generalizing service with
  | nil => rfl
  | cons step rest ih => simp [along, results, ih]

/-- Unless somebody else writes to its account, the entry of a connected session counts the packets
and bytes that came to stand in the session's queue since the session was attached. They are as many
packets as the successful flushes of the session say, and as the refused ones got to. -/
theorem account_matches_accepted (settings : Settings) (clock : Clock) (steps : List Step)
    (session : SessionId)
    (connected : ((start settings clock).run steps).state.registry.isConnected session = true)
    (unwritten : ∀ packets bytes, .act (.account session packets bytes) ∉ steps) :
    ∃ earlier attaching later starting entry, steps = earlier ++ attaching :: later ∧
      ((start settings clock).run earlier).Attaches session attaching starting ∧
      (((start settings clock).run earlier).take attaching).StaysConnected session later ∧
      ((start settings clock).run steps).state.registry.find? session = some entry ∧
      let attached := ((start settings clock).run earlier).take attaching
      let accepted := attached.accepted session later
      let results := along (fun service => service.results session) attached later
      entry.packetsSent = UInt64.ofNat accepted.length ∧
      entry.bytesSent = UInt64.ofNat (accepted.map List.length).sum ∧
      accepted.length = (results.map packetsOfSuccess).sum + (results.map indexOfRefusal).sum := by
  rcases exists_attaching settings clock steps session connected with
    ⟨earlier, attaching, later, starting, now, rfl, attaches, stays, sound, fresh⟩
  rcases entry_run (State.accounted_kept _ session) sound fresh
    (State.accounted_fresh _ session now starting) stays
    (fun action in_later _ _ accounted => accounted.adjusted fun packets bytes same =>
      unwritten packets bytes (by simp [← same, in_later])) with
    ⟨entry, entry_eq, packets_eq, bytes_eq, told_eq⟩
  rw [List.nil_append, ← accepted_eq sound] at packets_eq bytes_eq told_eq
  rw [← along_results] at told_eq
  refine ⟨earlier, attaching, later, starting, entry, rfl, attaches, stays, ?_, packets_eq,
    bytes_eq, told_eq⟩
  rw [run_append]
  exact entry_eq

/-- After a first stay the viewer comes back. A flush gets one packet of two into its queue, a round
with another session gets both there, and a flush after that is refused at once. -/
theorem account_matches_accepted_of_viewer :
    let viewer : SessionId := ⟨"viewer"⟩
    let other : SessionId := ⟨"other"⟩
    let steps : List Step :=
      [.attachNow viewer, .act (.register viewer 4 "viewer"), .flush viewer,
        .act (.detach viewer), .act (.attach viewer ⟨100⟩ ⟨10⟩),
        .act (.register viewer 1 "viewer"), .record (.ofNat 1) ⟨50⟩, .record (.ofNat 2) ⟨60⟩,
        .record (.ofNat 3) ⟨70⟩, .flush viewer, .act (.receive "viewer"), .attachNow other,
        .act (.register viewer 2 "again"), .record (.ofNat 4) ⟨95⟩, .flushAll [other, viewer],
        .collect, .act (.takeNumbers viewer 3), .flush viewer]
    let clock := Clock.manual .direct ⟨100⟩
    ((start .pairs clock).run steps).state.registry.isConnected viewer = true ∧
      (∀ packets bytes, .act (.account viewer packets bytes) ∉ steps) ∧
      ∃ earlier attaching later starting entry, steps = earlier ++ attaching :: later ∧
        ((start .pairs clock).run earlier).Attaches viewer attaching starting ∧
        (((start .pairs clock).run earlier).take attaching).StaysConnected viewer later ∧
        ((start .pairs clock).run steps).state.registry.find? viewer = some entry ∧
        let attached := ((start .pairs clock).run earlier).take attaching
        let accepted := attached.accepted viewer later
        let results := along (fun service => service.results viewer) attached later
        entry.packetsSent = UInt64.ofNat accepted.length ∧
        entry.bytesSent = UInt64.ofNat (accepted.map List.length).sum ∧
        accepted.length =
          (results.map packetsOfSuccess).sum + (results.map indexOfRefusal).sum := by
  intro viewer other steps clock
  have connected : ((start .pairs clock).run steps).state.registry.isConnected viewer = true := by
    decide +kernel
  have unwritten : ∀ packets bytes, .act (.account viewer packets bytes) ∉ steps := by
    simp [steps]
  exact ⟨connected, unwritten,
    account_matches_accepted .pairs clock steps viewer connected unwritten⟩

end Service

end Tombstone
