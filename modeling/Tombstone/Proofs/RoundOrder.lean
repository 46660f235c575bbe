import Mathlib.Algebra.GroupWithZero.Nat
import Tombstone.Proofs.Locality
import Tombstone.Proofs.Runs
import Tombstone.Proofs.WindowDelivery

/-!
# The order of a dispatch round

A dispatch round may visit the connected sessions in any order. As long as the clock does not move,
every session comes out of the round as it would come out of a flush by itself, whatever becomes of
the others, so the order shows neither in the numbers of the round nor in what it leaves behind.
-/

namespace Tombstone

namespace RoundSummary

/-- What a visit sent, if its flush succeeded. -/
def sent? : Option (Except FlushError FlushSummary) → Option FlushSummary
  | some (.ok summary) => some summary
  | _ => none

/-- Whether a visit ended with a packet being refused. -/
def isRefusal : Option (Except FlushError FlushSummary) → Bool
  | some (.error (.transport ..)) => true
  | _ => false

theorem count_comm (round : RoundSummary) (first later : Option (Except FlushError FlushSummary)) :
    (round.count first).count later = (round.count later).count first := by
  rcases first with _ | ⟨⟨_ | _⟩ | first⟩ <;> rcases later with _ | ⟨⟨_ | _⟩ | later⟩ <;> try rfl
  -- Only two flushes that succeed are added up in another order.
  simp [count, add]
  omega

/-- The numbers of a round are sums over its visits. -/
theorem foldl_count (round : RoundSummary)
    (outcomes : List (Option (Except FlushError FlushSummary))) :
    let sent := outcomes.filterMap sent?
    outcomes.foldl count round =
      { considered := round.considered
        flushed := round.flushed + sent.length
        failures := round.failures + outcomes.countP isRefusal
        packetsSent := round.packetsSent + (sent.map (·.packetsSent)).sum
        bytesSent := round.bytesSent + (sent.map (·.bytesSent)).sum
        idsSent := round.idsSent + (sent.map (·.idsSent)).sum } := by
  induction outcomes generalizing round with
  | nil => rfl
  | cons outcome rest ih =>
      rw [List.foldl_cons, ih]
      rcases outcome with _ | ⟨⟨_ | _⟩ | summary⟩
      · simp [count, List.filterMap_cons, sent?, isRefusal]
      · simp [count, List.filterMap_cons, sent?, isRefusal]
      · simp [count, List.filterMap_cons, List.countP_cons, sent?, isRefusal]
        omega
      · simp [count, add, sent?, isRefusal]
        omega

/-- Each visit finds nothing pending, or succeeds, or ends with a refusal. -/
theorem length_eq_of_known {outcomes : List (Option (Except FlushError FlushSummary))}
    (known : ∀ session, some (.error (.unknownSession session)) ∉ outcomes) :
    outcomes.length = (outcomes.filterMap sent?).length + outcomes.countP isRefusal +
      outcomes.countP Option.isNone := by
  induction outcomes with
  | nil => rfl
  | cons outcome rest ih =>
      have rest_eq := ih fun session inRest => known session (List.mem_cons_of_mem _ inRest)
      rcases outcome with _ | ⟨⟨session | _⟩ | summary⟩
      · simp [List.filterMap_cons, sent?, isRefusal, rest_eq]
        omega
      · exact absurd List.mem_cons_self (known session)
      · simp [List.filterMap_cons, List.countP_cons, sent?, isRefusal, rest_eq]
        omega
      · simp [sent?, isRefusal, rest_eq]
        omega

end RoundSummary

namespace State

section Round

variable {settings : Settings} {state : State} {session : SessionId} {order : List SessionId}
  {time : Timestamp}

/-- As long as the clock does not move, a visit ends in the same way, and comes to the same for its
session, after a visit of another session. -/
theorem visited_after_other (settings : Settings) (sound : state.Sound) {first : SessionId}
    (different : session ≠ first) {readings : Nat} (later : 0 < readings)
    (still : state.clock.Shows time (readings + 1)) :
    (state.visited settings first).outcome settings session = state.outcome settings session ∧
      Alike session ((state.visited settings first).visited settings session)
        (state.visited settings session) := by
  have stillLater := shows_visited settings first sound.quiet still
  have time_eq := (stillLater.first later).trans (still.first (Nat.succ_pos readings)).symm
  have alike : Alike session (state.visited settings first) state :=
    alike_visited_of_ne sound.quiet sound.paired different
  exact alike.visited settings (quiet_visited sound.quiet) sound.quiet (ledger_visited sound.quiet)
    time_eq

theorem outcomes_eq_map (sound : state.Sound) (distinct : order.Nodup)
    (still : state.clock.Shows time order.length) :
    outcomes settings state order = order.map (state.outcome settings) := by
  induction order generalizing state with
  | nil => rfl
  | cons first rest ih =>
      rcases List.nodup_cons.mp distinct with ⟨fresh, distinctRest⟩
      have stillRest := shows_visited settings first sound.quiet still
      rw [outcomes, ih (sound.visited settings first) distinctRest stillRest, List.map_cons]
      congr 1
      apply List.map_congr_left
      intro session session_mem
      refine (visited_after_other settings sound ?_ (List.length_pos_of_mem session_mem) still).1
      rintro rfl
      exact fresh session_mem

theorem alike_round_of_absent (sound : state.Sound) (absent : session ∉ order) :
    Alike session (order.foldl (visited settings) state) state := by
  induction order generalizing state with
  | nil => exact .refl session state
  | cons first rest ih =>
      simp only [List.mem_cons, not_or] at absent
      rcases absent with ⟨different, absentRest⟩
      exact (ih (sound.visited settings first) absentRest).trans
        (alike_visited_of_ne sound.quiet sound.paired different)

/-- A session comes out of a round as it would come out of a visit by itself. -/
theorem alike_round_of_mem (settings : Settings) (sound : state.Sound) (distinct : order.Nodup)
    (still : state.clock.Shows time order.length) (session_mem : session ∈ order) :
    Alike session (order.foldl (visited settings) state) (state.visited settings session) := by
  induction order generalizing state with
  | nil => cases session_mem
  | cons first rest ih =>
      rcases List.nodup_cons.mp distinct with ⟨fresh, distinctRest⟩
      have soundRest := sound.visited settings first
      rcases List.mem_cons.mp session_mem with rfl | inRest
      · exact alike_round_of_absent soundRest fresh
      · -- The visit of the first session makes no difference for a later one.
        have stillRest := shows_visited settings first sound.quiet still
        apply (ih soundRest distinctRest stillRest inRest).trans
        refine (visited_after_other settings sound ?_ (List.length_pos_of_mem inRest) still).2
        rintro rfl
        exact fresh inRest

theorem sound_round (settings : Settings) (sound : state.Sound) (order : List SessionId) :
    (order.foldl (visited settings) state).Sound := by
  simpa only [flushAllIn_eq] using sound.flushAllIn settings order

/-- What visits preserve in sound states, a round preserves. -/
theorem round_induction {motive : State → Prop} (sound : state.Sound) (start : motive state)
    (visit : ∀ state session, state.Sound → motive state →
      motive (state.visited settings session)) (order : List SessionId) :
    motive (order.foldl (visited settings) state) := by
  induction order generalizing state with
  | nil => exact start
  | cons first rest ih =>
      exact ih (sound.visited settings first) (visit state first sound start)

theorem ledger_round (sound : state.Sound) (order : List SessionId) :
    (order.foldl (visited settings) state).ledger = state.ledger := by
  apply round_induction (motive := fun after => after.ledger = state.ledger) sound rfl
  intro middle session soundMiddle ledger_eq
  rw [ledger_visited soundMiddle.quiet, ledger_eq]

theorem connections_round (sound : state.Sound) (order : List SessionId) :
    (order.foldl (visited settings) state).transport.connections = state.transport.connections := by
  apply round_induction (motive := fun after =>
    after.transport.connections = state.transport.connections) sound rfl
  intro middle session soundMiddle connections_eq
  rw [connections_visited soundMiddle.quiet, connections_eq]

theorem inbox_round_of_elsewhere (sound : state.Sound) {name : InboxName}
    (elsewhere : ∀ session, state.transport.connections.find? session ≠ some (some name))
    (order : List SessionId) :
    (order.foldl (visited settings) state).transport.inboxes.find? name =
      state.transport.inboxes.find? name := by
  suffices kept : (order.foldl (visited settings) state).transport.connections =
      state.transport.connections ∧
      (order.foldl (visited settings) state).transport.inboxes.find? name =
        state.transport.inboxes.find? name from kept.2
  apply round_induction (motive := fun after =>
    after.transport.connections = state.transport.connections ∧
      after.transport.inboxes.find? name = state.transport.inboxes.find? name) sound ⟨rfl, rfl⟩
  rintro middle session soundMiddle ⟨connections_eq, inbox_eq⟩
  have elsewhereMiddle : middle.transport.connections.find? session ≠ some (some name) := by
    rw [connections_eq]
    exact elsewhere session
  exact ⟨(connections_visited soundMiddle.quiet).trans connections_eq,
    (inbox_visited_of_elsewhere soundMiddle.quiet elsewhereMiddle).trans inbox_eq⟩

theorem alike_rounds (sound : state.Sound) {other : List SessionId} (distinct : order.Nodup)
    (same : order.Perm other) (still : state.clock.Shows time order.length) (session : SessionId) :
    Alike session (order.foldl (visited settings) state)
      (other.foldl (visited settings) state) := by
  by_cases session_mem : session ∈ order
  · have stillOther : state.clock.Shows time other.length := same.length_eq ▸ still
    exact (alike_round_of_mem settings sound distinct still session_mem).trans
      (alike_round_of_mem settings sound (same.nodup_iff.mp distinct) stillOther
        (same.mem_iff.mp session_mem)).symm
  · exact (alike_round_of_absent sound session_mem).trans
      (alike_round_of_absent sound (mt same.mem_iff.mpr session_mem)).symm

theorem registry_rounds (sound : state.Sound) {other : List SessionId} (distinct : order.Nodup)
    (same : order.Perm other) (still : state.clock.Shows time order.length) :
    (order.foldl (visited settings) state).registry =
      (other.foldl (visited settings) state).registry := by
  apply (sound_round settings sound order).distinct.eq_of_find?_eq
    (sound_round settings sound other).distinct
  · exact (ids_foldl_visited sound.quiet order).trans (ids_foldl_visited sound.quiet other).symm
  · intro session
    exact (alike_rounds sound distinct same still session).entry_eq

theorem inboxes_rounds (sound : state.Sound) {other : List SessionId} (distinct : order.Nodup)
    (same : order.Perm other) (still : state.clock.Shows time order.length) (name : InboxName) :
    (order.foldl (visited settings) state).transport.inboxes.find? name =
      (other.foldl (visited settings) state).transport.inboxes.find? name := by
  -- What a session's connection leads to is known from that session, and the rest is untouched.
  by_cases led : ∃ session, state.transport.connections.find? session = some (some name)
  · rcases led with ⟨session, connection⟩
    apply (alike_rounds sound distinct same still session).inbox_eq name
    rw [connections_round sound, connection]
  · have elsewhere := not_exists.mp led
    exact (inbox_round_of_elsewhere sound elsewhere order).trans
      (inbox_round_of_elsewhere sound elsewhere other).symm

/-- The numbers of a round that visits the connected sessions, in whatever order. -/
theorem summary_round (sound : state.Sound) (visits : order.Perm state.registry.ids)
    (still : state.clock.Shows time order.length) :
    (state.flushAllIn settings order).1 =
      (state.registry.ids.map (state.outcome settings)).foldl RoundSummary.count
        { considered := state.registry.ids.length } := by
  rw [flushAllIn_eq, outcomes_eq_map sound (visits.nodup_iff.mpr sound.distinct) still,
    visits.length_eq]
  apply (visits.map _).foldl_eq'
  intro first _ later _ round
  exact round.count_comm first later

theorem isConnected_of_hasNews (news : state.hasNews settings session = true) :
    state.registry.isConnected session = true := by
  rw [Registry.isConnected_iff_cursor?]
  cases found : state.registry.cursor? session with
  | none => simp [hasNews, found] at news
  | some cursor => exact ⟨cursor, rfl⟩

theorem outcome_ne_unknown (quiet : state.Quiet) (session named : SessionId) :
    state.outcome settings session ≠ some (.error (.unknownSession named)) := by
  intro unknown
  simp only [outcome] at unknown
  split at unknown
  · next news =>
      rcases Registry.isConnected_iff_cursor?.mp (isConnected_of_hasNews news) with ⟨_, cursor_eq⟩
      rcases Option.map_eq_some_iff.mp cursor_eq with ⟨entry, found, _⟩
      rcases flush_of_connected settings quiet found with ⟨delivery, _, _, _, flush_eq⟩
      rw [flush_eq] at unknown
      cases refusal : delivery.refusal <;> simp [Delivery.result, refusal] at unknown
  · cases unknown

end Round

/-- What the connected sessions with something pending are sent by the flushes that succeed, each
from the state at hand. -/
def sent (settings : Settings) (state : State) : List FlushSummary :=
  (state.registry.ids.map (state.outcome settings)).filterMap RoundSummary.sent?

/-- The connected sessions with nothing pending. -/
def idleIds (settings : Settings) (state : State) : List SessionId :=
  state.registry.ids.filter fun session => !state.hasNews settings session

/-- Each connected session is flushed with success, or refused a packet, or left alone. -/
theorem length_ids (settings : Settings) {state : State} (quiet : state.Quiet) :
    state.registry.ids.length = (state.sent settings).length +
      (state.registry.ids.map (state.outcome settings)).countP RoundSummary.isRefusal +
      (state.idleIds settings).length := by
  have idle_length : (state.registry.ids.map (state.outcome settings)).countP Option.isNone =
      (state.idleIds settings).length := by
    rw [List.countP_map, List.countP_eq_length_filter, idleIds]
    congr 2
    funext session
    cases news : state.hasNews settings session <;> simp [outcome, news]
  rw [← idle_length, sent, ← RoundSummary.length_eq_of_known, List.length_map]
  intro named unknown
  rcases List.mem_map.mp unknown with ⟨session, _, outcome_eq⟩
  exact outcome_ne_unknown quiet session named outcome_eq

/-- What a dispatch round comes to. -/
structure RoundEffect (settings : Settings) (before after : State) (summary : RoundSummary) :
    Prop where
  /-- A session for which nothing was pending has the entry and the inbox that it had. -/
  idle : ∀ session, before.hasNews settings session = false → Alike session after before
  /-- Every other session has the entry and the inbox that its flush alone would have left. -/
  flushed : ∀ session, before.hasNews settings session = true →
    Alike session after (before.flush settings session).2
  /-- Every connected session was considered. -/
  considered_eq : summary.considered = before.registry.ids.length
  /-- Each was flushed with success, or refused a packet, or had nothing pending. -/
  considered_split : summary.considered =
    summary.flushed + summary.failures + (before.idleIds settings).length
  /-- The other numbers sum up the flushes that succeeded. -/
  flushed_eq : summary.flushed = (before.sent settings).length
  packetsSent_eq : summary.packetsSent = ((before.sent settings).map (·.packetsSent)).sum
  bytesSent_eq : summary.bytesSent = ((before.sent settings).map (·.bytesSent)).sum
  idsSent_eq : summary.idsSent = ((before.sent settings).map (·.idsSent)).sum

/-- A round that visits the connected sessions treats each of them by itself. -/
theorem round_effect (settings : Settings) {state : State} {order : List SessionId}
    {time : Timestamp} (sound : state.Sound) (visits : order.Perm state.registry.ids)
    (still : state.clock.Shows time order.length) :
    RoundEffect settings state (order.foldl (visited settings) state)
      (state.flushAllIn settings order).1 := by
  have distinct : order.Nodup := visits.nodup_iff.mpr sound.distinct
  rw [summary_round sound visits still, RoundSummary.foldl_count]
  refine ⟨?_, ?_, rfl, ?_, ?_, ?_, ?_, ?_⟩
  · intro session idle
    by_cases session_mem : session ∈ order
    · have visited := alike_round_of_mem settings sound distinct still session_mem
      rwa [visited_of_idle idle] at visited
    · exact alike_round_of_absent sound session_mem
  · intro session news
    have session_mem : session ∈ order := by
      rw [visits.mem_iff, ← Registry.isConnected_iff_mem_ids]
      exact isConnected_of_hasNews news
    rcases visited_of_news news with ⟨journal, visited_eq⟩
    have visited := alike_round_of_mem settings sound distinct still session_mem
    rw [visited_eq] at visited
    exact { visited with }
  · simp only [Nat.zero_add]
    exact length_ids settings sound.quiet
  · exact Nat.zero_add _
  · exact Nat.zero_add _
  · exact Nat.zero_add _
  · exact Nat.zero_add _

end State

namespace Service

/-- While the clock stands still, dispatch rounds come to the same in whatever order they visit the
connected sessions. -/
theorem round_in_any_order (settings : Settings) (clock : Clock) (steps : List Step) (state : State)
    (order other : List SessionId) (time : Timestamp)
    (reached : ((start settings clock).run steps).state = state)
    (visits : order.Perm state.registry.ids) (visitsOther : other.Perm state.registry.ids)
    (still : state.clock.Shows time state.registry.ids.length) :
    let round := state.flushAllIn settings order
    let otherRound := state.flushAllIn settings other
    round.1 = otherRound.1 ∧
      round.2.registry = otherRound.2.registry ∧
      round.2.ledger = state.ledger ∧ otherRound.2.ledger = state.ledger ∧
      round.2.transport.connections = otherRound.2.transport.connections ∧
      (∀ name, round.2.transport.inboxes.find? name = otherRound.2.transport.inboxes.find? name) ∧
      State.RoundEffect settings state round.2 round.1 := by
  intro round otherRound
  have sound : state.Sound := by
    rw [← reached]
    exact sound_run (State.sound_start clock) steps
  have distinct : order.Nodup := visits.nodup_iff.mpr sound.distinct
  have same : order.Perm other := visits.trans visitsOther.symm
  have stillOrder : state.clock.Shows time order.length := visits.length_eq ▸ still
  have stillOther : state.clock.Shows time other.length := visitsOther.length_eq ▸ still
  have round_eq : round.2 = order.foldl (State.visited settings) state := by
    simp only [round, State.flushAllIn_eq]
  have otherRound_eq : otherRound.2 = other.foldl (State.visited settings) state := by
    simp only [otherRound, State.flushAllIn_eq]
  rw [round_eq, otherRound_eq]
  refine ⟨?_, State.registry_rounds sound distinct same stillOrder, State.ledger_round sound order,
    State.ledger_round sound other, ?_, State.inboxes_rounds sound distinct same stillOrder,
    State.round_effect settings sound visits stillOrder⟩
  · exact (State.summary_round sound visits stillOrder).trans
      (State.summary_round sound visitsOther stillOther).symm
  · exact (State.connections_round sound order).trans (State.connections_round sound other).symm

/-- Of five sessions, one has nothing pending, one is flushed, and the others are refused, each for
another reason. -/
theorem round_in_any_order_of_five :
    let viewer : SessionId := ⟨"viewer"⟩
    let idle : SessionId := ⟨"idle"⟩
    let full : SessionId := ⟨"full"⟩
    let shut : SessionId := ⟨"shut"⟩
    let missing : SessionId := ⟨"missing"⟩
    let clock := Clock.manual .direct ⟨100⟩
    let steps : List Step :=
      [.record (.ofNat 7) ⟨50⟩, .record (.ofNat 4) ⟨60⟩, .record (.ofNat 9) ⟨70⟩,
        .act (.attach viewer ⟨10⟩ ⟨10⟩), .act (.attach idle ⟨20⟩ ⟨200⟩),
        .act (.attach full ⟨30⟩ ⟨30⟩), .act (.attach shut ⟨40⟩ ⟨40⟩),
        .act (.attach missing ⟨50⟩ ⟨50⟩), .act (.register viewer 2 "viewer"),
        .act (.register idle 2 "idle"), .act (.register full 1 "full"),
        .act (.register shut 2 "shut"), .act (.closeInbox "shut")]
    let state := ((start .pairs clock).run steps).state
    let order := [missing, viewer, idle, shut, full]
    let other := [full, idle, shut, viewer, missing]
    order.Perm state.registry.ids ∧ other.Perm state.registry.ids ∧
      state.clock.Shows ⟨100⟩ state.registry.ids.length ∧
      (state.flushAllIn .pairs order).1 =
        { considered := 5, flushed := 1, failures := 3, packetsSent := 2, bytesSent := 74
          idsSent := 3 } ∧
      let round := state.flushAllIn .pairs order
      let otherRound := state.flushAllIn .pairs other
      round.1 = otherRound.1 ∧
        round.2.registry = otherRound.2.registry ∧
        round.2.ledger = state.ledger ∧ otherRound.2.ledger = state.ledger ∧
        round.2.transport.connections = otherRound.2.transport.connections ∧
        (∀ name,
          round.2.transport.inboxes.find? name = otherRound.2.transport.inboxes.find? name) ∧
        State.RoundEffect .pairs state round.2 round.1 := by
  intro viewer idle full shut missing clock steps state order other
  have visits : order.Perm state.registry.ids := by decide +kernel
  have visitsOther : other.Perm state.registry.ids := by decide +kernel
  have still : state.clock.Shows ⟨100⟩ state.registry.ids.length := by
    decide +kernel
  have summary_eq : (state.flushAllIn .pairs order).1 =
      { considered := 5, flushed := 1, failures := 3, packetsSent := 2, bytesSent := 74
        idsSent := 3 } := by
    decide +kernel
  exact ⟨visits, visitsOther, still, summary_eq,
    round_in_any_order .pairs clock steps state order other ⟨100⟩ rfl visits visitsOther still⟩

end Service

end Tombstone
