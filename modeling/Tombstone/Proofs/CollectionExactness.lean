import Tombstone.Proofs.CleanRound
import Tombstone.Proofs.Conservation

/-!
# What a collection removes

A collection that finds nothing held, or that retains everything for sessions to come, is skipped.
Any other removes exactly the records before the watermark, which is the earliest of the instant
after now and the cursors of the connected sessions.
-/

namespace Tombstone

namespace Timestamp

/-- A time among others, none of which is earlier. -/
structure Earliest (time : Timestamp) (times : List Timestamp) : Prop where
  mem : time ∈ times
  le : ∀ other ∈ times, time ≤ other

end Timestamp

/-- The watermark is the earliest of its cap and the visited cursors. -/
theorem Watermark.earliest_value (visits : List Visit) (now : Timestamp) :
    (ofVisits visits now).value.Earliest (cap now :: visits.map (·.2)) := by
  rcases le_value_iff.mp (Nat.le_refl (ofVisits visits now).value.toNat) with
    ⟨value_le_cap, value_le⟩
  constructor
  · rcases value_cases visits now with capped | ⟨visit, visit_mem, bounded⟩
    · rw [capped]
      exact List.mem_cons_self
    · rw [bounded]
      exact List.mem_cons_of_mem _ (List.mem_map_of_mem visit_mem)
  · simp only [List.forall_mem_cons, List.forall_mem_map]
    exact ⟨value_le_cap, value_le⟩

/-- A ledger has a bucket just if it holds a record, as no bucket is empty. -/
theorem Ledger.Ordered.hasBucket_iff {ledger : Ledger} (ordered : ledger.Ordered) :
    ledger.hasBucket = true ↔ ledger.records ≠ [] := by
  constructor
  · intro some_bucket
    rcases ordered.exists_mem_records some_bucket with ⟨record, held⟩
    exact List.ne_nil_of_mem held
  · intro some_record
    rcases List.exists_mem_of_ne_nil _ some_record with ⟨record, held⟩
    exact State.hasBucket_of_mem_records held

namespace State

section Cases

variable {state : State} {rules : CollectionRules}

theorem collect_of_empty (ordered : state.ledger.Ordered) (empty : state.ledger.records = []) :
    state.collect rules = (.skipped .emptyLedger, state) := by
  have no_bucket : ¬state.ledger.hasBucket = true := by
    rw [ordered.hasBucket_iff]
    exact not_not_intro empty
  simp [collect, no_bucket]

theorem outcome_of_retains (quiet : state.Quiet) (ordered : state.ledger.Ordered)
    (held : state.ledger.records ≠ []) (retains : state.Retains rules) :
    (state.collect rules).1 = .skipped .retainedWithoutSessions := by
  have some_bucket := ordered.hasBucket_iff.mpr held
  rcases collect_cases rules quiet with
    ⟨no_bucket, _⟩ | ⟨_, _, journal, retained⟩ | ⟨_, attended, _⟩
  · rw [some_bucket] at no_bucket
    cases no_bucket
  · rw [retained]
  · exact absurd ⟨isUnattended_nextWatermark_iff.mpr retains.1, retains.2⟩ attended

theorem collect_of_not_retains (quiet : state.Quiet) (ordered : state.ledger.Ordered)
    (held : state.ledger.records ≠ []) (prunes : ¬state.Retains rules) :
    let before := state.nextWatermark.value
    (state.collect rules).1 = .pruned state.nextWatermark (state.ledger.countBefore before)
        (state.ledger.prune before).size ∧
      (state.collect rules).2.ledger = state.ledger.prune before := by
  have some_bucket := ordered.hasBucket_iff.mpr held
  rcases collect_cases rules quiet with
    ⟨no_bucket, _⟩ | ⟨_, ⟨unattended, policy⟩, _⟩ | ⟨_, _, journal, pruned⟩
  · rw [some_bucket] at no_bucket
    cases no_bucket
  · exact absurd ⟨isUnattended_nextWatermark_iff.mp unattended, policy⟩ prunes
  · rw [pruned]
    exact ⟨rfl, rfl⟩

/-- Whatever the collection does, it leaves each record that is at the watermark or later. -/
theorem mem_records_collect_of_watermark_le {record : Record} (quiet : state.Quiet)
    (ordered : state.ledger.Ordered) (held : record ∈ state.ledger.records)
    (not_before : state.nextWatermark.value ≤ record.deletedAt) :
    record ∈ (state.collect rules).2.ledger.records := by
  rcases collect_effect rules quiet with ⟨ledger, clock, journal, collect_eq, ledger_cases, _⟩
  rw [collect_eq]
  rcases ledger_cases with rfl | rfl
  · exact held
  · exact ordered.mem_records_prune.mpr ⟨held, not_before⟩

/-- The watermark is not after a time later than now. -/
theorem watermark_le_of_now_lt {time : Timestamp} (later : state.clock.read.1.time < time) :
    state.nextWatermark.value ≤ time := by
  apply Watermark.value_le_iff.mpr
  left
  rw [Timestamp.lt_iff] at later
  rw [Watermark.cap, Timestamp.le_iff, Timestamp.toNat_advance]
  omega

end Cases

end State

namespace Collector

/-- A tick is skipped, and the ledger stays as it is, if nothing is held or if nobody is connected
and the policy is to retain everything. Otherwise it removes exactly the records before the earliest
of the instant after now and the cursors of the connected sessions. A record that is not before the
slowest cursor or that is later than now always stays, and sessions are never touched. -/
theorem tick_removes_exactly (collector : Collector) (changes : List Ledger.Change) (state : State)
    (built : state.ledger = .ofChanges changes) (quiet : state.Quiet) :
    let now := state.clock.read.1.time
    let cursors := state.registry.cursors.map (·.2)
    let before := state.ledger
    let outcome := (collector.tick state).1
    let after := (collector.tick state).2.2
    (before.records = [] → outcome = .skipped .emptyLedger ∧ after.ledger = before) ∧
    (before.records ≠ [] → state.registry.ids = [] → collector.rules.policy = .retainAll →
      outcome = .skipped .retainedWithoutSessions ∧ after.ledger = before) ∧
    (before.records ≠ [] → ¬(state.registry.ids = [] ∧ collector.rules.policy = .retainAll) →
      ∃ watermark removed remaining, outcome = .pruned watermark removed remaining ∧
        watermark.value.Earliest (now.advance 1 :: cursors) ∧
        after.ledger.records = before.records.filter (watermark.value ≤ ·.deletedAt) ∧
        removed + remaining = before.size ∧ remaining = after.ledger.size ∧
        before.size = before.records.length ∧ after.ledger.size = after.ledger.records.length) ∧
    (∀ record ∈ before.records,
      (now < record.deletedAt ∨ ∃ cursor ∈ cursors, cursor ≤ record.deletedAt) →
        record ∈ after.ledger.records) ∧
    after.registry = state.registry := by
  intro now cursors before outcome after
  have balanced : before.Balanced := by
    simp only [before, built]
    exact Ledger.balanced_ofChanges changes
  have ordered := balanced.ordered
  refine ⟨?empty, ?retained, ?pruned, ?kept, State.registry_collect collector.rules quiet⟩
  case empty =>
    intro empty
    have skipped : state.collect collector.rules = _ := State.collect_of_empty ordered empty
    exact ⟨congrArg (·.1) skipped, congrArg (·.2.ledger) skipped⟩
  case retained =>
    intro held nobody policy
    have retains : state.Retains collector.rules := ⟨nobody, policy⟩
    exact ⟨State.outcome_of_retains quiet ordered held retains,
      (State.collect_of_retains quiet retains).1⟩
  case pruned =>
    intro held prunes
    rcases State.collect_of_not_retains quiet ordered held prunes with ⟨outcome_eq, ledger_eq⟩
    have balancedAfter := balanced.prune state.nextWatermark.value
    have parts := before.length_records_prune state.nextWatermark.value
    rw [← balanced.size_eq, ← balancedAfter.size_eq] at parts
    have after_eq : after.ledger = before.prune state.nextWatermark.value := ledger_eq
    refine ⟨_, _, _, outcome_eq, Watermark.earliest_value _ _, ?_⟩
    rw [after_eq]
    exact ⟨ordered.records_prune _, parts.symm, rfl, balanced.size_eq, balancedAfter.size_eq⟩
  case kept =>
    intro record held late
    apply State.mem_records_collect_of_watermark_le quiet ordered held
    rcases late with later | ⟨cursor, cursor_mem, not_before⟩
    · exact State.watermark_le_of_now_lt later
    · rcases List.mem_map.mp cursor_mem with ⟨visit, visit_mem, rfl⟩
      exact Nat.le_trans (Watermark.value_le_cursor visit_mem) not_before

/-- One session is ahead of the clock, one is behind, and at the slow one's cursor a record stays. -/
theorem tick_removes_exactly_before_slowest :
    let registry : Registry :=
      Registry.attach (Registry.attach {} ⟨"ahead"⟩ ⟨100⟩ ⟨500⟩) ⟨"slow"⟩ ⟨100⟩ ⟨60⟩
    let changes : List Ledger.Change :=
      [.record (.ofNat 1) ⟨20⟩, .prune ⟨30⟩, .record (.ofNat 2) ⟨59⟩, .record (.ofNat 3) ⟨60⟩,
        .record (.ofNat 4) ⟨300⟩]
    let state : State :=
      { ledger := .ofChanges changes, registry, clock := .manual .direct ⟨100⟩ }
    let collector : Collector := { rules := { policy := .retainAll } }
    let after := (collector.tick state).2.2
    state.ledger.records ≠ [] ∧
      ¬(state.registry.ids = [] ∧ collector.rules.policy = .retainAll) ∧
      (∃ watermark removed remaining,
        (collector.tick state).1 = .pruned watermark removed remaining ∧
        watermark.value.Earliest (Timestamp.advance ⟨100⟩ 1 :: [⟨500⟩, ⟨60⟩]) ∧
        after.ledger.records = state.ledger.records.filter (watermark.value ≤ ·.deletedAt) ∧
        removed + remaining = state.ledger.size ∧ remaining = after.ledger.size ∧
        state.ledger.size = state.ledger.records.length ∧
        after.ledger.size = after.ledger.records.length) ∧
      (collector.tick state).1 = .pruned ⟨⟨60⟩, .session ⟨"slow"⟩, 2⟩ 1 2 := by
  intro registry changes state collector after
  have held : state.ledger.records ≠ [] := by decide
  have prunes : ¬(state.registry.ids = [] ∧ collector.rules.policy = .retainAll) := by decide
  have exactly := (tick_removes_exactly collector changes state rfl rfl).2.2.1 held prunes
  exact ⟨held, prunes, exactly, by decide +kernel⟩

end Collector

end Tombstone
