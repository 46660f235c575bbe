import Mathlib.Algebra.GroupWithZero.Nat
import Tombstone.Proofs.CollectionEffect
import Tombstone.Proofs.LedgerHistory

/-!
# Records are conserved

A ledger keeps its counts in step with what it holds: every record that was ever inserted is either
held or was removed by a prune. Any number of collectors may prune one ledger beside each other and
beside direct prunes, each looking at sessions and at a clock of its own. The ledger's counts then
sum up what all of them did, and each collector's tally sums up its own collections.
-/

namespace Tombstone

namespace Ledger

theorem length_insertId {id : EntityId} {ids : List EntityId} (fresh : id ∉ ids) :
    (insertId id ids).length = ids.length + 1 := by
  induction ids with
  | nil => rfl
  | cons first rest ih =>
      simp only [List.mem_cons, not_or] at fresh
      rcases fresh with ⟨different, freshRest⟩
      simp only [insertId, if_neg different]
      split
      · rfl
      · simp [ih freshRest]

theorem length_flatMap_insertRecord {id : EntityId} {time : Timestamp} {buckets : List Bucket}
    (fresh : { deletedAt := time, id } ∉ buckets.flatMap Bucket.records) :
    ((insertRecord id time buckets).flatMap Bucket.records).length =
      (buckets.flatMap Bucket.records).length + 1 := by
  induction buckets with
  | nil => simp [insertRecord, Bucket.records]
  | cons first rest ih =>
      simp only [List.flatMap_cons, List.mem_append, not_or] at fresh
      rcases fresh with ⟨freshFirst, freshRest⟩
      simp only [insertRecord]
      split
      · simp [Bucket.records, Nat.add_comm]
      · split
        · next same =>
            have freshId : id ∉ first.ids := by
              intro id_mem
              exact freshFirst (mem_records_bucket.mpr ⟨same.symm, id_mem⟩)
            simp [Bucket.records, length_insertId freshId, Nat.add_right_comm]
        · simp [ih freshRest, Nat.add_assoc]

/-- The counts of a ledger are in step with what it holds. -/
structure Balanced (ledger : Ledger) : Prop where
  ordered : ledger.Ordered
  size_eq : ledger.size = ledger.records.length
  total_eq : ledger.totalRecorded = ledger.size + ledger.totalPruned

theorem balanced_empty : ({} : Ledger).Balanced := ⟨ordered_empty, rfl, rfl⟩

section Counts

variable {ledger : Ledger}

theorem Balanced.record (balanced : ledger.Balanced) (id : EntityId) (time : Timestamp) :
    (ledger.record id time).Balanced := by
  refine ⟨balanced.ordered.record id time, ?_, ?_⟩
  · simp only [Ledger.record]
    split
    · exact balanced.size_eq
    · next fresh =>
        have absent : { deletedAt := time, id } ∉ ledger.records := by
          intro held
          exact fresh (holds_iff_mem_records.mpr held)
        simp only [records, length_flatMap_insertRecord absent, balanced.size_eq]
  · simp only [Ledger.record]
    split
    · exact balanced.total_eq
    · simp only [balanced.total_eq]
      omega

theorem Balanced.countBefore_le_size (balanced : ledger.Balanced) (before : Timestamp) :
    ledger.countBefore before ≤ ledger.size := by
  have parts := ledger.length_records_prune before
  have held := balanced.size_eq
  omega

theorem Balanced.prune (balanced : ledger.Balanced) (before : Timestamp) :
    (ledger.prune before).Balanced := by
  have parts := ledger.length_records_prune before
  have held := balanced.size_eq
  have total := balanced.total_eq
  refine ⟨balanced.ordered.prune before, ?_, ?_⟩
  · simp only [Ledger.prune] at parts ⊢
    omega
  · simp only [Ledger.prune]
    omega

theorem Balanced.apply (balanced : ledger.Balanced) (change : Change) :
    (ledger.apply change).Balanced := by
  cases change with
  | record id time => exact balanced.record id time
  | prune before => exact balanced.prune before

theorem balanced_ofChanges (changes : List Change) : (ofChanges changes).Balanced := by
  suffices run : ∀ ledger : Ledger, ledger.Balanced →
      (changes.foldl Ledger.apply ledger).Balanced from run {} balanced_empty
  induction changes with
  | nil => exact fun _ balanced => balanced
  | cons change rest ih =>
      intro ledger balanced
      exact ih (ledger.apply change) (balanced.apply change)

theorem Balanced.size_eq_sum (balanced : ledger.Balanced) :
    ledger.size = (ledger.buckets.map fun bucket => bucket.ids.length).sum := by
  rw [balanced.size_eq, records, List.length_flatMap]
  simp [Bucket.records]

/-- The ways of asking whether anything is held agree. -/
theorem Balanced.hasBucket_eq (balanced : ledger.Balanced) :
    ledger.hasBucket = !ledger.isEmpty ∧ ledger.hasBucket = ledger.oldest.isSome := by
  have held := balanced.size_eq_sum
  cases buckets : ledger.buckets with
  | nil => simp_all [hasBucket, isEmpty, oldest]
  | cons first rest =>
      have first_mem : first ∈ ledger.buckets := by simp [buckets]
      have some_id := List.length_pos_iff.mpr
        (balanced.ordered.bucket_ordered first first_mem).ids_ne_nil
      simp only [buckets, List.map_cons, List.sum_cons] at held
      have some_record : ledger.size ≠ 0 := by omega
      simp [hasBucket, isEmpty, oldest, buckets, some_record]

end Counts

end Ledger

/-! ## Collectors that share a ledger -/

namespace CollectionOutcome

/-- Whether a collection looked at single records. -/
def isPruned : CollectionOutcome → Bool
  | skipped _ => false
  | pruned .. => true

end CollectionOutcome

/-- A tally that sums up the outcomes of collections, the earliest of which stands first. -/
structure CollectionTally.SumsUp (tally : CollectionTally) (outcomes : List CollectionOutcome) :
    Prop where
  ticks_eq : tally.ticks = outcomes.length
  split_eq : tally.ticks = tally.skipped + outcomes.countP CollectionOutcome.isPruned
  recordsPruned_eq : tally.recordsPruned = (outcomes.map CollectionOutcome.removed).sum
  lastWatermark_eq : tally.lastWatermark =
    (outcomes.filterMap CollectionOutcome.watermark).getLast?.map (·.value)

theorem CollectionTally.sumsUp_nil : ({} : CollectionTally).SumsUp [] := ⟨rfl, rfl, rfl, rfl⟩

theorem CollectionTally.SumsUp.count {tally : CollectionTally} {outcomes : List CollectionOutcome}
    (sumsUp : tally.SumsUp outcomes) (outcome : CollectionOutcome) :
    (tally.count outcome).SumsUp (outcomes ++ [outcome]) := by
  rcases sumsUp with ⟨ticks, split, removed, watermark⟩
  cases outcome with
  | skipped reason =>
      refine ⟨?_, ?_, ?_, ?_⟩
      · simp [CollectionTally.count, ticks]
      · simp [CollectionTally.count, split, CollectionOutcome.isPruned, Nat.add_right_comm]
      · simp [CollectionTally.count, removed, CollectionOutcome.removed]
      · simp [CollectionTally.count, watermark, CollectionOutcome.watermark]
  | pruned bound count remaining =>
      refine ⟨?_, ?_, ?_, ?_⟩
      · simp [CollectionTally.count, ticks]
      · simp [CollectionTally.count, split, CollectionOutcome.isPruned, Nat.add_assoc]
      · simp [CollectionTally.count, removed, CollectionOutcome.removed]
      · simp [CollectionTally.count, CollectionOutcome.watermark]

/-- A ledger with the collectors that share it, under numbers. -/
structure SharedLedger where
  ledger : Ledger := {}
  collectors : Nat → Collector

/-- A use of a shared ledger. A collector looks at a registry and at a clock, which need not be those
of another collector or of an earlier tick. -/
inductive Use where
  | record (id : EntityId) (time : Timestamp)
  | prune (before : Timestamp)
  | tick (collector : Nat) (registry : Registry) (clock : Clock)

/-- What a use of a shared ledger gives. -/
inductive Answer where
  /-- The deletion was or was not held already. -/
  | recorded (fresh : Bool)
  /-- So many records were removed. -/
  | pruned (removed : Nat)
  /-- A collector's tick had this outcome. -/
  | ticked (collector : Nat) (outcome : CollectionOutcome)
  deriving DecidableEq, Repr

namespace Answer

/-- Whether a record was inserted. -/
def isFresh : Answer → Bool
  | recorded fresh => fresh
  | pruned _ | ticked _ _ => false

/-- The number of records removed. -/
def removed : Answer → Nat
  | recorded _ => 0
  | pruned removed => removed
  | ticked _ outcome => outcome.removed

/-- The outcome, if it is one of a collector's ticks. -/
def outcomeOf (collector : Nat) : Answer → Option CollectionOutcome
  | recorded _ | pruned _ => none
  | ticked other outcome => if other = collector then some outcome else none

end Answer

namespace SharedLedger

/-- An empty ledger, with collectors that have not collected yet. -/
def start (rules : Nat → CollectionRules) : SharedLedger :=
  { collectors := fun number => { rules := rules number } }

/-- Uses the ledger once. -/
def use (shared : SharedLedger) : Use → Answer × SharedLedger
  | .record id time =>
      (.recorded !shared.ledger.holds id time,
        { shared with ledger := shared.ledger.record id time })
  | .prune before =>
      (.pruned (shared.ledger.countBefore before),
        { shared with ledger := shared.ledger.prune before })
  | .tick number registry clock =>
      let (outcome, collector, state) :=
        (shared.collectors number).tick { ledger := shared.ledger, registry, clock }
      (.ticked number outcome,
        { ledger := state.ledger
          collectors := fun other => if other = number then collector else shared.collectors other })

/-- Uses the ledger several times, one after the other. -/
def run (shared : SharedLedger) : List Use → List Answer × SharedLedger
  | [] => ([], shared)
  | first :: rest =>
      let (answer, next) := shared.use first
      let (answers, last) := next.run rest
      (answer :: answers, last)

/-- The counts of the ledger and of its collectors sum up the answers given so far. -/
structure SumsUp (shared : SharedLedger) (answers : List Answer) : Prop where
  balanced : shared.ledger.Balanced
  recorded_eq : shared.ledger.totalRecorded = answers.countP Answer.isFresh
  pruned_eq : shared.ledger.totalPruned = (answers.map Answer.removed).sum
  tallies : ∀ number,
    (shared.collectors number).tally.SumsUp (answers.filterMap (Answer.outcomeOf number))

theorem sumsUp_start (rules : Nat → CollectionRules) : (start rules).SumsUp [] :=
  ⟨Ledger.balanced_empty, rfl, rfl, fun _ => CollectionTally.sumsUp_nil⟩

/-- A collection changes the ledger's counts by what it says to have removed. -/
theorem ledger_collect (state : State) (quiet : state.Quiet) (balanced : state.ledger.Balanced)
    (rules : CollectionRules) :
    (state.collect rules).2.ledger.Balanced ∧
      (state.collect rules).2.ledger.totalRecorded = state.ledger.totalRecorded ∧
      (state.collect rules).2.ledger.totalPruned =
        state.ledger.totalPruned + (state.collect rules).1.removed := by
  rcases State.collect_cases rules quiet with
    ⟨_, skipped⟩ | ⟨_, _, journal, retained⟩ | ⟨_, _, journal, pruned⟩
  · rw [skipped]
    exact ⟨balanced, rfl, rfl⟩
  · rw [retained]
    exact ⟨balanced, rfl, rfl⟩
  · rw [pruned]
    exact ⟨balanced.prune _, rfl, rfl⟩

theorem SumsUp.use {shared : SharedLedger} {answers : List Answer} (sumsUp : shared.SumsUp answers)
    (use : Use) : (shared.use use).2.SumsUp (answers ++ [(shared.use use).1]) := by
  rcases sumsUp with ⟨balanced, recorded, pruned, tallies⟩
  cases use with
  | record id time =>
      refine ⟨balanced.record id time, ?_, ?_, ?_⟩
      · cases held : shared.ledger.holds id time with
        | true => simp [SharedLedger.use, Ledger.record, held, recorded, Answer.isFresh]
        | false => simp [SharedLedger.use, Ledger.record, held, recorded, Answer.isFresh]
      · have same : (shared.ledger.record id time).totalPruned = shared.ledger.totalPruned := by
          simp only [Ledger.record]
          split <;> rfl
        simp [SharedLedger.use, same, pruned, Answer.removed]
      · intro number
        simpa [SharedLedger.use, List.filterMap_cons, Answer.outcomeOf] using tallies number
  | prune before =>
      refine ⟨balanced.prune before, ?_, ?_, ?_⟩
      · simp [SharedLedger.use, Ledger.prune, recorded, Answer.isFresh]
      · simp [SharedLedger.use, Ledger.prune, pruned, Answer.removed]
      · intro number
        simpa [SharedLedger.use, List.filterMap_cons, Answer.outcomeOf] using tallies number
  | tick number registry clock =>
      let state : State := { ledger := shared.ledger, registry, clock }
      rcases ledger_collect state rfl balanced (shared.collectors number).rules with
        ⟨balancedAfter, recordedSame, prunedMore⟩
      refine ⟨balancedAfter, ?_, ?_, ?_⟩
      · simpa [SharedLedger.use, Collector.tick, Answer.isFresh] using recordedSame.trans recorded
      · simpa [SharedLedger.use, Collector.tick, Answer.removed, ← pruned] using prunedMore
      · intro other
        by_cases own : other = number
        · subst own
          simpa [SharedLedger.use, Collector.tick, List.filterMap_cons, Answer.outcomeOf] using
            (tallies other).count (state.collect (shared.collectors other).rules).1
        · simpa [SharedLedger.use, List.filterMap_cons, Answer.outcomeOf, own, Ne.symm own] using
            tallies other

theorem SumsUp.run {shared : SharedLedger} {answers : List Answer} (sumsUp : shared.SumsUp answers)
    (uses : List Use) : (shared.run uses).2.SumsUp (answers ++ (shared.run uses).1) := by
  induction uses generalizing shared answers with
  | nil => simpa [SharedLedger.run] using sumsUp
  | cons first rest ih => simpa [SharedLedger.run] using ih (sumsUp.use first)

/-- Whatever uses are made of an empty ledger by any number of collectors and others beside them, no
bucket is empty, the ways of counting the records held agree, no prune removes more than there is,
and every record ever inserted is held or was removed. Each collector's tally sums up its own
collections. -/
theorem records_conserved (rules : Nat → CollectionRules) (uses : List Use) :
    let answers := ((start rules).run uses).1
    let last := ((start rules).run uses).2
    let ledger := last.ledger
    (∀ bucket ∈ ledger.buckets, bucket.ids ≠ []) ∧
    ledger.size = (ledger.buckets.map fun bucket => bucket.ids.length).sum ∧
    (ledger.hasBucket = !ledger.isEmpty ∧ ledger.hasBucket = ledger.oldest.isSome) ∧
    (∀ before, ledger.countBefore before ≤ ledger.size) ∧
    ledger.totalRecorded = ledger.size + ledger.totalPruned ∧
    ledger.totalRecorded = answers.countP Answer.isFresh ∧
    ledger.totalPruned = (answers.map Answer.removed).sum ∧
    ∀ number, (last.collectors number).tally.SumsUp
      (answers.filterMap (Answer.outcomeOf number)) := by
  intro answers last ledger
  have sumsUp : last.SumsUp answers := by simpa using (sumsUp_start rules).run uses
  have balanced := sumsUp.balanced
  refine ⟨?_, balanced.size_eq_sum, balanced.hasBucket_eq, balanced.countBefore_le_size,
    balanced.total_eq, sumsUp.recorded_eq, sumsUp.pruned_eq, sumsUp.tallies⟩
  intro bucket bucket_mem
  exact (balanced.ordered.bucket_ordered bucket bucket_mem).ids_ne_nil

end SharedLedger

end Tombstone
