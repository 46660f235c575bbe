import Tombstone.Proofs.LedgerOrder

/-!
# A ledger is the set of deletions that stand

After a history of recording and pruning, a deletion stands if it was recorded and no later prune had
a bound after its time. A ledger holds exactly the deletions that stand after its history: every
query lists those of its window in strictly ascending order, the first and the last bucket have their
earliest and latest time, and a prune removes as many as stand before its bound.
-/

namespace Tombstone

namespace Ledger

/-! ## Standing deletions -/

/-- No prune among the changes has a bound after a time. -/
def Spared (changes : List Change) (time : Timestamp) : Prop :=
  ∀ bound, Change.prune bound ∈ changes → ¬time < bound

/-- A deletion was recorded at some point of a history and no prune has taken it since. -/
def Standing (changes : List Change) (record : Record) : Prop :=
  ∃ earlier later, changes = earlier ++ .record record.id record.deletedAt :: later ∧
    Spared later record.deletedAt

theorem standing_nil (record : Record) : ¬Standing [] record := by
  rintro ⟨earlier, later, changes_eq, _⟩
  simp at changes_eq

theorem standing_cons {change : Change} {rest : List Change} {record : Record} :
    Standing (change :: rest) record ↔
      change = .record record.id record.deletedAt ∧ Spared rest record.deletedAt ∨
        Standing rest record := by
  constructor
  · rintro ⟨earlier, later, changes_eq, spared⟩
    cases earlier with
    | nil =>
        rcases List.cons.inj changes_eq with ⟨rfl, rfl⟩
        exact Or.inl ⟨rfl, spared⟩
    | cons first earlier =>
        rcases List.cons.inj changes_eq with ⟨_, rest_eq⟩
        exact Or.inr ⟨earlier, later, rest_eq, spared⟩
  · rintro (⟨rfl, spared⟩ | ⟨earlier, later, rfl, spared⟩)
    · exact ⟨[], rest, rfl, spared⟩
    · exact ⟨change :: earlier, later, rfl, spared⟩

theorem spared_cons_record {id : EntityId} {stamp time : Timestamp} {rest : List Change} :
    Spared (.record id stamp :: rest) time ↔ Spared rest time := by
  simp [Spared]

theorem spared_cons_prune {bound time : Timestamp} {rest : List Change} :
    Spared (.prune bound :: rest) time ↔ bound ≤ time ∧ Spared rest time := by
  simp [Spared, Timestamp.lt_iff, Timestamp.le_iff]

/-- What a ledger holds after further changes is what stands after them, and what it held before and
none of them has taken. -/
theorem Ordered.mem_records_foldl {ledger : Ledger} (ordered : ledger.Ordered)
    (changes : List Change) (record : Record) :
    record ∈ (changes.foldl Ledger.apply ledger).records ↔
      record ∈ ledger.records ∧ Spared changes record.deletedAt ∨ Standing changes record := by
  induction changes generalizing ledger with
  | nil => simp [Spared, standing_nil]
  | cons change rest ih =>
      rw [List.foldl_cons, ih (ordered.apply change), standing_cons]
      cases change with
      | record id time =>
          have made : Change.record id time = .record record.id record.deletedAt ↔
              record = { deletedAt := time, id } := by
            cases record
            simp [eq_comm, and_comm]
          rw [Ledger.apply, mem_records_record, spared_cons_record, made, or_and_right, or_assoc,
            or_left_comm]
      | prune bound =>
          rw [Ledger.apply, ordered.mem_records_prune, spared_cons_prune, and_assoc]
          simp

theorem mem_records_ofChanges {changes : List Change} {record : Record} :
    record ∈ (ofChanges changes).records ↔ Standing changes record := by
  rw [ofChanges, ordered_empty.mem_records_foldl]
  simp [records]

/-! ## The times of the buckets -/

theorem Ordered.mem_times_iff {ledger : Ledger} (ordered : ledger.Ordered) {time : Timestamp} :
    time ∈ ledger.buckets.map Bucket.time ↔
      ∃ record ∈ ledger.records, record.deletedAt = time := by
  constructor
  · intro time_mem
    rcases List.mem_map.mp time_mem with ⟨bucket, bucket_mem, rfl⟩
    have some_id := (ordered.bucket_ordered bucket bucket_mem).ids_ne_nil
    rcases List.exists_mem_of_ne_nil _ some_id with ⟨id, id_mem⟩
    refine ⟨{ deletedAt := bucket.time, id }, ?_, rfl⟩
    exact List.mem_flatMap.mpr ⟨bucket, bucket_mem, mem_records_bucket.mpr ⟨rfl, id_mem⟩⟩
  · rintro ⟨record, record_mem, rfl⟩
    rcases List.mem_flatMap.mp record_mem with ⟨bucket, bucket_mem, inBucket⟩
    exact List.mem_map.mpr ⟨bucket, bucket_mem, (mem_records_bucket.mp inBucket).1⟩

/-- The first of an ordered list is the member that comes before all others. -/
theorem head?_eq_some_iff_of_pairwise {α : Type} {before : α → α → Prop} {items : List α}
    (asymmetric : ∀ left right, before left right → ¬before right left)
    (ordered : items.Pairwise before) (item : α) :
    items.head? = some item ↔ item ∈ items ∧ ∀ other ∈ items, other = item ∨ before item other := by
  cases items with
  | nil => simp
  | cons first rest =>
      rcases List.pairwise_cons.mp ordered with ⟨first_before, _⟩
      rw [List.head?_cons, Option.some.injEq]
      constructor
      · rintro rfl
        refine ⟨List.mem_cons_self, ?_⟩
        intro other other_mem
        rcases List.mem_cons.mp other_mem with rfl | inRest
        · exact Or.inl rfl
        · exact Or.inr (first_before other inRest)
      · rintro ⟨item_mem, least⟩
        rcases List.mem_cons.mp item_mem with rfl | inRest
        · rfl
        · rcases least first List.mem_cons_self with same | earlier
          · exact same
          · exact absurd earlier (asymmetric _ _ (first_before item inRest))

/-- The times of the buckets in some order begin with the time that comes before those of all other
records. -/
theorem Ordered.head?_times_eq_some_iff {ledger : Ledger} (ordered : ledger.Ordered)
    {before : Timestamp → Timestamp → Prop} {times : List Timestamp}
    (asymmetric : ∀ left right, before left right → ¬before right left)
    (arranged : times.Pairwise before)
    (complete : ∀ time, time ∈ times ↔ time ∈ ledger.buckets.map Bucket.time) (time : Timestamp) :
    times.head? = some time ↔ (∃ record ∈ ledger.records, record.deletedAt = time) ∧
      ∀ record ∈ ledger.records, record.deletedAt = time ∨ before time record.deletedAt := by
  have mem_iff : ∀ other, other ∈ times ↔ ∃ record ∈ ledger.records, record.deletedAt = other := by
    intro other
    rw [complete, ordered.mem_times_iff]
  refine (head?_eq_some_iff_of_pairwise asymmetric arranged time).trans (and_congr (mem_iff time) ?_)
  constructor
  · intro first record record_mem
    exact first record.deletedAt ((mem_iff _).mpr ⟨record, record_mem, rfl⟩)
  · intro first other other_mem
    rcases (mem_iff other).mp other_mem with ⟨record, record_mem, rfl⟩
    exact first record record_mem

theorem Ordered.oldest_eq_some_iff {ledger : Ledger} (ordered : ledger.Ordered)
    {time : Timestamp} :
    ledger.oldest = some time ↔ (∃ record ∈ ledger.records, record.deletedAt = time) ∧
      ∀ record ∈ ledger.records, time ≤ record.deletedAt := by
  have ascending : (ledger.buckets.map Bucket.time).Pairwise (· < ·) :=
    List.pairwise_map.mpr ordered.times_ascend
  rw [oldest, ← List.head?_map, ordered.head?_times_eq_some_iff (fun _ _ => Nat.lt_asymm) ascending
    (fun _ => Iff.rfl)]
  simp only [← Timestamp.toNat_inj, Timestamp.le_iff, Nat.le_iff_lt_or_eq, or_comm, eq_comm]

theorem Ordered.newest_eq_some_iff {ledger : Ledger} (ordered : ledger.Ordered)
    {time : Timestamp} :
    ledger.newest = some time ↔ (∃ record ∈ ledger.records, record.deletedAt = time) ∧
      ∀ record ∈ ledger.records, record.deletedAt ≤ time := by
  have descending : (ledger.buckets.map Bucket.time).reverse.Pairwise fun left right =>
      right < left := List.pairwise_reverse.mpr (List.pairwise_map.mpr ordered.times_ascend)
  rw [newest, ← List.getLast?_map, ← List.head?_reverse,
    ordered.head?_times_eq_some_iff (fun _ _ => Nat.lt_asymm) descending
      (fun _ => List.mem_reverse)]
  simp only [← Timestamp.toNat_inj, Timestamp.le_iff, Nat.le_iff_lt_or_eq, or_comm]

/-! ## Windows and prunes -/

/-- A window has a bucket just if it has a record, as no bucket is empty. -/
theorem Ordered.hasRecordAfter_iff {ledger : Ledger} (ordered : ledger.Ordered)
    {since : Timestamp} :
    ledger.hasRecordAfter since = true ↔ ledger.recordsAfter since ≠ [] := by
  have kept : (ledger.window since).Sublist ledger.buckets := List.dropWhile_sublist _
  cases buckets : ledger.window since with
  | nil => simp [hasRecordAfter, recordsAfter, buckets]
  | cons first rest =>
      have first_mem : first ∈ ledger.buckets := kept.subset (by simp [buckets])
      have some_id := (ordered.bucket_ordered first first_mem).ids_ne_nil
      simp [hasRecordAfter, recordsAfter, buckets, Bucket.records, some_id]

/-- A window has a record just if the newest record lies in it. -/
theorem Ordered.recordsAfter_ne_nil_iff {ledger : Ledger} (ordered : ledger.Ordered)
    {since : Timestamp} :
    ledger.recordsAfter since ≠ [] ↔ ∃ time, ledger.newest = some time ∧ since < time := by
  constructor
  · intro some_record
    rcases List.exists_mem_of_ne_nil _ some_record with ⟨record, record_mem⟩
    rcases ordered.mem_recordsAfter.mp record_mem with ⟨held, later⟩
    cases newest_eq : ledger.newest with
    | none =>
        have no_bucket : ledger.buckets = [] := by simpa [newest] using newest_eq
        simp [records, no_bucket] at held
    | some time =>
        have not_after := (ordered.newest_eq_some_iff.mp newest_eq).2 record held
        exact ⟨time, rfl, Nat.lt_of_lt_of_le later not_after⟩
  · rintro ⟨time, newest_eq, later⟩
    rcases (ordered.newest_eq_some_iff.mp newest_eq).1 with ⟨record, record_mem, rfl⟩
    exact List.ne_nil_of_mem (ordered.mem_recordsAfter.mpr ⟨record_mem, later⟩)

/-- A prune divides the records held into those that it removes and those that it leaves. -/
theorem length_records_prune (ledger : Ledger) (before : Timestamp) :
    ledger.records.length = ledger.countBefore before + (ledger.prune before).records.length := by
  rw [countBefore, flatMap_ids_eq_map, List.length_map, records, records, Ledger.prune,
    ← List.length_append, ← List.flatMap_append, List.takeWhile_append_dropWhile]

/-- A prune removes as many records as lie before its bound. -/
theorem Ordered.countBefore_eq {ledger : Ledger} (ordered : ledger.Ordered) (before : Timestamp) :
    ledger.countBefore before =
      (ledger.records.filter fun record => record.deletedAt < before).length := by
  have parts := ledger.length_records_prune before
  have kept : (ledger.prune before).records.length =
      ledger.records.countP fun record => before ≤ record.deletedAt := by
    rw [ordered.records_prune, List.countP_eq_length_filter]
  have early : ledger.records.countP (fun record => record.deletedAt < before) =
      ledger.records.countP fun record => !decide (before ≤ record.deletedAt) := by
    simp only [Timestamp.le_iff, Timestamp.lt_iff, ← Nat.not_le, decide_not]
  have both := List.length_eq_countP_add_countP
    (fun record : Record => decide (before ≤ record.deletedAt)) (l := ledger.records)
  simp only [decide_not, decide_eq_true_eq] at both
  rw [← List.countP_eq_length_filter]
  omega

/-! ## Whole histories -/

/-- Records in strictly ascending order, which are all those of a kind. -/
structure Enumerates (records : List Record) (kind : Record → Prop) : Prop where
  ascends : records.Pairwise Record.Before
  mem_iff : ∀ record, record ∈ records ↔ kind record

/-- After any history a ledger answers every question as the set of deletions that stand would. -/
theorem ofChanges_refines_standing (changes : List Change) :
    let ledger := ofChanges changes
    (∀ since,
      Enumerates (ledger.recordsAfter since)
          (fun record => Standing changes record ∧ since < record.deletedAt) ∧
        ledger.idsAfter since = (ledger.recordsAfter since).map (·.id) ∧
        (ledger.hasRecordAfter since = true ↔ ledger.recordsAfter since ≠ []) ∧
        (ledger.recordsAfter since ≠ [] ↔ ∃ time, ledger.newest = some time ∧ since < time)) ∧
    (∀ time, ledger.oldest = some time ↔
      (∃ record, Standing changes record ∧ record.deletedAt = time) ∧
        ∀ record, Standing changes record → time ≤ record.deletedAt) ∧
    (∀ time, ledger.newest = some time ↔
      (∃ record, Standing changes record ∧ record.deletedAt = time) ∧
        ∀ record, Standing changes record → record.deletedAt ≤ time) ∧
    ∀ earlier bound later, changes = earlier ++ .prune bound :: later →
      ∃ removed,
        Enumerates removed (fun record => Standing earlier record ∧ record.deletedAt < bound) ∧
        (ofChanges earlier).countBefore bound = removed.length := by
  intro ledger
  have ordered := ordered_ofChanges changes
  refine ⟨?_, ?_, ?_, ?_⟩
  · intro since
    refine ⟨⟨ordered.pairwise_recordsAfter since, ?_⟩, idsAfter_eq_map ledger since,
      ordered.hasRecordAfter_iff, ordered.recordsAfter_ne_nil_iff⟩
    intro record
    rw [ordered.mem_recordsAfter, mem_records_ofChanges]
  · intro time
    simp only [ledger, ordered.oldest_eq_some_iff, mem_records_ofChanges]
  · intro time
    simp only [ledger, ordered.newest_eq_some_iff, mem_records_ofChanges]
  · rintro earlier bound later rfl
    have orderedEarlier := ordered_ofChanges earlier
    refine ⟨_, ⟨orderedEarlier.pairwise_records.filter _, ?_⟩, orderedEarlier.countBefore_eq bound⟩
    intro record
    rw [List.mem_filter, mem_records_ofChanges, decide_eq_true_eq]

end Ledger

end Tombstone
