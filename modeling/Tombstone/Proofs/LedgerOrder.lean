import Tombstone.Ledger

/-!
# What a ledger holds, and in which order

A ledger made by recording and pruning keeps its buckets in ascending order of time and the ids of
each bucket in ascending order, and no bucket is empty. So cutting off the front of the buckets is
the same as selecting records by time, and the view `Ledger.records` lists each record held exactly
once, in ascending order of time and id.
-/

namespace Tombstone

/-- Records are ordered by time of deletion, and by id where the time is the same. -/
def Record.Before (left right : Record) : Prop :=
  left.deletedAt < right.deletedAt ∨ left.deletedAt = right.deletedAt ∧ left.id < right.id

/-- A bucket with at least one id, and its ids in ascending order. -/
structure Bucket.Ordered (bucket : Bucket) : Prop where
  ids_ne_nil : bucket.ids ≠ []
  ids_ascend : bucket.ids.Pairwise (· < ·)

theorem Bucket.Ordered.pairwise_records {bucket : Bucket} (ordered : bucket.Ordered) :
    bucket.records.Pairwise Record.Before :=
  List.pairwise_map.mpr (ordered.ids_ascend.imp fun smaller => Or.inr ⟨rfl, smaller⟩)

namespace Ledger

/-- A ledger whose buckets ascend in time and are ordered themselves. -/
structure Ordered (ledger : Ledger) : Prop where
  times_ascend : ledger.buckets.Pairwise fun left right => left.time < right.time
  bucket_ordered : ∀ bucket ∈ ledger.buckets, bucket.Ordered

theorem ordered_empty : ({} : Ledger).Ordered :=
  ⟨List.Pairwise.nil, fun _ bucket_mem => (List.not_mem_nil bucket_mem).elim⟩

/-! ## Inserting -/

theorem mem_insertId {id other : EntityId} {ids : List EntityId} :
    other ∈ insertId id ids ↔ other = id ∨ other ∈ ids := by
  induction ids with
  | nil => simp [insertId]
  | cons first rest ih =>
      simp only [insertId]
      split
      · simp
      · split
        · next same => simp [same]
        · simp [ih, or_left_comm]

theorem insertId_ne_nil (id : EntityId) (ids : List EntityId) : insertId id ids ≠ [] :=
  List.ne_nil_of_mem (mem_insertId.mpr (Or.inl rfl))

theorem pairwise_insertId {ids : List EntityId} (ascending : ids.Pairwise (· < ·))
    (id : EntityId) : (insertId id ids).Pairwise (· < ·) := by
  induction ids with
  | nil => simp [insertId]
  | cons first rest ih =>
      rcases List.pairwise_cons.mp ascending with ⟨first_lt, ascendingRest⟩
      simp only [insertId]
      split
      · next smaller =>
          refine List.pairwise_cons.mpr ⟨?_, ascending⟩
          intro other other_mem
          rcases List.mem_cons.mp other_mem with rfl | inRest
          · exact smaller
          · exact Nat.lt_trans smaller (first_lt other inRest)
      · next notSmaller =>
          split
          · exact ascending
          · next different =>
              refine List.pairwise_cons.mpr ⟨?_, ih ascendingRest⟩
              intro other other_mem
              rcases mem_insertId.mp other_mem with rfl | inRest
              · have unequal : first.toNat ≠ other.toNat := fun same =>
                  different (EntityId.toNat_inj.mp same.symm)
                exact Nat.lt_of_le_of_ne (Nat.le_of_not_lt notSmaller) unequal
              · exact first_lt other inRest

theorem mem_records_bucket {bucket : Bucket} {record : Record} :
    record ∈ bucket.records ↔ bucket.time = record.deletedAt ∧ record.id ∈ bucket.ids := by
  constructor
  · intro record_mem
    rcases List.mem_map.mp record_mem with ⟨id, id_mem, rfl⟩
    exact ⟨rfl, id_mem⟩
  · rintro ⟨same, id_mem⟩
    exact List.mem_map.mpr ⟨record.id, id_mem, by rw [same]⟩

theorem mem_flatMap_insertRecord {id : EntityId} {time : Timestamp} {buckets : List Bucket}
    {record : Record} :
    record ∈ (insertRecord id time buckets).flatMap Bucket.records ↔
      record = { deletedAt := time, id } ∨ record ∈ buckets.flatMap Bucket.records := by
  induction buckets with
  | nil => simp [insertRecord, Bucket.records]
  | cons first rest ih =>
      simp only [insertRecord]
      split
      · simp [Bucket.records]
      · split
        · next same =>
            cases record
            simp only [List.flatMap_cons, List.mem_append, mem_records_bucket, mem_insertId,
              Record.mk.injEq, same]
            grind
        · simp only [List.flatMap_cons, List.mem_append, ih, or_left_comm]

/-- The buckets after an insertion are those before and the one inserted into. -/
theorem time_of_mem_insertRecord {id : EntityId} {time : Timestamp} {buckets : List Bucket}
    {bucket : Bucket} (bucket_mem : bucket ∈ insertRecord id time buckets) :
    bucket.time = time ∨ ∃ held ∈ buckets, held.time = bucket.time := by
  induction buckets with
  | nil => simp_all [insertRecord]
  | cons first rest ih =>
      simp only [insertRecord] at bucket_mem
      split at bucket_mem
      · rcases List.mem_cons.mp bucket_mem with rfl | held
        · exact Or.inl rfl
        · exact Or.inr ⟨bucket, held, rfl⟩
      · split at bucket_mem
        · rcases List.mem_cons.mp bucket_mem with rfl | held
          · exact Or.inr ⟨first, List.mem_cons_self, rfl⟩
          · exact Or.inr ⟨bucket, List.mem_cons_of_mem _ held, rfl⟩
        · rcases List.mem_cons.mp bucket_mem with rfl | inRest
          · exact Or.inr ⟨bucket, List.mem_cons_self, rfl⟩
          · rcases ih inRest with same | ⟨held, held_mem, same⟩
            · exact Or.inl same
            · exact Or.inr ⟨held, List.mem_cons_of_mem _ held_mem, same⟩

theorem pairwise_insertRecord {buckets : List Bucket}
    (ascending : buckets.Pairwise fun left right => left.time < right.time) (id : EntityId)
    (time : Timestamp) :
    (insertRecord id time buckets).Pairwise fun left right => left.time < right.time := by
  induction buckets with
  | nil => simp [insertRecord]
  | cons first rest ih =>
      rcases List.pairwise_cons.mp ascending with ⟨first_lt, ascendingRest⟩
      simp only [insertRecord]
      split
      · next earlier =>
          refine List.pairwise_cons.mpr ⟨?_, ascending⟩
          intro bucket bucket_mem
          rcases List.mem_cons.mp bucket_mem with rfl | inRest
          · exact earlier
          · exact Nat.lt_trans earlier (first_lt bucket inRest)
      · next notEarlier =>
          split
          · exact List.pairwise_cons.mpr ⟨first_lt, ascendingRest⟩
          · next different =>
              refine List.pairwise_cons.mpr ⟨?_, ih ascendingRest⟩
              intro bucket bucket_mem
              rcases time_of_mem_insertRecord bucket_mem with same | ⟨held, held_mem, same⟩
              · have unequal : first.time.toNat ≠ time.toNat := fun equal =>
                  different (Timestamp.toNat_inj.mp equal.symm)
                rw [same]
                exact Nat.lt_of_le_of_ne (Nat.le_of_not_lt notEarlier) unequal
              · rw [← same]
                exact first_lt held held_mem

theorem bucket_ordered_insertRecord {buckets : List Bucket}
    (ordered : ∀ bucket ∈ buckets, bucket.Ordered) (id : EntityId) (time : Timestamp) :
    ∀ bucket ∈ insertRecord id time buckets, bucket.Ordered := by
  have alone : Bucket.Ordered { time, ids := [id] } := ⟨by simp, by simp⟩
  induction buckets with
  | nil =>
      intro bucket bucket_mem
      rw [List.mem_singleton.mp bucket_mem]
      exact alone
  | cons first rest ih =>
      rcases List.forall_mem_cons.mp ordered with ⟨firstOrdered, restOrdered⟩
      simp only [insertRecord]
      split
      · exact List.forall_mem_cons.mpr ⟨alone, ordered⟩
      · split
        · refine List.forall_mem_cons.mpr ⟨?_, restOrdered⟩
          exact ⟨insertId_ne_nil id first.ids, pairwise_insertId firstOrdered.ids_ascend id⟩
        · exact List.forall_mem_cons.mpr ⟨firstOrdered, ih restOrdered⟩

/-- Both ways of asking whether a deletion is held agree. -/
theorem holds_iff_mem_records {ledger : Ledger} {id : EntityId} {time : Timestamp} :
    ledger.holds id time = true ↔ { deletedAt := time, id } ∈ ledger.records := by
  simp [holds, records, mem_records_bucket]

theorem mem_records_record {ledger : Ledger} {id : EntityId} {time : Timestamp} {record : Record} :
    record ∈ (ledger.record id time).records ↔
      record = { deletedAt := time, id } ∨ record ∈ ledger.records := by
  simp only [Ledger.record]
  split
  · next held =>
      constructor
      · exact Or.inr
      · rintro (rfl | record_mem)
        · exact holds_iff_mem_records.mp held
        · exact record_mem
  · exact mem_flatMap_insertRecord

theorem Ordered.record {ledger : Ledger} (ordered : ledger.Ordered) (id : EntityId)
    (time : Timestamp) : (ledger.record id time).Ordered := by
  simp only [Ledger.record]
  split
  · exact ordered
  · exact ⟨pairwise_insertRecord ordered.times_ascend id time,
      bucket_ordered_insertRecord ordered.bucket_ordered id time⟩

/-! ## Selecting by time -/

/-- On ascending buckets, leaving out a front of early buckets leaves out every early record. -/
theorem flatMap_dropWhile_records {buckets : List Bucket} (early : Timestamp → Bool)
    (ascending : buckets.Pairwise fun left right => left.time < right.time)
    (closed : ∀ left right : Timestamp, left < right → early right = true → early left = true) :
    (buckets.dropWhile fun bucket => early bucket.time).flatMap Bucket.records =
      (buckets.flatMap Bucket.records).filter fun record => !early record.deletedAt := by
  induction buckets with
  | nil => rfl
  | cons first rest ih =>
      rcases List.pairwise_cons.mp ascending with ⟨first_lt, ascendingRest⟩
      by_cases dropped : early first.time = true
      · have none_kept : first.records.filter (fun record => !early record.deletedAt) = [] := by
          simp [Bucket.records, List.filter_map, Function.comp_def, dropped]
        simp only [List.dropWhile_cons, if_pos dropped, ih ascendingRest, List.flatMap_cons,
          List.filter_append, none_kept, List.nil_append]
      · -- The first bucket stays, and so do all behind it, which are later.
        simp only [List.dropWhile_cons, if_neg dropped]
        refine (List.filter_eq_self.mpr ?_).symm
        intro record record_mem
        rcases List.mem_flatMap.mp record_mem with ⟨bucket, bucket_mem, inBucket⟩
        rw [← (mem_records_bucket.mp inBucket).1]
        rcases List.mem_cons.mp bucket_mem with rfl | inRest
        · simpa using dropped
        · have kept : ¬early bucket.time = true := fun late =>
            dropped (closed _ _ (first_lt bucket inRest) late)
          simpa using kept

theorem Ordered.recordsAfter_eq_filter {ledger : Ledger} (ordered : ledger.Ordered)
    (since : Timestamp) :
    ledger.recordsAfter since = ledger.records.filter fun record => since < record.deletedAt := by
  have selected := flatMap_dropWhile_records (fun time => time ≤ since)
    ordered.times_ascend (by
      intro left right earlier within
      simp only [decide_eq_true_eq, Timestamp.le_iff, Timestamp.lt_iff] at *
      omega)
  refine selected.trans (List.filter_congr ?_)
  intro record _
  simp [Timestamp.le_iff, Timestamp.lt_iff, ← decide_not]

theorem Ordered.records_prune {ledger : Ledger} (ordered : ledger.Ordered) (before : Timestamp) :
    (ledger.prune before).records =
      ledger.records.filter fun record => before ≤ record.deletedAt := by
  have selected := flatMap_dropWhile_records (fun time => time < before)
    ordered.times_ascend (by
      intro left right earlier within
      simp only [decide_eq_true_eq, Timestamp.lt_iff] at *
      omega)
  refine selected.trans (List.filter_congr ?_)
  intro record _
  simp [Timestamp.le_iff, Timestamp.lt_iff, ← decide_not]

theorem Ordered.mem_recordsAfter {ledger : Ledger} (ordered : ledger.Ordered) {since : Timestamp}
    {record : Record} :
    record ∈ ledger.recordsAfter since ↔
      record ∈ ledger.records ∧ since < record.deletedAt := by
  rw [ordered.recordsAfter_eq_filter, List.mem_filter, decide_eq_true_eq]

theorem Ordered.mem_records_prune {ledger : Ledger} (ordered : ledger.Ordered) {before : Timestamp}
    {record : Record} :
    record ∈ (ledger.prune before).records ↔
      record ∈ ledger.records ∧ before ≤ record.deletedAt := by
  rw [ordered.records_prune, List.mem_filter, decide_eq_true_eq]

theorem Ordered.prune {ledger : Ledger} (ordered : ledger.Ordered) (before : Timestamp) :
    (ledger.prune before).Ordered := by
  have kept : (ledger.prune before).buckets.Sublist ledger.buckets := List.dropWhile_sublist _
  exact ⟨ordered.times_ascend.sublist kept,
    fun bucket bucket_mem => ordered.bucket_ordered bucket (kept.subset bucket_mem)⟩

/-- The ids of buckets are those of their records, in the same order. -/
theorem flatMap_ids_eq_map (buckets : List Bucket) :
    buckets.flatMap Bucket.ids = (buckets.flatMap Bucket.records).map (·.id) := by
  have ids_eq : Bucket.ids = fun bucket => bucket.records.map (·.id) := by
    funext bucket
    simp [Bucket.records, Function.comp_def]
  rw [List.map_flatMap, ids_eq]

theorem idsAfter_eq_map (ledger : Ledger) (since : Timestamp) :
    ledger.idsAfter since = (ledger.recordsAfter since).map (·.id) :=
  flatMap_ids_eq_map (ledger.window since)

theorem Ordered.mem_idsAfter {ledger : Ledger} (ordered : ledger.Ordered) {since : Timestamp}
    {record : Record} (held : record ∈ ledger.records) (later : since < record.deletedAt) :
    record.id ∈ ledger.idsAfter since := by
  rw [idsAfter_eq_map]
  exact List.mem_map.mpr ⟨record, ordered.mem_recordsAfter.mpr ⟨held, later⟩, rfl⟩

/-- As no bucket is empty, there is a record where there is a bucket. -/
theorem Ordered.exists_mem_records {ledger : Ledger} (ordered : ledger.Ordered)
    (some_bucket : ledger.hasBucket = true) : ∃ record, record ∈ ledger.records := by
  have nonempty : ledger.buckets ≠ [] := by simpa [hasBucket] using some_bucket
  rcases List.exists_mem_of_ne_nil _ nonempty with ⟨bucket, bucket_mem⟩
  rcases List.exists_mem_of_ne_nil _ (ordered.bucket_ordered bucket bucket_mem).ids_ne_nil with
    ⟨id, id_mem⟩
  exact ⟨{ deletedAt := bucket.time, id },
    List.mem_flatMap.mpr ⟨bucket, bucket_mem, mem_records_bucket.mpr ⟨rfl, id_mem⟩⟩⟩

/-! ## The order of the view -/

/-- Records are listed once each, in ascending order. -/
theorem Ordered.pairwise_records {ledger : Ledger} (ordered : ledger.Ordered) :
    ledger.records.Pairwise Record.Before := by
  refine List.pairwise_flatMap.mpr ⟨?_, ?_⟩
  · intro bucket bucket_mem
    exact (ordered.bucket_ordered bucket bucket_mem).pairwise_records
  · refine ordered.times_ascend.imp ?_
    intro left right earlier record record_mem other other_mem
    left
    rw [← (mem_records_bucket.mp record_mem).1, ← (mem_records_bucket.mp other_mem).1]
    exact earlier

theorem Ordered.pairwise_recordsAfter {ledger : Ledger} (ordered : ledger.Ordered)
    (since : Timestamp) : (ledger.recordsAfter since).Pairwise Record.Before := by
  rw [ordered.recordsAfter_eq_filter]
  exact ordered.pairwise_records.filter _

/-! ## Histories -/

/-- One change of a ledger. -/
inductive Change where
  /-- An entity was deleted at a time. -/
  | record (id : EntityId) (time : Timestamp)
  /-- The deletions before a time are forgotten. -/
  | prune (before : Timestamp)
  deriving DecidableEq, Repr

/-- Makes a change. -/
def apply (ledger : Ledger) : Change → Ledger
  | .record id time => ledger.record id time
  | .prune before => ledger.prune before

/-- The ledger that changes of the empty one lead to. -/
def ofChanges (changes : List Change) : Ledger := changes.foldl apply {}

theorem Ordered.apply {ledger : Ledger} (ordered : ledger.Ordered) (change : Change) :
    (ledger.apply change).Ordered := by
  cases change with
  | record id time => exact ordered.record id time
  | prune before => exact ordered.prune before

theorem ordered_ofChanges (changes : List Change) : (ofChanges changes).Ordered := by
  suffices run : ∀ ledger : Ledger, ledger.Ordered →
      (changes.foldl Ledger.apply ledger).Ordered from run {} ordered_empty
  induction changes with
  | nil => exact fun _ ordered => ordered
  | cons change rest ih =>
      intro ledger ordered
      exact ih (ledger.apply change) (ordered.apply change)

end Ledger

end Tombstone
