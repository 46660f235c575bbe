import Tombstone.Collector
import Tombstone.Proofs.Handover
import Tombstone.Proofs.LedgerOrder
import Tombstone.Proofs.WatermarkBound

/-!
# What a collection does

An uninterrupted collection leaves alone a ledger that holds nothing, and one that is retained for
sessions to come. Otherwise it prunes the ledger at the watermark of the clock's reading. Sessions
and connections are never touched.
-/

namespace Tombstone

namespace State

/-- The watermark that an uninterrupted collection uses. -/
def nextWatermark (state : State) : Watermark :=
  Watermark.ofVisits state.registry.cursors state.clock.read.1.time

theorem foldl_note_stalled (late : List Laggard) (state : State) :
    late.foldl (fun state laggard => state.note (.stalled laggard)) state =
      { state with journal := late.reverse.map .stalled ++ state.journal } := by
  induction late generalizing state with
  | nil => rfl
  | cons laggard rest ih =>
      rw [List.foldl_cons, ih]
      simp [note]

/-- The three ways in which an uninterrupted collection can go. -/
theorem collect_cases (rules : CollectionRules) {state : State} (quiet : state.Quiet) :
    (state.ledger.hasBucket = false ∧
      state.collect rules = (.skipped .emptyLedger, state)) ∨
    (state.ledger.hasBucket = true ∧
      (state.nextWatermark.isUnattended = true ∧ rules.policy = .retainAll) ∧
      ∃ journal, state.collect rules =
        (.skipped .retainedWithoutSessions,
          { state with clock := state.clock.read.2, journal })) ∨
    (state.ledger.hasBucket = true ∧
      ¬(state.nextWatermark.isUnattended = true ∧ rules.policy = .retainAll) ∧
      ∃ journal, state.collect rules =
        (.pruned state.nextWatermark (state.ledger.countBefore state.nextWatermark.value)
            (state.ledger.prune state.nextWatermark.value).size,
          { state with
            clock := state.clock.read.2
            ledger := state.ledger.prune state.nextWatermark.value
            journal })) := by
  rcases readClock_of_quiet quiet with ⟨readJournal, read_eq⟩
  simp only [collect]
  by_cases held : state.ledger.hasBucket = true
  · right
    simp only [held, if_true, read_eq, true_and, nextWatermark, Bool.and_eq_true,
      decide_eq_true_eq]
    split
    · next retained => exact Or.inl ⟨retained, _, rfl⟩
    · next pruned =>
        refine Or.inr ⟨pruned, ?_⟩
        rw [foldl_note_stalled]
        exact ⟨_, rfl⟩
  · exact Or.inl ⟨by simpa using held, by simp [held]⟩

theorem hasBucket_of_mem_records {ledger : Ledger} {record : Record}
    (record_mem : record ∈ ledger.records) : ledger.hasBucket = true := by
  rcases List.mem_flatMap.mp record_mem with ⟨bucket, bucket_mem, _⟩
  simp [Ledger.hasBucket, List.ne_nil_of_mem bucket_mem]

/-- A collection changes at most the ledger and the clock, and prunes at most what lies before the
watermark. -/
theorem collect_effect (rules : CollectionRules) {state : State} (quiet : state.Quiet) :
    ∃ ledger clock journal,
      (state.collect rules).2 = { state with ledger, clock, journal } ∧
      (ledger = state.ledger ∨ ledger = state.ledger.prune state.nextWatermark.value) ∧
      (clock = state.clock ∨ clock = state.clock.read.2) := by
  rcases collect_cases rules quiet with
    ⟨_, skipped⟩ | ⟨_, _, journal, retained⟩ | ⟨_, _, journal, pruned⟩
  · exact ⟨_, _, _, by rw [skipped], Or.inl rfl, Or.inl rfl⟩
  · exact ⟨_, _, journal, by rw [retained], Or.inl rfl, Or.inr rfl⟩
  · exact ⟨_, _, journal, by rw [pruned], Or.inr rfl, Or.inr rfl⟩

theorem registry_collect (rules : CollectionRules) {state : State} (quiet : state.Quiet) :
    (state.collect rules).2.registry = state.registry := by
  rcases collect_effect rules quiet with ⟨_, _, _, collect_eq, _, _⟩
  rw [collect_eq]

theorem transport_collect (rules : CollectionRules) {state : State} (quiet : state.Quiet) :
    (state.collect rules).2.transport = state.transport := by
  rcases collect_effect rules quiet with ⟨_, _, _, collect_eq, _, _⟩
  rw [collect_eq]

/-- While a session is connected, a record stays just if it does not lie before the watermark. -/
theorem mem_records_collect_iff (rules : CollectionRules) {state : State} {record : Record}
    (quiet : state.Quiet) (ordered : state.ledger.Ordered)
    (attended : state.registry.cursors ≠ []) (held : record ∈ state.ledger.records) :
    record ∈ (state.collect rules).2.ledger.records ↔
      state.nextWatermark.value ≤ record.deletedAt := by
  rcases collect_cases rules quiet with
    ⟨empty, _⟩ | ⟨_, ⟨unattended, _⟩, _⟩ | ⟨_, _, journal, pruned⟩
  · rw [hasBucket_of_mem_records held] at empty
    cases empty
  · rw [nextWatermark, Watermark.not_isUnattended attended] at unattended
    cases unattended
  · rw [pruned]
    exact ordered.mem_records_prune.trans (and_iff_right held)

end State

end Tombstone
