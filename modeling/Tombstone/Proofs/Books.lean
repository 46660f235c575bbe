import Mathlib.Data.List.Dedup
import Tombstone.Proofs.Conservation
import Tombstone.Proofs.Viewers

/-!
# A log beside the ledger

Where deletions are recorded over a hand-driven clock and only one collector removes them, a log of
all recordings tells what the ledger has counted: the recordings of different deletions, of which
those that were removed are in the collector's tally. Recording, moving the clock on, collecting,
and whatever is done for one session keep the books right, and keep viewers informed.
-/

namespace Tombstone

theorem CollectionTally.ticks_count (tally : CollectionTally) (outcome : CollectionOutcome) :
    (tally.count outcome).ticks = tally.ticks + 1 := by
  cases outcome <;> rfl

theorem CollectionTally.recordsPruned_count (tally : CollectionTally)
    (outcome : CollectionOutcome) :
    (tally.count outcome).recordsPruned = tally.recordsPruned + outcome.removed := by
  cases outcome <;> rfl

namespace Service

/-- The books at a time: the named sessions may be connected, and the log has what was recorded. -/
structure Books (names : List SessionId) (now : Timestamp) (log : List Record)
    (service : Service) : Prop where
  apart : service.state.Apart SessionId.mk now
  known : ∀ session ∈ service.state.registry.ids, session ∈ names
  balanced : service.state.ledger.Balanced
  stamped : ∀ record ∈ log, Timestamp.zero < record.deletedAt ∧ record.deletedAt ≤ now
  logged : ∀ record ∈ service.state.ledger.records, record ∈ log
  recorded_eq : service.state.ledger.totalRecorded = log.dedup.length
  pruned_eq : service.collector.tally.recordsPruned = service.state.ledger.totalPruned

/-- What was recorded at the present time is held. -/
def HoldsPresent (now : Timestamp) (log : List Record) (service : Service) : Prop :=
  ∀ record ∈ log, record.deletedAt = now → record ∈ service.state.ledger.records

section Books

variable {names : List SessionId} {now : Timestamp} {log : List Record}
  {service after : Service} {viewer : Viewer}

theorem books_start (settings : Settings) (names : List SessionId) (time : Timestamp) :
    (start settings (.manual .direct time)).Books names time [] := by
  refine ⟨⟨State.sound_start _, Transport.owned_empty _, Clock.rests_manual time⟩, ?_,
    Ledger.balanced_empty, ?_, ?_, rfl, rfl⟩
  · exact fun session connected => absurd connected List.not_mem_nil
  · exact fun record recorded => absurd recorded List.not_mem_nil
  · exact fun record held => absurd held List.not_mem_nil

/-- What is recorded is held or was removed. -/
theorem Books.pruned_add_size (books : service.Books names now log) :
    service.collector.tally.recordsPruned + service.state.ledger.size = log.dedup.length := by
  rw [books.pruned_eq, ← books.recorded_eq, books.balanced.total_eq, Nat.add_comm]

/-- What is done for a named session makes no difference to the books. -/
theorem Books.concerns (books : service.Books names now log) {session : SessionId}
    (named : session ∈ names) (concerns : Concerns session now service after) :
    after.Books names now log := by
  rcases books with ⟨_, known, balanced, stamped, logged, recorded_eq, pruned_eq⟩
  rw [← concerns.ledger_eq] at balanced logged recorded_eq pruned_eq
  rw [← concerns.collector_eq] at pruned_eq
  refine ⟨concerns.apart, ?_, balanced, stamped, logged, recorded_eq, pruned_eq⟩
  intro other connected
  by_cases own : other = session
  · rw [own]
    exact named
  · apply known other
    rw [← Registry.isConnected_iff_mem_ids] at connected ⊢
    rw [← (concerns.mirrors other own).isConnected_eq]
    exact connected

/-! ### Moving the clock on -/

theorem rests_advance (books : service.Books names now log) (micros : Nat) :
    (service.take (.act (.advanceClock micros))).state.clock.Rests (now.advanceWrapping micros) := by
  have rests := books.apart.rests
  simp only [take, State.perform, rests.hand_eq]
  exact rests.set _

theorem Books.advance (books : service.Books names now log) {micros : Nat}
    (not_before : now ≤ now.advanceWrapping micros) :
    (service.take (.act (.advanceClock micros))).Books names (now.advanceWrapping micros) log := by
  refine ⟨⟨sound_take books.apart.sound _, books.apart.owned, rests_advance books micros⟩,
    books.known, books.balanced, ?_, books.logged, books.recorded_eq, books.pruned_eq⟩
  intro record record_mem
  rcases books.stamped record record_mem with ⟨positive, not_after⟩
  exact ⟨positive, Nat.le_trans not_after not_before⟩

/-- Once the clock has moved on, nothing was recorded at the present time yet. -/
theorem Books.holdsPresent_advance (books : service.Books names now log) {micros : Nat}
    (moved : now < now.advanceWrapping micros) :
    (service.take (.act (.advanceClock micros))).HoldsPresent (now.advanceWrapping micros) log := by
  intro record record_mem present
  have not_after := (books.stamped record record_mem).2
  rw [present] at not_after
  exact absurd moved (Nat.not_lt_of_le not_after)

/-! ### Recording -/

theorem recordNow_effect (apart : service.state.Apart SessionId.mk now) (id : EntityId) :
    ∃ journal, service.recordNow id =
      (now,
        { service with
          state :=
            { service.state with
              clock := service.state.clock.read.2
              ledger := service.state.ledger.record id now
              journal } }) := by
  rcases State.readClock_of_quiet apart.sound.quiet with ⟨journal, read_eq⟩
  rw [apart.rests.time_eq] at read_eq
  exact ⟨journal, by rw [recordNow, read_eq]⟩

/-- A recording at the present time is counted if the log does not have it yet. -/
theorem recorded_eq_cons (books : service.Books names now log)
    (present : service.HoldsPresent now log) (id : EntityId) :
    (service.state.ledger.record id now).totalRecorded =
      ({ deletedAt := now, id } :: log : List Record).dedup.length := by
  by_cases known : { deletedAt := now, id } ∈ log
  · have held := Ledger.holds_iff_mem_records.mpr (present _ known rfl)
    rw [Ledger.record, if_pos held, List.dedup_cons_of_mem known, books.recorded_eq]
  · have fresh : ¬service.state.ledger.holds id now = true :=
      fun held => known (books.logged _ (Ledger.holds_iff_mem_records.mp held))
    rw [Ledger.record, if_neg fresh, List.dedup_cons_of_notMem known, List.length_cons,
      books.recorded_eq]

theorem Books.recordNow (books : service.Books names now log) (positive : Timestamp.zero < now)
    (present : service.HoldsPresent now log) (id : EntityId) :
    (service.recordNow id).2.Books names now ({ deletedAt := now, id } :: log) ∧
      (service.recordNow id).2.HoldsPresent now ({ deletedAt := now, id } :: log) := by
  have sound := sound_take books.apart.sound (.recordNow id)
  have recorded_eq := recorded_eq_cons books present id
  rcases recordNow_effect books.apart id with ⟨journal, record_eq⟩
  rw [take, record_eq] at sound
  rw [record_eq]
  have total_eq : (service.state.ledger.record id now).totalPruned =
      service.state.ledger.totalPruned := by
    rw [Ledger.record]
    split <;> rfl
  refine ⟨⟨⟨sound, books.apart.owned, books.apart.rests.read⟩, books.known,
    books.balanced.record id now, ?_, ?_, recorded_eq, books.pruned_eq.trans total_eq.symm⟩, ?_⟩
  · exact List.forall_mem_cons.mpr ⟨⟨positive, Nat.le_refl _⟩, books.stamped⟩
  · intro record held
    rcases Ledger.mem_records_record.mp held with rfl | held
    · exact List.mem_cons_self
    · exact List.mem_cons_of_mem _ (books.logged record held)
  · intro record record_mem stamped
    apply Ledger.mem_records_record.mpr
    rcases List.mem_cons.mp record_mem with rfl | known
    · exact Or.inl rfl
    · exact Or.inr (present record known stamped)

/-! ### Collecting -/

theorem Books.collect (books : service.Books names now log) :
    service.collect.2.Books names now log := by
  have sound := books.apart.sound
  have quiet := sound.quiet
  let rules := service.collector.rules
  rcases SharedLedger.ledger_collect service.state quiet books.balanced rules with
    ⟨balanced, recorded_eq, pruned_eq⟩
  have transport_eq := State.transport_collect rules quiet
  have registry_eq := State.registry_collect rules quiet
  refine ⟨⟨sound.collect rules, ?_, ?_⟩, ?_, balanced, books.stamped, ?_,
    recorded_eq.trans books.recorded_eq, ?_⟩
  · exact transport_eq ▸ books.apart.owned
  · rcases State.collect_effect rules quiet with ⟨_, clock, _, collect_eq, _, rfl | rfl⟩
    · exact (congrArg State.clock collect_eq) ▸ books.apart.rests
    · exact (congrArg State.clock collect_eq) ▸ books.apart.rests.read
  · exact registry_eq ▸ books.known
  · exact fun record held => books.logged record (State.mem_records_of_collect sound held)
  · refine (CollectionTally.recordsPruned_count _ _).trans ?_
    rw [books.pruned_eq]
    exact pruned_eq.symm

end Books

end Service

namespace Viewer

section Informed

variable {viewer : Viewer} {names : List SessionId} {now : Timestamp} {log : List Record}
  {service : Service}

theorem Informed.advance (informed : viewer.Informed now log service.state) {micros : Nat}
    (not_before : now ≤ now.advanceWrapping micros) :
    viewer.Informed (now.advanceWrapping micros) log
      (service.take (.act (.advanceClock micros))).state := by
  refine ⟨informed.connected_eq, fun cursor found => ?_, ?_⟩
  · exact Nat.le_trans (informed.cursor_le cursor found) not_before
  · intro attachedAt attached record record_mem later
    exact (informed.told attachedAt attached record record_mem later).imp id
      fun pending => ⟨pending.held, pending.cursor_le⟩

/-- What is recorded now is pending for every viewer. -/
theorem Informed.recordNow (informed : viewer.Informed now log service.state)
    (apart : service.state.Apart SessionId.mk now) (id : EntityId) :
    viewer.Informed now ({ deletedAt := now, id } :: log) (service.recordNow id).2.state := by
  rcases Service.recordNow_effect apart id with ⟨journal, record_eq⟩
  rw [record_eq]
  refine ⟨informed.connected_eq, informed.cursor_le, ?_⟩
  intro attachedAt attached record record_mem later
  rcases List.mem_cons.mp record_mem with rfl | known
  · exact Or.inr ⟨Ledger.mem_records_record.mpr (Or.inl rfl), informed.cursor_le⟩
  · refine (informed.told attachedAt attached record known later).imp (fun told => told)
      fun pending => ⟨Ledger.mem_records_record.mpr (Or.inr pending.held), pending.cursor_le⟩

/-- A collection leaves what is pending for a viewer that is connected. -/
theorem Informed.collect (informed : viewer.Informed now log service.state)
    (sound : service.state.Sound) :
    viewer.Informed now log service.collect.2.state := by
  have registry_eq : service.collect.2.state.registry = service.state.registry :=
    State.registry_collect service.collector.rules sound.quiet
  refine ⟨registry_eq ▸ informed.connected_eq, registry_eq ▸ informed.cursor_le, ?_⟩
  intro attachedAt attached record record_mem later
  have connected : service.state.registry.isConnected viewer.session = true := by
    rw [informed.connected_eq, isConnected, attached]
    rfl
  exact (informed.told attachedAt attached record record_mem later).imp (fun told => told)
    fun pending => pending.collect sound connected service.collector.rules

end Informed

end Viewer

end Tombstone
