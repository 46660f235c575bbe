import Tombstone.Watermark

/-!
# What bounds the watermark

The slowest visit is one than which no other is slower, whatever the order of visiting. So the
watermark is the greatest time that lies neither after the cap nor after any visited cursor.
-/

namespace Tombstone

namespace Visit

theorem isSlower_iff {left right : Visit} :
    left.isSlower right = true ↔
      left.2.toNat < right.2.toNat ∨
        left.2.toNat = right.2.toNat ∧ left.1.name < right.1.name := by
  simp only [isSlower, Bool.or_eq_true, Bool.and_eq_true, decide_eq_true_eq, Timestamp.lt_iff,
    Timestamp.toNat_inj]
  rfl

theorem isSlower_asymm {left right : Visit} (slower : left.isSlower right = true) :
    ¬right.isSlower left = true := by
  rw [isSlower_iff] at slower ⊢
  rintro (later | ⟨same, name_lt⟩)
  · omega
  · rcases slower with earlier | ⟨_, name_gt⟩
    · omega
    · exact String.lt_asymm name_lt name_gt

/-- A visit that is not behind another is behind whatever the other is behind. -/
theorem isSlower_of_not_isSlower {left middle right : Visit}
    (not_behind : ¬middle.isSlower left = true) (slower : middle.isSlower right = true) :
    left.isSlower right = true := by
  rw [isSlower_iff] at not_behind slower ⊢
  by_cases earlier : left.2.toNat < right.2.toNat
  · exact Or.inl earlier
  · right
    have same : middle.2.toNat = left.2.toNat := by omega
    have name_le : left.1.name ≤ middle.1.name :=
      String.not_lt.mp fun name_lt => not_behind (Or.inr ⟨same, name_lt⟩)
    rcases slower with before | ⟨equal, name_lt⟩
    · omega
    · refine ⟨by omega, ?_⟩
      rw [← String.not_le] at name_lt ⊢
      exact fun reversed => name_lt (String.le_trans reversed name_le)

theorem cursor_le_of_not_isSlower {left right : Visit} (not_slower : ¬left.isSlower right = true) :
    right.2 ≤ left.2 := by
  rw [isSlower_iff] at not_slower
  rw [Timestamp.le_iff]
  omega

end Visit

theorem slowest_some (held : Visit) (visits : List Visit) :
    ∃ best ∈ held :: visits, slowest (some held) visits = some best ∧
      ∀ visit ∈ held :: visits, ¬visit.isSlower best = true := by
  induction visits generalizing held with
  | nil =>
      refine ⟨held, List.mem_singleton_self held, rfl, ?_⟩
      intro visit visit_mem
      rw [List.mem_singleton.mp visit_mem]
      exact fun slower => Visit.isSlower_asymm slower slower
  | cons visit rest ih =>
      rcases ih (if visit.isSlower held then visit else held) with ⟨best, best_mem, found, least⟩
      refine ⟨best, ?_, found, ?_⟩
      · rcases List.mem_cons.mp best_mem with chosen | inRest
        · split at chosen <;> simp [chosen]
        · simp [inRest]
      · -- Whichever of the two was dropped, the one kept was not behind it.
        have kept := least _ List.mem_cons_self
        simp only [List.forall_mem_cons]
        refine ⟨?_, ?_, fun other other_mem => least other (List.mem_cons_of_mem _ other_mem)⟩
        · split at kept
          · next slower =>
              exact fun behind => kept
                (Visit.isSlower_of_not_isSlower (Visit.isSlower_asymm slower) behind)
          · exact kept
        · split at kept
          · exact kept
          · next notSlower =>
              exact fun behind => kept (Visit.isSlower_of_not_isSlower notSlower behind)

/-- The slowest of some visits is one of them, and none is behind it. -/
theorem slowest_none {visits : List Visit} (nonempty : visits ≠ []) :
    ∃ best ∈ visits, slowest none visits = some best ∧
      ∀ visit ∈ visits, ¬visit.isSlower best = true := by
  cases visits with
  | nil => exact absurd rfl nonempty
  | cons first rest => exact slowest_some first rest

namespace Watermark

/-- A time is not after the watermark just if it is after neither the cap nor a visited cursor. -/
theorem le_value_iff {visits : List Visit} {now time : Timestamp} :
    time ≤ (ofVisits visits now).value ↔
      time ≤ cap now ∧ ∀ visit ∈ visits, time ≤ visit.2 := by
  by_cases empty : visits = []
  · simp [empty, ofVisits, slowest]
  · rcases slowest_none empty with ⟨best, best_mem, found, least⟩
    have cursor_le : ∀ visit ∈ visits, best.2.toNat ≤ visit.2.toNat := fun visit visit_mem =>
      Visit.cursor_le_of_not_isSlower (least visit visit_mem)
    simp only [ofVisits, found, Timestamp.le_iff]
    split
    · next capped =>
        rw [Timestamp.lt_iff] at capped
        dsimp only
        constructor
        · intro within
          refine ⟨within, fun visit visit_mem => ?_⟩
          have := cursor_le visit visit_mem
          omega
        · exact fun bounds => bounds.1
    · next notCapped =>
        rw [Timestamp.lt_iff] at notCapped
        dsimp only
        constructor
        · intro within
          refine ⟨by omega, fun visit visit_mem => ?_⟩
          have := cursor_le visit visit_mem
          omega
        · exact fun bounds => bounds.2 best best_mem

/-- The watermark is the cap or one of the visited cursors. -/
theorem value_cases (visits : List Visit) (now : Timestamp) :
    (ofVisits visits now).value = cap now ∨
      ∃ visit ∈ visits, (ofVisits visits now).value = visit.2 := by
  by_cases empty : visits = []
  · simp [empty, ofVisits, slowest]
  · rcases slowest_none empty with ⟨best, best_mem, found, _⟩
    simp only [ofVisits, found]
    split
    · exact Or.inl rfl
    · exact Or.inr ⟨best, best_mem, rfl⟩

/-- A time is not before the watermark just if it is not before the cap or not before a visited
cursor. -/
theorem value_le_iff {visits : List Visit} {now time : Timestamp} :
    (ofVisits visits now).value ≤ time ↔
      cap now ≤ time ∨ ∃ visit ∈ visits, visit.2 ≤ time := by
  rcases le_value_iff.mp (Nat.le_refl (ofVisits visits now).value.toNat) with
    ⟨value_le_cap, value_le⟩
  constructor
  · intro within
    rcases value_cases visits now with capped | ⟨visit, visit_mem, bounded⟩
    · exact Or.inl (capped ▸ within)
    · exact Or.inr ⟨visit, visit_mem, bounded ▸ within⟩
  · rintro (within | ⟨visit, visit_mem, within⟩)
    · exact Nat.le_trans value_le_cap within
    · exact Nat.le_trans (value_le visit visit_mem) within

theorem value_le_cursor {visits : List Visit} {now : Timestamp} {visit : Visit}
    (visit_mem : visit ∈ visits) : (ofVisits visits now).value ≤ visit.2 :=
  (le_value_iff.mp (Nat.le_refl _)).2 visit visit_mem

/-- Only without any visit is the watermark unattended. -/
theorem not_isUnattended {visits : List Visit} {now : Timestamp} (nonempty : visits ≠ []) :
    (ofVisits visits now).isUnattended = false := by
  rcases slowest_none nonempty with ⟨best, _, found, _⟩
  simp only [ofVisits, found, isUnattended]
  split <;> simp

end Watermark

end Tombstone
