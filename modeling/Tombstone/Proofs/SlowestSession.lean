import Tombstone.Proofs.CursorMoves
import Tombstone.Proofs.WatermarkBound

/-!
# The watermark in any order of visiting

A registry does not say in which order its sessions are visited. The slowest session is the least by
cursor and, among sessions with one cursor, by name. There is at most one such session, and a scan
finds it wherever in the order it is visited. So the order shows neither in the time of the
watermark nor in what bounds it.
-/

namespace Tombstone

namespace Visit

/-- Visits in the order of their cursors, and of their names where the cursors are the same. -/
def NotAfter (left right : Visit) : Prop :=
  left.2 < right.2 ∨ left.2 = right.2 ∧ left.1.name ≤ right.1.name

instance (left right : Visit) : Decidable (left.NotAfter right) :=
  inferInstanceAs (Decidable (left.2 < right.2 ∨ left.2 = right.2 ∧ left.1.name ≤ right.1.name))

theorem notAfter_iff {left right : Visit} :
    left.NotAfter right ↔ ¬right.isSlower left = true := by
  rw [isSlower_iff, NotAfter, Timestamp.lt_iff, ← Timestamp.toNat_inj, ← String.not_lt]
  by_cases earlier : left.2.toNat < right.2.toNat
  · refine iff_of_true (Or.inl earlier) ?_
    rintro (later | ⟨same, _⟩) <;> omega
  · by_cases same : left.2.toNat = right.2.toNat
    · simp [same]
    · have later : right.2.toNat < left.2.toNat := by omega
      exact iff_of_false (by simp [earlier, same]) (not_not_intro (Or.inl later))

theorem NotAfter.antisymm {left right : Visit} (first : left.NotAfter right)
    (second : right.NotAfter left) : left = right := by
  rw [NotAfter, Timestamp.lt_iff, ← Timestamp.toNat_inj] at first second
  rcases first with earlier | ⟨same, name_le⟩
  · omega
  · rcases second with later | ⟨_, name_ge⟩
    · omega
    · rcases left with ⟨⟨leftName⟩, leftCursor⟩
      rcases right with ⟨⟨rightName⟩, rightCursor⟩
      rw [Timestamp.toNat_inj] at same
      rw [Prod.mk.injEq, SessionId.mk.injEq]
      exact ⟨String.le_antisymm name_le name_ge, same⟩

end Visit

namespace Registry

variable {registry : Registry} {visits : List Visit}

/-- The connected session that is the least by cursor and name, with its cursor. -/
structure Slowest (registry : Registry) (session : SessionId) (cursor : Timestamp) : Prop where
  connected : registry.cursor? session = some cursor
  least : ∀ other otherCursor, registry.cursor? other = some otherCursor →
    Visit.NotAfter (session, cursor) (other, otherCursor)

theorem length_cursors (registry : Registry) : registry.cursors.length = registry.size :=
  List.length_map _

theorem mem_visits_iff (distinct : registry.Distinct) (visited : visits.Perm registry.cursors)
    {session : SessionId} {cursor : Timestamp} :
    (session, cursor) ∈ visits ↔ registry.cursor? session = some cursor :=
  visited.mem_iff.trans (mem_cursors_iff distinct)

/-- Any scan of the sessions ends with the slowest of them. -/
theorem slowest_of_visited (distinct : registry.Distinct) (visited : visits.Perm registry.cursors)
    (nonempty : visits ≠ []) :
    ∃ session cursor, slowest none visits = some (session, cursor) ∧
      registry.Slowest session cursor := by
  rcases slowest_none nonempty with ⟨⟨session, cursor⟩, best_mem, found, none_behind⟩
  refine ⟨session, cursor, found, (mem_visits_iff distinct visited).mp best_mem, ?_⟩
  intro other otherCursor connected
  apply Visit.notAfter_iff.mpr
  exact none_behind _ ((mem_visits_iff distinct visited).mpr connected)

theorem Slowest.eq {left right : SessionId} {leftCursor rightCursor : Timestamp}
    (leftSlowest : registry.Slowest left leftCursor)
    (rightSlowest : registry.Slowest right rightCursor) :
    (left, leftCursor) = (right, rightCursor) :=
  (leftSlowest.least right rightCursor rightSlowest.connected).antisymm
    (rightSlowest.least left leftCursor leftSlowest.connected)

theorem Slowest.scan_eq {session : SessionId} {cursor : Timestamp}
    (slow : registry.Slowest session cursor) (distinct : registry.Distinct)
    (visited : visits.Perm registry.cursors) : slowest none visits = some (session, cursor) := by
  have nonempty : visits ≠ [] :=
    List.ne_nil_of_mem ((mem_visits_iff distinct visited).mpr slow.connected)
  rcases slowest_of_visited distinct visited nonempty with ⟨other, otherCursor, found, otherSlow⟩
  rw [found, otherSlow.eq slow]

theorem Slowest.ofVisits_eq {session : SessionId} {cursor : Timestamp}
    (slow : registry.Slowest session cursor) (distinct : registry.Distinct)
    (visited : visits.Perm registry.cursors) (now : Timestamp) :
    Watermark.ofVisits visits now =
      if Watermark.cap now < cursor then
        { value := Watermark.cap now, bound := .now, sessions := registry.size }
      else { value := cursor, bound := .session session, sessions := registry.size } := by
  have sessions_eq : visits.length = registry.size :=
    visited.length_eq.trans registry.length_cursors
  simp only [Watermark.ofVisits, slow.scan_eq distinct visited, sessions_eq]

/-- The watermark counts all sessions. Without any it is the instant after now; otherwise it is the
slowest session's cursor, or again the instant after now if that cursor is later. The order in which
the sessions are visited makes no difference, also where several have the least cursor. -/
theorem watermark_in_any_order (registry : Registry) (visits : List Visit) (now : Timestamp)
    (distinct : registry.Distinct) (visited : visits.Perm registry.cursors) :
    let cap := now.advance 1
    let watermark := Watermark.ofVisits visits now
    watermark.sessions = registry.size ∧
    (registry.ids = [] → watermark = { value := cap, bound := .noSessions, sessions := 0 }) ∧
    (registry.ids ≠ [] → ∃ session cursor, registry.Slowest session cursor) ∧
    (∀ session cursor, registry.Slowest session cursor →
      (cap < cursor →
        watermark = { value := cap, bound := .now, sessions := registry.size }) ∧
      (¬cap < cursor →
        watermark = { value := cursor, bound := .session session, sessions := registry.size })) ∧
    ∀ others : List Visit, others.Perm registry.cursors →
      Watermark.ofVisits others now = watermark := by
  intro cap watermark
  have nobody {others : List Visit} (empty : registry.ids = [])
      (visitedOthers : others.Perm registry.cursors) :
      Watermark.ofVisits others now = { value := cap, bound := .noSessions, sessions := 0 } := by
    rw [ids_eq_nil_iff.mp empty] at visitedOthers
    rw [visitedOthers.eq_nil]
    rfl
  have exists_slowest (attended : registry.ids ≠ []) :
      ∃ session cursor, registry.Slowest session cursor := by
    rw [ne_eq, ids_eq_nil_iff] at attended
    rcases slowest_of_visited distinct (.refl registry.cursors) attended with
      ⟨session, cursor, _, slow⟩
    exact ⟨session, cursor, slow⟩
  refine ⟨?sessions, fun empty => nobody empty visited, exists_slowest, ?bounded, ?order⟩
  case bounded =>
    intro session cursor slow
    have watermark_eq : watermark = _ := slow.ofVisits_eq distinct visited now
    exact ⟨fun ahead => watermark_eq.trans (if_pos ahead),
      fun behind => watermark_eq.trans (if_neg behind)⟩
  case order =>
    intro others visitedOthers
    by_cases empty : registry.ids = []
    · exact (nobody empty visitedOthers).trans (nobody empty visited).symm
    · rcases exists_slowest empty with ⟨session, cursor, slow⟩
      exact (slow.ofVisits_eq distinct visitedOthers now).trans
        (slow.ofVisits_eq distinct visited now).symm
  case sessions =>
    by_cases empty : registry.ids = []
    · have none_counted : registry.size = 0 := by
        rw [← registry.length_cursors, ids_eq_nil_iff.mp empty, List.length_nil]
      exact (congrArg Watermark.sessions (nobody empty visited)).trans none_counted.symm
    · rcases exists_slowest empty with ⟨session, cursor, slow⟩
      refine (congrArg Watermark.sessions (slow.ofVisits_eq distinct visited now)).trans ?_
      split <;> rfl

/-- Two sessions share the least cursor, and the lesser name is visited last. -/
theorem watermark_in_any_order_of_three :
    let first : SessionId := ⟨"a"⟩
    let second : SessionId := ⟨"b"⟩
    let ahead : SessionId := ⟨"ahead"⟩
    let registry : Registry :=
      Registry.attach (Registry.attach (Registry.attach {} second ⟨10⟩ ⟨10⟩) ahead ⟨20⟩ ⟨900⟩)
        first ⟨30⟩ ⟨10⟩
    let visits : List Visit := [(ahead, ⟨900⟩), (second, ⟨10⟩), (first, ⟨10⟩)]
    let now : Timestamp := ⟨50⟩
    registry.Distinct ∧ visits.Perm registry.cursors ∧ registry.Slowest first ⟨10⟩ ∧
      ¬now.advance 1 < ⟨10⟩ ∧
      Watermark.ofVisits visits now = { value := ⟨10⟩, bound := .session first, sessions := 3 } ∧
      Watermark.ofVisits registry.cursors now =
        { value := ⟨10⟩, bound := .session first, sessions := 3 } := by
  intro first second ahead registry visits now
  have distinct : registry.Distinct := by
    simp only [Directory.Distinct]
    decide
  have visited : visits.Perm registry.cursors := by decide
  have slow : registry.Slowest first ⟨10⟩ := by
    rcases slowest_of_visited distinct visited (List.cons_ne_nil _ _) with
      ⟨session, cursor, found, slow⟩
    have scanned : slowest none visits = some (first, ⟨10⟩) := by decide +kernel
    rcases found.symm.trans scanned
    exact slow
  have behind : ¬now.advance 1 < ⟨10⟩ := by decide
  rcases watermark_in_any_order registry visits now distinct visited with
    ⟨_, _, _, bounded, order⟩
  have watermark_eq := (bounded first ⟨10⟩ slow).2 behind
  exact ⟨distinct, visited, slow, behind, watermark_eq,
    (order registry.cursors (.refl _)).trans watermark_eq⟩

end Registry

end Tombstone
