import Tombstone.Proofs.SlowestSession

/-!
# The lag report and the watermark

The ranking of the connected sessions lists them by cursor and, where cursors are the same, by name.
A session lags the more the further back its cursor is, so the sessions that lag by more than a
threshold are the first of the ranking. Hence a greater threshold cuts the report at its end, and
the first session in a report is the one that bounds the watermark.
-/

namespace Tombstone

namespace Visit

variable {left middle right : Visit}

theorem NotAfter.refl (visit : Visit) : visit.NotAfter visit :=
  Or.inr ⟨rfl, String.le_refl _⟩

theorem NotAfter.trans (first : left.NotAfter middle) (second : middle.NotAfter right) :
    left.NotAfter right := by
  rw [notAfter_iff] at first second ⊢
  exact fun behind => first (isSlower_of_not_isSlower second behind)

theorem NotAfter.total (left right : Visit) : left.NotAfter right ∨ right.NotAfter left := by
  rw [notAfter_iff, notAfter_iff]
  by_cases behind : right.isSlower left = true
  · exact Or.inr (isSlower_asymm behind)
  · exact Or.inl behind

/-- How far a visited cursor is behind now. -/
def lag (now : Timestamp) (visit : Visit) : Duration := Duration.ofMicros (now.since visit.2)

/-- The visit as it is reported. -/
def toLaggard (now : Timestamp) (visit : Visit) : Laggard :=
  { session := visit.1, cursor := visit.2, lag := visit.lag now }

theorem NotAfter.lag_le (order : left.NotAfter right) (now : Timestamp) :
    (right.lag now).nanos ≤ (left.lag now).nanos := by
  have cursor_le : left.2.toNat ≤ right.2.toNat := by
    rcases order with earlier | ⟨same, _⟩
    · exact Nat.le_of_lt earlier
    · exact Nat.le_of_eq (congrArg Timestamp.toNat same)
  simp only [lag, Duration.ofMicros, Timestamp.since]
  omega

theorem lag_lt_of_notAfter {now : Timestamp} {threshold : Duration} (order : left.NotAfter right)
    (late : threshold < right.lag now) : threshold < left.lag now :=
  Nat.lt_of_lt_of_le late (order.lag_le now)

theorem pairwise_sorted (visits : List Visit) :
    (visits.mergeSort fun left right => !right.isSlower left).Pairwise NotAfter := by
  -- The report is sorted by a Boolean that says who is not after whom.
  have as_decided : ∀ {left right : Visit},
      (!right.isSlower left) = true ↔ left.NotAfter right := by
    intro left right
    rw [notAfter_iff, Bool.not_eq_true', Bool.not_eq_true]
  refine (List.pairwise_mergeSort ?_ ?_ visits).imp as_decided.mp
  · intro left middle right first second
    exact as_decided.mpr ((as_decided.mp first).trans (as_decided.mp second))
  · intro left right
    rw [Bool.or_eq_true, as_decided, as_decided]
    exact NotAfter.total left right

end Visit

/-- If a property of a member is one of everything ordered before it too, those with the property
come first. -/
theorem filter_prefix_of_pairwise {α : Type} {before : α → α → Prop} {p : α → Bool}
    {members : List α} (ordered : members.Pairwise before)
    (passes : ∀ {left right}, before left right → p right = true → p left = true) :
    members.filter p <+: members := by
  induction members with
  | nil => exact List.nil_prefix
  | cons first rest ih =>
      rcases List.pairwise_cons.mp ordered with ⟨first_before, rest_ordered⟩
      by_cases holds : p first = true
      · rw [List.filter_cons_of_pos holds, List.cons_prefix_cons]
        exact ⟨rfl, ih rest_ordered⟩
      · have none_left : (first :: rest).filter p = [] := by
          rw [List.filter_cons_of_neg holds, List.filter_eq_nil_iff]
          exact fun member member_mem later => holds (passes (first_before member member_mem) later)
        rw [none_left]
        exact List.nil_prefix

/-- Of ordered visits, those that lag by more than a threshold come first. -/
theorem Visit.late_first {visits : List Visit} (ordered : visits.Pairwise NotAfter)
    (now : Timestamp) (threshold : Duration) :
    visits.filter (threshold < ·.lag now) <+: visits := by
  apply filter_prefix_of_pairwise ordered
  intro left right order late
  exact decide_eq_true (lag_lt_of_notAfter order (of_decide_eq_true late))

namespace Registry

/-- All connected sessions with their cursors, in the order of the cursors, and of the names where
cursors are the same. -/
structure Ranking (registry : Registry) (ranking : List Visit) : Prop where
  all : ranking.Perm registry.cursors
  ordered : ranking.Pairwise Visit.NotAfter

variable {registry : Registry} {ranking visits : List Visit} {now : Timestamp}
  {threshold : Duration}

theorem exists_ranking (registry : Registry) : ∃ ranking, registry.Ranking ranking :=
  ⟨_, List.mergeSort_perm _ _, Visit.pairwise_sorted registry.cursors⟩

namespace Ranking

/-- The report consists of those in the ranking that lag by more than the threshold. -/
theorem laggards_eq (ranked : registry.Ranking ranking) (visited : visits.Perm registry.cursors) :
    laggards visits now threshold =
      (ranking.filter (threshold < ·.lag now)).map (·.toLaggard now) := by
  refine congrArg (List.map (Visit.toLaggard now)) (List.Perm.eq_of_pairwise
    (fun _ _ _ _ => Visit.NotAfter.antisymm) (Visit.pairwise_sorted _) (ranked.ordered.filter _) ?_)
  exact (List.mergeSort_perm _ _).trans ((visited.trans ranked.all.symm).filter _)

/-- Of those that lag by more than a threshold, the ones that lag by more than a greater threshold
come first. -/
theorem later_first (ranked : registry.Ranking ranking) (now : Timestamp) {higher : Duration}
    (raised : threshold.nanos ≤ higher.nanos) :
    ranking.filter (higher < ·.lag now) <+: ranking.filter (threshold < ·.lag now) := by
  have both : ranking.filter (higher < ·.lag now) =
      (ranking.filter (threshold < ·.lag now)).filter (higher < ·.lag now) := by
    rw [List.filter_filter]
    refine List.filter_congr fun visit _ => ?_
    have lower_too : higher < visit.lag now → threshold < visit.lag now :=
      fun late => Nat.lt_of_le_of_lt raised late
    by_cases late : higher < visit.lag now <;> simp [late, lower_too]
  rw [both]
  exact Visit.late_first (ranked.ordered.filter _) now higher

theorem slowest_head (distinct : registry.Distinct) {session : SessionId} {cursor : Timestamp}
    {rest : List Visit} (ranked : registry.Ranking ((session, cursor) :: rest)) :
    registry.Slowest session cursor := by
  refine ⟨(mem_visits_iff distinct ranked.all).mp List.mem_cons_self, ?_⟩
  intro other otherCursor connected
  rcases List.mem_cons.mp ((mem_visits_iff distinct ranked.all).mpr connected) with same | later
  · rw [same]
    exact Visit.NotAfter.refl _
  · exact (List.pairwise_cons.mp ranked.ordered).1 _ later

end Ranking

/-- The report holds just those connected sessions that lag by more than the threshold. -/
theorem mem_laggards_iff (distinct : registry.Distinct) (visited : visits.Perm registry.cursors)
    {laggard : Laggard} :
    laggard ∈ laggards visits now threshold ↔
      registry.cursor? laggard.session = some laggard.cursor ∧
        laggard.lag = Duration.ofMicros (now.since laggard.cursor) ∧ threshold < laggard.lag := by
  rw [← mem_visits_iff distinct visited]
  simp only [laggards, List.mem_map, List.mem_mergeSort, List.mem_filter, decide_eq_true_eq]
  constructor
  · rintro ⟨visit, ⟨visit_mem, late⟩, rfl⟩
    exact ⟨visit_mem, rfl, late⟩
  · rintro ⟨visit_mem, lag_eq, late⟩
    rw [lag_eq] at late
    refine ⟨(laggard.session, laggard.cursor), ⟨visit_mem, late⟩, ?_⟩
    rw [← lag_eq]

/-- A cursor that lags behind now by more than a threshold is not after the cap of a watermark. -/
theorem not_cap_lt_of_lag {session : SessionId} {cursor : Timestamp}
    (late : threshold < Visit.lag now (session, cursor)) : ¬Watermark.cap now < cursor := by
  have behind : threshold.nanos < (now.toNat - cursor.toNat) * 1000 := late
  have in_range := now.toNat_lt
  rw [Timestamp.lt_iff, Watermark.cap, Timestamp.toNat_advance]
  omega

/-- The report holds each session that lags by more than the threshold once, with its cursor and its
lag, and no other. Its sessions are the first of all by cursor and name, and a greater threshold
only removes some at the end. If there is a first session in the report, its cursor is the
watermark, and it is what bounds it. Neither depends on the order in which the sessions are visited.
-/
theorem laggards_agree_with_watermark (registry : Registry) (visits : List Visit)
    (now : Timestamp) (threshold : Duration) (distinct : registry.Distinct)
    (visited : visits.Perm registry.cursors) :
    let report := laggards visits now threshold
    (∀ laggard, laggard ∈ report ↔
      registry.cursor? laggard.session = some laggard.cursor ∧
        laggard.lag = Duration.ofMicros (now.since laggard.cursor) ∧ threshold < laggard.lag) ∧
    (report.map (·.session)).Nodup ∧
    (∃ ranking, registry.Ranking ranking ∧
      report.map (fun laggard => (laggard.session, laggard.cursor)) <+: ranking) ∧
    (∀ (others : List Visit) (higher : Duration), others.Perm registry.cursors →
      threshold.nanos ≤ higher.nanos → laggards others now higher <+: report) ∧
    ∀ first rest, report = first :: rest →
      ∀ others : List Visit, others.Perm registry.cursors →
        Watermark.ofVisits others now =
          { value := first.cursor, bound := .session first.session, sessions := registry.size } := by
  intro report
  rcases registry.exists_ranking with ⟨ranking, ranked⟩
  have report_eq : report = (ranking.filter (threshold < ·.lag now)).map (·.toLaggard now) :=
    ranked.laggards_eq visited
  have late_first := Visit.late_first ranked.ordered now threshold
  refine ⟨fun _ => mem_laggards_iff distinct visited, ?once, ⟨ranking, ranked, ?initial⟩, ?raised,
    ?bounds⟩
  case once =>
    have names_distinct : (ranking.map (·.1)).Nodup := by
      rw [(ranked.all.map _).nodup_iff, map_fst_cursors]
      exact distinct
    rw [report_eq, List.map_map]
    exact (late_first.map _).sublist.nodup names_distinct
  case initial =>
    rw [report_eq, List.map_map]
    simpa [Function.comp_def, Visit.toLaggard] using late_first
  case raised =>
    intro others higher visitedOthers raised
    rw [report_eq, ranked.laggards_eq visitedOthers]
    exact (ranked.later_first now raised).map _
  case bounds =>
    intro first rest report_cons others visitedOthers
    rw [report_eq] at report_cons
    rcases List.map_eq_cons_iff.mp report_cons with
      ⟨⟨session, cursor⟩, late_rest, filter_cons, rfl, _⟩
    have late : threshold < Visit.lag now (session, cursor) := by
      have first_mem : (session, cursor) ∈ ranking.filter (threshold < ·.lag now) := by
        rw [filter_cons]
        exact List.mem_cons_self
      exact of_decide_eq_true (List.mem_filter.mp first_mem).2
    -- As the late ones come first, the first of them is also the first of all.
    rw [filter_cons] at late_first
    rcases late_first with ⟨lower, rfl⟩
    have slow : registry.Slowest session cursor := ranked.slowest_head distinct
    exact (slow.ofVisits_eq distinct visitedOthers now).trans (if_neg (not_cap_lt_of_lag late))

/-- Two sessions share the least cursor, one lags less than they, and one is ahead of the clock. -/
theorem laggards_agree_with_watermark_of_four :
    let first : SessionId := ⟨"a"⟩
    let second : SessionId := ⟨"b"⟩
    let third : SessionId := ⟨"a late one"⟩
    let registry : Registry :=
      Registry.attach (Registry.attach (Registry.attach (Registry.attach {} second ⟨10⟩ ⟨10⟩)
        ⟨"ahead"⟩ ⟨20⟩ ⟨900⟩) first ⟨30⟩ ⟨10⟩) third ⟨40⟩ ⟨40⟩
    let visits : List Visit := [(third, ⟨40⟩), (⟨"ahead"⟩, ⟨900⟩), (second, ⟨10⟩), (first, ⟨10⟩)]
    let now : Timestamp := ⟨50⟩
    let report : List Laggard :=
      [⟨first, ⟨10⟩, .ofMicros 40⟩, ⟨second, ⟨10⟩, .ofMicros 40⟩, ⟨third, ⟨40⟩, .ofMicros 10⟩]
    registry.Distinct ∧ visits.Perm registry.cursors ∧
      laggards visits now (.ofMicros 5) = report ∧
      laggards registry.cursors now (.ofMicros 10) <+: report ∧
      Watermark.ofVisits visits now =
        { value := ⟨10⟩, bound := .session first, sessions := 4 } := by
  intro first second third registry visits now report
  have distinct : registry.Distinct := by
    simp only [Directory.Distinct]
    decide
  have visited : visits.Perm registry.cursors := by decide
  have ranked : registry.Ranking
      [(first, ⟨10⟩), (second, ⟨10⟩), (third, ⟨40⟩), (⟨"ahead"⟩, ⟨900⟩)] :=
    ⟨by decide, by decide +kernel⟩
  have reported : laggards visits now (.ofMicros 5) = report :=
    (ranked.laggards_eq visited).trans (by decide +kernel)
  rcases laggards_agree_with_watermark registry visits now (.ofMicros 5) distinct visited with
    ⟨_, _, _, raised, bounds⟩
  rw [reported] at raised bounds
  exact ⟨distinct, visited, reported, raised registry.cursors _ (.refl _) (by decide),
    bounds _ _ rfl visits visited⟩

end Registry

end Tombstone
