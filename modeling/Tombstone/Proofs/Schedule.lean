import Tombstone.Timetable
import Mathlib.Order.Monotone.Basic

/-!
# Schedules

Two loops whose intervals start at one instant run then and at the end of each of their periods ever
since, as long as intervals tick once a period. A timetable knows no more than the next tick of each
loop. The work for which it takes ticks up to an instant and up to a later one is all the work up to
the later one, and instant by instant that is the work of the schedule.
-/

namespace Tombstone

/-- A loop with a period, whose interval started at some time, runs at an instant. -/
def IsTurn (started period instant : Nat) : Prop := ∃ turn, instant = started + turn * period

theorem isTurn_iff {started period instant : Nat} :
    IsTurn started period instant ↔ started ≤ instant ∧ (instant - started) % period = 0 := by
  constructor
  · rintro ⟨turn, rfl⟩
    exact ⟨Nat.le_add_right _ _, by rw [Nat.add_sub_cancel_left, Nat.mul_mod_left]⟩
  · rintro ⟨not_before, whole⟩
    refine ⟨(instant - started) / period, ?_⟩
    rw [Nat.div_mul_cancel (Nat.dvd_of_mod_eq_zero whole)]
    omega

instance (started period instant : Nat) : Decidable (IsTurn started period instant) :=
  decidable_of_iff _ isTurn_iff.symm

/-- Two loops whose intervals start at one instant. -/
structure Schedule where
  started : Nat
  period : Work → Nat
  /-- The order of the loops at an instant. -/
  order : Nat → List Work

/-- The work of an instant. -/
def Schedule.turns (schedule : Schedule) (instant : Nat) : List Work :=
  (schedule.order instant).filter fun work =>
    IsTurn schedule.started (schedule.period work) instant

/-! ## One loop -/

/-- A loop has the turns from an instant on still to come. -/
structure Loop.Keeps (loop : Loop) (started period pending : Nat) : Prop where
  ticks_eq (turn : Nat) : loop.ticks turn = started + turn * period
  not_before : pending ≤ loop.next
  past : ∀ turn < loop.turn, loop.ticks turn < pending

namespace Loop.Keeps

variable {loop : Loop} {started period pending : Nat}

theorem isTurn_iff (keeps : loop.Keeps started period pending) :
    IsTurn started period pending ↔ loop.next = pending := by
  constructor
  · rintro ⟨turn, pending_eq⟩
    rw [← keeps.ticks_eq turn] at pending_eq
    have not_past : loop.turn ≤ turn := by
      apply Nat.le_of_not_lt
      intro past
      exact absurd (keeps.past turn past) (by omega)
    have not_after : loop.next ≤ loop.ticks turn :=
      (strictMono_nat_of_lt_succ loop.ticks_lt).monotone not_past
    exact Nat.le_antisymm (by omega) keeps.not_before
  · rintro rfl
    exact ⟨loop.turn, keeps.ticks_eq loop.turn⟩

/-- A loop that has no turn at an instant waits. -/
theorem wait (keeps : loop.Keeps started period pending) (later : pending < loop.next) :
    loop.Keeps started period (pending + 1) :=
  ⟨keeps.ticks_eq, later, fun turn past => Nat.lt_succ_of_lt (keeps.past turn past)⟩

/-- A loop that has a turn at an instant takes the tick. -/
theorem ticked (keeps : loop.Keeps started period pending) (due : loop.next = pending) :
    loop.ticked.Keeps started period (pending + 1) := by
  have later := loop.next_lt_next_ticked
  refine ⟨keeps.ticks_eq, by omega, ?_⟩
  intro turn past
  rcases Nat.lt_succ_iff_lt_or_eq.mp past with before | rfl
  · exact Nat.lt_succ_of_lt (keeps.past turn before)
  · exact Nat.lt_succ_of_le (Nat.le_of_eq due)

end Loop.Keeps

namespace Timetable

section Cases

variable {timetable : Timetable} {limit : Nat}

theorem next_soonest_le (timetable : Timetable) (work : Work) :
    (timetable.loop timetable.soonest).next ≤ (timetable.loop work).next := by
  rw [soonest]
  split
  · cases work <;> simp only [loop] <;> omega
  · split
    · cases work <;> simp only [loop] <;> omega
    · cases timetable.runtime.first timetable.dispatch.next <;> cases work <;>
        simp only [loop] <;> omega

theorem soonest_of_lt {work : Work}
    (sooner : (timetable.loop work).next < (timetable.loop work.other).next) :
    timetable.soonest = work := by
  cases work with
  | dispatch => exact if_pos sooner
  | collect => exact (if_neg (Nat.lt_asymm sooner)).trans (if_pos sooner)

/-- Where both ticks come at one instant, the runtime decides. -/
theorem soonest_of_tie {instant : Nat} (tie : ∀ work, (timetable.loop work).next = instant) :
    timetable.soonest = timetable.runtime.first instant := by
  have dispatch : timetable.dispatch.next = instant := tie .dispatch
  have collect : timetable.collect.next = instant := tie .collect
  simp [soonest, dispatch, collect]

theorem due_after_of_due (due : (timetable.loop timetable.soonest).next ≤ limit) :
    timetable.due limit = ((timetable.loop timetable.soonest).next, timetable.soonest) ::
        (timetable.ticked timetable.soonest).due limit ∧
      timetable.after limit = (timetable.ticked timetable.soonest).after limit := by
  have takes := takesTick_unsignalled.mpr due
  constructor
  · rw [Timetable.due]
    exact if_pos takes
  · rw [after]
    exact if_pos takes

theorem due_after_of_later (later : ∀ work, limit < (timetable.loop work).next) :
    timetable.due limit = [] ∧ timetable.after limit = timetable := by
  have waits : ¬timetable.takesTick limit false timetable.soonest :=
    mt takesTick_unsignalled.mp (Nat.not_le_of_lt (later timetable.soonest))
  constructor
  · rw [due]
    exact if_neg waits
  · rw [after]
    exact if_neg waits

/-- The ticks up to an instant, and those from then on up to a later one, are all ticks up to the
later one. -/
theorem due_after_split (timetable : Timetable) {first second : Nat} (within : first ≤ second) :
    timetable.due first ++ (timetable.after first).due second = timetable.due second ∧
      (timetable.after first).after second = timetable.after second := by
  fun_induction timetable.due first with
  | case1 timetable work takes ih =>
      have due := takesTick_unsignalled.mp takes
      rcases due_after_of_due due with ⟨_, after_eq⟩
      rcases due_after_of_due (Nat.le_trans due within) with ⟨dueLater, afterLater⟩
      rw [after_eq, dueLater, afterLater, List.cons_append, ih.1]
      exact ⟨rfl, ih.2⟩
  | case2 timetable work waits =>
      have later (work : Work) : first < (timetable.loop work).next :=
        Nat.lt_of_lt_of_le (Nat.lt_of_not_le (mt takesTick_unsignalled.mpr waits))
          (timetable.next_soonest_le work)
      rw [(due_after_of_later later).2]
      exact ⟨rfl, rfl⟩

end Cases

/-! ## Both loops -/

/-- A timetable has the turns of a schedule from an instant on. -/
structure Keeps (timetable : Timetable) (schedule : Schedule) (pending : Nat) : Prop where
  order_eq : timetable.runtime.order = schedule.order
  loops (work : Work) :
    (timetable.loop work).Keeps schedule.started (schedule.period work) pending

section Instants

variable {timetable : Timetable} {schedule : Schedule} {pending : Nat}

/-- If one loop only has a tick by an instant, that is the work of the instant. -/
theorem due_after_of_sooner {work : Work} (due : (timetable.loop work).next = pending)
    (later : pending < (timetable.loop work.other).next) :
    timetable.due pending = [(pending, work)] ∧
      timetable.after pending = timetable.ticked work := by
  have soonest_eq : timetable.soonest = work := soonest_of_lt (due ▸ later)
  have taken := @due_after_of_due timetable pending
  rw [soonest_eq, due] at taken
  have rest : ∀ other, pending < ((timetable.ticked work).loop other).next := by
    intro other
    rcases work.eq_or_eq_other other with rfl | rfl
    · rw [loop_ticked]
      exact due ▸ (timetable.loop other).next_lt_next_ticked
    · rwa [loop_ticked_other]
  rcases due_after_of_later rest with ⟨due_rest, after_rest⟩
  rw [due_rest, after_rest] at taken
  exact taken (Nat.le_refl pending)

/-- If both loops have a tick at an instant, the runtime decides which comes first. -/
theorem due_after_of_tie (tie : ∀ work, (timetable.loop work).next = pending) :
    let work := timetable.runtime.first pending
    timetable.due pending = [(pending, work), (pending, work.other)] ∧
      timetable.after pending = (timetable.ticked work).ticked work.other := by
  intro work
  have taken := @due_after_of_due timetable pending
  rw [soonest_of_tie tie, tie] at taken
  have dueOther : ((timetable.ticked work).loop work.other).next = pending := by
    rw [loop_ticked_other]
    exact tie work.other
  have later : pending < ((timetable.ticked work).loop work.other.other).next := by
    rw [Work.other_other, loop_ticked, ← tie work]
    exact (timetable.loop work).next_lt_next_ticked
  rcases due_after_of_sooner dueOther later with ⟨due_rest, after_rest⟩
  rw [due_rest, after_rest] at taken
  exact taken (Nat.le_refl pending)

/-- When the intervals start, all turns are still to come. -/
theorem keeps_start {runtime : Runtime} {period : Work → Nat}
    (period_pos : ∀ work, 0 < period work) {started : Nat}
    (ticks : ∀ work, runtime.TicksOncePerPeriod started (period work)) :
    (start runtime period period_pos started).Keeps { started, period, order := runtime.order }
      started := by
  refine ⟨rfl, fun work => ?_⟩
  have starts (work : Work) : runtime.tick started (period work) 0 = started := by
    rw [ticks work, Nat.zero_mul, Nat.add_zero]
  cases work <;> exact ⟨ticks _, Nat.le_of_eq (starts _).symm, nofun⟩

/-- The loops that have a tick at an instant take it, and the others wait. -/
theorem Keeps.succ (keeps : timetable.Keeps schedule pending) {next : Timetable} (work : Work)
    (runtime_eq : next.runtime = timetable.runtime)
    (own : (next.loop work).Keeps schedule.started (schedule.period work) (pending + 1))
    (other : (next.loop work.other).Keeps schedule.started (schedule.period work.other)
      (pending + 1)) :
    next.Keeps schedule (pending + 1) := by
  refine ⟨by rw [runtime_eq, keeps.order_eq], fun another => ?_⟩
  rcases work.eq_or_eq_other another with rfl | rfl
  · exact own
  · exact other

/-- At an instant before which nothing is due, a timetable has the work of the schedule. -/
theorem Keeps.turn (keeps : timetable.Keeps schedule pending) :
    timetable.due pending = (schedule.turns pending).map (pending, ·) ∧
      (timetable.after pending).Keeps schedule (pending + 1) := by
  let work := timetable.runtime.first pending
  have turns_eq : schedule.turns pending = [work, work.other].filter fun work =>
      (timetable.loop work).next = pending := by
    simp only [Schedule.turns, ← keeps.order_eq, Runtime.order, (keeps.loops _).isTurn_iff, work]
  have own := keeps.loops work
  have other := keeps.loops work.other
  rw [turns_eq]
  rcases Nat.eq_or_lt_of_le own.not_before with due | later <;>
    rcases Nat.eq_or_lt_of_le other.not_before with dueOther | laterOther
  · -- Both have a tick.
    have tie : ∀ work, (timetable.loop work).next = pending := by
      intro another
      rcases work.eq_or_eq_other another with rfl | rfl
      · exact due.symm
      · exact dueOther.symm
    rcases due_after_of_tie tie with ⟨due_eq, after_eq⟩
    rw [due_eq, after_eq]
    refine ⟨by simp [tie, work], keeps.succ work (by simp) ?_ ?_⟩
    · simpa [work] using own.ticked due.symm
    · simpa [work] using other.ticked dueOther.symm
  · -- The first one has a tick.
    rcases due_after_of_sooner due.symm laterOther with ⟨due_eq, after_eq⟩
    rw [due_eq, after_eq]
    refine ⟨by simp [← due, laterOther.ne'], keeps.succ work (by simp) ?_ ?_⟩
    · simpa using own.ticked due.symm
    · simpa using other.wait laterOther
  · -- The other one has a tick.
    rcases due_after_of_sooner dueOther.symm (work.other_other.symm ▸ later) with
      ⟨due_eq, after_eq⟩
    rw [due_eq, after_eq]
    refine ⟨by simp [← dueOther, later.ne'], keeps.succ work (by simp) ?_ ?_⟩
    · simpa using own.wait later
    · simpa using other.ticked dueOther.symm
  · -- None has a tick.
    have rest : ∀ work, pending < (timetable.loop work).next := by
      intro another
      rcases work.eq_or_eq_other another with rfl | rfl <;> assumption
    rcases due_after_of_later rest with ⟨due_eq, after_eq⟩
    rw [due_eq, after_eq]
    refine ⟨by simp [later.ne', laterOther.ne'], keeps.succ work rfl ?_ ?_⟩
    · exact own.wait later
    · exact other.wait laterOther

/-- Up to an instant a timetable has the work of the schedule for one instant after the other. -/
theorem Keeps.turns (keeps : timetable.Keeps schedule pending) {last : Nat}
    (reached : pending ≤ last + 1) :
    timetable.due last = (List.range' pending (last + 1 - pending)).flatMap
        (fun instant => (schedule.turns instant).map (instant, ·)) ∧
      (timetable.after last).Keeps schedule (last + 1) := by
  generalize count_eq : last + 1 - pending = count
  induction count generalizing timetable pending with
  | zero =>
      obtain rfl : pending = last + 1 := by omega
      rcases due_after_of_later fun work => (keeps.loops work).not_before with ⟨due_eq, after_eq⟩
      rw [due_eq, after_eq]
      exact ⟨rfl, keeps⟩
  | succ count ih =>
      rcases keeps.turn with ⟨due_first, keepsNext⟩
      rcases ih keepsNext (by omega) (by omega) with ⟨due_rest, keepsLast⟩
      have within : pending ≤ last := by omega
      rcases timetable.due_after_split within with ⟨due_eq, after_eq⟩
      rw [← due_eq, ← after_eq, due_first, due_rest]
      exact ⟨rfl, keepsLast⟩

end Instants

end Timetable

end Tombstone
