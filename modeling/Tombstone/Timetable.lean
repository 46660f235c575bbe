/-!
# The timetable of background work

Two loops run beside each other: one dispatches, the other collects. Each waits for the next tick of
its interval and for the signal to end, and goes on with whichever comes. When ticks come, which
loop goes on first where both can, and what a loop goes on with that has both a tick and the signal,
is up to the runtime that runs the loops. Time is counted in milliseconds.
-/

namespace Tombstone

/-- The work of the two loops. -/
inductive Work where
  | dispatch
  | collect
  deriving DecidableEq, Repr

def Work.other : Work → Work
  | .dispatch => .collect
  | .collect => .dispatch

@[simp]
theorem Work.other_other (work : Work) : work.other.other = work := by cases work <;> rfl

theorem Work.eq_or_eq_other (left right : Work) : right = left ∨ right = left.other := by
  cases left <;> cases right <;> decide

/-- What runs the loops. -/
structure Runtime where
  /-- When a tick of an interval comes whose ticks are taken as they come, by when the interval
  started, how long its period is, and how many ticks came before. -/
  tick : (started period turn : Nat) → Nat
  /-- The ticks of an interval come one after the other. -/
  tick_lt (started period turn : Nat) :
    0 < period → tick started period turn < tick started period (turn + 1)
  /-- The loop that goes on first at an instant at which both can. -/
  first : Nat → Work
  /-- Whether a loop goes on with the tick at an instant at which it has a tick and the signal. -/
  prefersTick : Nat → Work → Bool

namespace Runtime

/-- The loops in the order in which they go on at an instant. -/
def order (runtime : Runtime) (instant : Nat) : List Work :=
  [runtime.first instant, (runtime.first instant).other]

/-- An interval ticks when it starts, and then once at the end of each of its periods. -/
def TicksOncePerPeriod (runtime : Runtime) (started period : Nat) : Prop :=
  ∀ turn, runtime.tick started period turn = started + turn * period

/-- The longest time that the standard runtime lets pass between two ticks, in milliseconds: thirty
years of 365 days. -/
def longestWait : Nat := 30 * 365 * 24 * 60 * 60 * 1000

/-- The runtime that the program is run with. Intervals tick once a period, as long as no period is
longer than the longest wait. -/
def standard : Runtime where
  tick started period turn := started + turn * min period longestWait
  tick_lt started period turn period_pos := by
    have wait_pos : 0 < min period longestWait := Nat.lt_min.mpr ⟨period_pos, by decide⟩
    rw [Nat.succ_mul]
    omega
  first _ := .dispatch
  prefersTick _ _ := true

theorem standard_ticksOncePerPeriod {started period : Nat} (short : period ≤ longestWait) :
    standard.TicksOncePerPeriod started period := by
  intro turn
  simp only [standard, Nat.min_eq_left short]

end Runtime

/-- What a loop goes on with. -/
inductive Branch where
  /-- It takes a tick and does its work. -/
  | tick
  /-- It ends. -/
  | signal
  deriving DecidableEq, Repr

/-- A loop between two pieces of its work. -/
structure Loop where
  /-- When the ticks of its interval come. -/
  ticks : Nat → Nat
  /-- They come one after the other. -/
  ticks_lt (turn : Nat) : ticks turn < ticks (turn + 1)
  /-- The number of ticks taken. -/
  turn : Nat := 0

namespace Loop

/-- When the next tick comes. -/
def next (loop : Loop) : Nat := loop.ticks loop.turn

def ticked (loop : Loop) : Loop := { loop with turn := loop.turn + 1 }

theorem next_lt_next_ticked (loop : Loop) : loop.next < loop.ticked.next := loop.ticks_lt loop.turn

/-- What a loop goes on with at an instant, told to end or not; nothing if it waits. -/
def select (loop : Loop) (now : Nat) (signalled prefersTick : Bool) : Option Branch :=
  match decide (loop.next ≤ now), signalled with
  | true, true => some (if prefersTick then .tick else .signal)
  | true, false => some .tick
  | false, true => some .signal
  | false, false => none

theorem select_unsignalled (loop : Loop) (now : Nat) (prefersTick : Bool) :
    loop.select now false prefersTick = some .tick ↔ loop.next ≤ now := by
  by_cases due : loop.next ≤ now <;> simp [select, due]

theorem next_le_of_select {loop : Loop} {now : Nat} {signalled prefersTick : Bool}
    (ticks : loop.select now signalled prefersTick = some .tick) : loop.next ≤ now := by
  apply Classical.byContradiction
  intro later
  cases signalled <;> simp [select, later] at ticks

end Loop

/-- The two loops while they run. -/
structure Timetable where
  runtime : Runtime
  dispatch : Loop
  collect : Loop

namespace Timetable

def loop (timetable : Timetable) : Work → Loop
  | .dispatch => timetable.dispatch
  | .collect => timetable.collect

/-- The loops when their intervals start. -/
def start (runtime : Runtime) (period : Work → Nat) (period_pos : ∀ work, 0 < period work)
    (now : Nat) : Timetable :=
  let loop (work : Work) : Loop :=
    { ticks := runtime.tick now (period work)
      ticks_lt := fun turn => runtime.tick_lt now (period work) turn (period_pos work) }
  { runtime, dispatch := loop .dispatch, collect := loop .collect }

/-- The loops after one of them has taken a tick. -/
def ticked (timetable : Timetable) : Work → Timetable
  | .dispatch => { timetable with dispatch := timetable.dispatch.ticked }
  | .collect => { timetable with collect := timetable.collect.ticked }

@[simp]
theorem runtime_ticked (timetable : Timetable) (work : Work) :
    (timetable.ticked work).runtime = timetable.runtime := by
  cases work <;> rfl

@[simp]
theorem loop_ticked (timetable : Timetable) (work : Work) :
    (timetable.ticked work).loop work = (timetable.loop work).ticked := by
  cases work <;> rfl

@[simp]
theorem loop_ticked_other (timetable : Timetable) (work : Work) :
    (timetable.ticked work).loop work.other = timetable.loop work.other := by
  cases work <;> rfl

@[simp]
theorem loop_other_ticked (timetable : Timetable) (work : Work) :
    (timetable.ticked work.other).loop work = timetable.loop work := by
  cases work <;> rfl

/-- The loop whose next tick comes first. -/
def soonest (timetable : Timetable) : Work :=
  if timetable.dispatch.next < timetable.collect.next then .dispatch
  else if timetable.collect.next < timetable.dispatch.next then .collect
  else timetable.runtime.first timetable.dispatch.next

/-- How many instants up to a limit still lie before the loops. -/
def ahead (timetable : Timetable) (limit : Nat) : Nat :=
  (limit + 1 - timetable.dispatch.next) + (limit + 1 - timetable.collect.next)

theorem ahead_ticked_lt {timetable : Timetable} {work : Work} {limit : Nat}
    (due : (timetable.loop work).next ≤ limit) :
    (timetable.ticked work).ahead limit < timetable.ahead limit := by
  have later := (timetable.loop work).next_lt_next_ticked
  cases work <;> simp only [loop, ticked, ahead] at later due ⊢ <;> omega

/-- Whether a loop takes a tick at an instant, told to end or not. -/
def takesTick (timetable : Timetable) (now : Nat) (signalled : Bool) (work : Work) : Bool :=
  (timetable.loop work).select now signalled (timetable.runtime.prefersTick now work) = some .tick

theorem takesTick_unsignalled {timetable : Timetable} {now : Nat} {work : Work} :
    timetable.takesTick now false work ↔ (timetable.loop work).next ≤ now := by
  rw [takesTick, decide_eq_true_eq]
  exact (timetable.loop work).select_unsignalled now _

/-- The work for which ticks are taken up to and including an instant, with the times at which they
come, as long as no loop is told to end. -/
def due (timetable : Timetable) (limit : Nat) : List (Nat × Work) :=
  let work := timetable.soonest
  if timetable.takesTick limit false work then
    ((timetable.loop work).next, work) :: (timetable.ticked work).due limit
  else []
termination_by timetable.ahead limit
decreasing_by exact ahead_ticked_lt (takesTick_unsignalled.mp ‹_›)

/-- The loops once all ticks up to and including an instant are taken. -/
def after (timetable : Timetable) (limit : Nat) : Timetable :=
  let work := timetable.soonest
  if timetable.takesTick limit false work then (timetable.ticked work).after limit
  else timetable
termination_by timetable.ahead limit
decreasing_by exact ahead_ticked_lt (takesTick_unsignalled.mp ‹_›)

end Timetable

end Tombstone
