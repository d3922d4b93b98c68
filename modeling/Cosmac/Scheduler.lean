import Cosmac.Machine.Run

/-!
# Cosmac — the scheduler

Three rates, kept apart. A batch runs a fixed number of instructions, however often batches come.
Timers tick once in each of their intervals of elapsed time. The display is to show a frame at most
once per batch, when an interval of its own has passed.

Time that has elapsed but not filled an interval is a *debt*, carried to the next batch. Times are
in nanoseconds.

* `Scheduler.runBatch` is a batch with times and counts of any size: all that a batch does is said
  there.

* `Scheduler.batch` is a batch as it is run. Times and counts are kept in words, and where one of
  them outgrows its word the batch crashes. Otherwise it is `runBatch`.
-/

namespace Cosmac

/-- The length of an interval of which there are `hz` in a second. -/
def interval (hz : UInt32) : Nat :=
  1000000000 / hz.toNat

structure Scheduler where
  cyclesPerBatch : Nat
  timerInterval : Nat
  frameInterval : Nat
  timerDebt : Nat
  frameDebt : Nat
  deriving Repr, DecidableEq

/-- What a batch did. -/
structure Report where
  /-- Steps that carried out an instruction. -/
  executed : Nat
  /-- Steps that waited for a key or were parked. -/
  stalled : Nat
  faults : Nat
  timerTicks : Nat
  /-- Whether the display is to show a frame. -/
  frameReady : Bool
  /-- Whether the buzzer is to be on. -/
  soundActive : Bool
  deriving Repr, DecidableEq

/-- A finished batch. One that crashes has changed what it changed up to there. -/
structure Batch where
  scheduler : Scheduler
  machine : Machine
  log : Log
  result : Except Crash Report

/-- How far the timers have caught up: the time that is still owed to them, how often they have
ticked, and where they stand. -/
structure CatchUp where
  debt : Nat
  ticks : Nat
  timers : Timers
  deriving Repr, DecidableEq

namespace Scheduler

/-- A scheduler for a configuration, with no debt. -/
def new (config : Config) : Except Failure Scheduler :=
  match config.check with
  | .error e => .error (.invalidConfig e)
  | .ok () => .ok {
      cyclesPerBatch := config.cyclesPerBatch.toNat
      timerInterval := interval config.timerHz
      frameInterval := interval config.refreshHz
      timerDebt := 0
      frameDebt := 0 }

/-- Lets the timers tick for as long as a whole interval is owed to them. -/
def catchUp (interval : Nat) (hpos : 0 < interval) (c : CatchUp) : CatchUp :=
  if interval ≤ c.debt then
    catchUp interval hpos ⟨c.debt - interval, c.ticks + 1, c.timers.tick⟩
  else c
termination_by c.debt
decreasing_by omega

/-- Whether a frame is due, and the scheduler after that. Frames that were missed are dropped. -/
def payFrames (s : Scheduler) (elapsed : Nat) : Except Crash Bool × Scheduler :=
  let debt := s.frameDebt + elapsed
  if debt < s.frameInterval then (.ok false, { s with frameDebt := debt })
  else if s.frameInterval = 0 then (.error .frameInterval, { s with frameDebt := debt })
  else (.ok true, { s with frameDebt := debt % s.frameInterval })

/-- Catching up is a division: the timers tick as often as the interval goes into the debt, and the
rest stays owed. -/
theorem catchUp_eq (interval : Nat) (hpos : 0 < interval) (c : CatchUp) :
    catchUp interval hpos c =
      ⟨c.debt % interval, c.ticks + c.debt / interval, c.timers.ticks (c.debt / interval)⟩ := by
  -- each round takes one interval off the debt, and one from the quotient
  fun_induction catchUp interval hpos c with
  | case1 c hle ih =>
    have hquot : c.debt / interval = (c.debt - interval) / interval + 1 :=
      Nat.div_eq_sub_div hpos hle
    have hrest : (c.debt - interval) % interval = c.debt % interval :=
      (Nat.mod_eq_sub_mod hle).symm
    rw [ih, hquot, hrest, Timers.ticks_tick, Nat.add_assoc, Nat.add_comm 1]
  | case2 c hlt =>
    have hquot : c.debt / interval = 0 := Nat.div_eq_of_lt (Nat.lt_of_not_le hlt)
    have hrest : c.debt % interval = c.debt := Nat.mod_eq_of_lt (Nat.lt_of_not_le hlt)
    rw [hquot, hrest, Timers.ticks_zero]
    rfl

/-- Runs the instructions of a batch, then accounts for the time since the one before. -/
def runBatch (s : Scheduler) (m : Machine) (elapsed : Nat) : Batch :=
  let run := m.run s.cyclesPerBatch
  let owed := s.timerDebt + elapsed
  if hpos : 0 < s.timerInterval then
    let paid := catchUp s.timerInterval hpos ⟨owed, 0, run.machine.timers⟩
    let machine := { run.machine with timers := paid.timers }
    let log := if 1 < paid.ticks then run.log.push (.timersCatchingUp paid.ticks) else run.log
    let frames := { s with timerDebt := paid.debt }.payFrames elapsed
    ⟨frames.2, machine, log, frames.1.map fun frameReady => {
      executed := run.tally.executed
      stalled := run.tally.stalled
      faults := run.tally.faulted
      timerTicks := paid.ticks
      frameReady
      soundActive := machine.timers.soundActive }⟩
  else
    -- intervals of no length are owed for ever; what the instructions did stays done
    ⟨{ s with timerDebt := owed }, run.machine, run.log, .error .timerInterval⟩

/-! ## Words

A time has its seconds in a word of 64 bits, and ticks are counted in a word of 32. -/

/-- The first time in nanoseconds that does not fit. -/
def timeLimit : Nat := 0x10000000000000000 * 1000000000

/-- The first count of ticks that does not fit. -/
def countLimit : Nat := 0x100000000

/-- Times and the count of ticks fit their words. -/
structure Fits (s : Scheduler) (elapsed : Nat) : Prop where
  owed_lt : s.timerDebt + elapsed < timeLimit
  due_lt : s.frameDebt + elapsed < timeLimit
  ticks_lt : (s.timerDebt + elapsed) / s.timerInterval < countLimit

/-- Where a batch outgrows a word. -/
inductive Overflow
  /-- Before the timers catch up, with the time that is owed to them. -/
  | owed
  /-- While they do, with the count of their ticks. -/
  | ticks
  /-- When they have caught up, with the time since the latest frame. -/
  | due
  deriving Repr, DecidableEq

/-- Where a batch outgrows a word first. One whose timers never catch up gets to no frame. -/
def overflow? (s : Scheduler) (elapsed : Nat) : Option Overflow :=
  if timeLimit ≤ s.timerDebt + elapsed then some .owed
  else if countLimit ≤ (s.timerDebt + elapsed) / s.timerInterval then some .ticks
  else if 0 < s.timerInterval ∧ timeLimit ≤ s.frameDebt + elapsed then some .due
  else none

/-- What a batch has done when it outgrows a word. -/
def breakOff (s : Scheduler) (m : Machine) (elapsed : Nat) : Overflow → Batch
  | .owed =>
    let run := m.run s.cyclesPerBatch
    ⟨s, run.machine, run.log, .error .timeTooLong⟩
  | .ticks =>
    let run := m.run s.cyclesPerBatch
    let left := s.timerDebt + elapsed - countLimit * s.timerInterval
    -- the tick that cannot be counted has been made
    let machine := { run.machine with timers := run.machine.timers.ticks countLimit }
    ⟨{ s with timerDebt := left }, machine, run.log, .error .tooManyTicks⟩
  | .due =>
    let b := s.runBatch m elapsed
    ⟨{ b.scheduler with frameDebt := s.frameDebt }, b.machine, b.log, .error .timeTooLong⟩

/-- Runs a batch as far as its words reach. -/
def batch (s : Scheduler) (m : Machine) (elapsed : Nat) : Batch :=
  match s.overflow? elapsed with
  | none => s.runBatch m elapsed
  | some o => s.breakOff m elapsed o

end Scheduler

end Cosmac
