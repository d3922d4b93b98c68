import Cosmac.Machine.Step

/-!
# Cosmac — runs

Many steps in a row, with a tally of their outcomes and all that they reported. A run never stops
early: whatever a step comes to, the machine after it can take another, so a run of `n` steps
tallies `n` outcomes.
-/

namespace Cosmac

/-- How many steps of a run ended in which way. -/
structure Tally where
  executed : Nat
  waiting : Nat
  idle : Nat
  faulted : Nat
  deriving Repr, DecidableEq

namespace Tally

def zero : Tally := ⟨0, 0, 0, 0⟩

/-- One more step. -/
def count (t : Tally) : Outcome → Tally
  | .executed => { t with executed := t.executed + 1 }
  | .waiting => { t with waiting := t.waiting + 1 }
  | .idle => { t with idle := t.idle + 1 }
  | .faulted _ => { t with faulted := t.faulted + 1 }

/-- All the steps of a run. -/
def total (t : Tally) : Nat :=
  t.executed + t.waiting + t.idle + t.faulted

/-- The steps that left the program where it was. -/
def stalled (t : Tally) : Nat :=
  t.waiting + t.idle

/-- One more step is one more in the tally, however it ended. -/
theorem total_count (t : Tally) (o : Outcome) : (t.count o).total = t.total + 1 := by
  cases o <;> simp [count, total] <;> omega

end Tally

/-- A run so far. -/
structure Run where
  machine : Machine
  tally : Tally
  log : Log

namespace Run

def start (m : Machine) : Run := ⟨m, .zero, #[]⟩

/-- One step more. -/
def next (r : Run) : Run :=
  let s := r.machine.step
  ⟨s.machine, r.tally.count s.outcome, r.log ++ s.log⟩

end Run

/-- A run of `n` steps. -/
def Machine.run (n : Nat) (m : Machine) : Run :=
  Nat.repeat Run.next n (.start m)

theorem Machine.run_succ (n : Nat) (m : Machine) : m.run (n + 1) = (m.run n).next := rfl

/-- Every step of a run is tallied once. -/
theorem Machine.total_run (n : Nat) (m : Machine) : (m.run n).tally.total = n := by
  induction n with
  | zero => rfl
  | succ n ih =>
    rw [Machine.run_succ]
    simp only [Run.next, Tally.total_count, ih]

end Cosmac
