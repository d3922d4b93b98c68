/-!
# Cosmac — timers

A delay timer that programs can read, and a sound timer that keeps the buzzer on while it runs. Both
count down to zero and stay there.

Time passes in ticks, several at once where a batch took long. `Timers.ticks` makes any number of
them in one subtraction, and `ticks_succ` says that this is one tick after the other.
-/

namespace Cosmac

structure Timers where
  delay : UInt8
  sound : UInt8
  deriving Repr, DecidableEq

namespace Timers

/-- Neither is running. -/
def idle : Timers := ⟨0, 0⟩

/-- A counter after `n` ticks. -/
def countDown (n : Nat) (t : UInt8) : UInt8 :=
  UInt8.ofNat (t.toNat - n)

/-- Both timers after `n` ticks. -/
def ticks (n : Nat) (t : Timers) : Timers :=
  ⟨countDown n t.delay, countDown n t.sound⟩

/-- Both timers after one tick. -/
def tick (t : Timers) : Timers :=
  t.ticks 1

/-- The buzzer is on while the sound timer runs. -/
def soundActive (t : Timers) : Bool :=
  t.sound ≠ 0

/-! ## Counting

Subtraction stops at zero as the counters do, so ticks add up without a case for a counter that has
run down. -/

@[simp] theorem toNat_countDown (n : Nat) (t : UInt8) :
    (countDown n t).toNat = t.toNat - n := by
  have := t.toNat_lt
  simp [countDown]
  omega

theorem countDown_add (m n : Nat) (t : UInt8) :
    countDown (m + n) t = countDown n (countDown m t) := by
  apply UInt8.toNat_inj.1
  simp
  omega

@[simp] theorem ticks_zero (t : Timers) : t.ticks 0 = t := by
  cases t
  simp [ticks, countDown]

theorem ticks_succ (n : Nat) (t : Timers) : t.ticks (n + 1) = (t.ticks n).tick := by
  simp [ticks, tick, countDown_add]

theorem ticks_tick (n : Nat) (t : Timers) : t.tick.ticks n = t.ticks (n + 1) := by
  rw [Nat.add_comm n 1]
  simp [ticks, tick, countDown_add]

end Timers

end Cosmac
