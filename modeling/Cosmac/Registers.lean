import Cosmac.Instruction.Basic

/-!
# Cosmac — registers and the call stack

Both lie outside addressable memory, so that a program cannot write over them.

* `Registers` has the sixteen byte registers, the index and the program counter.

* `CallStack` holds the return addresses of up to sixteen nested calls. It keeps the slots that are
  free: `CallStack.live` is the view, oldest call first.

A return leaves its address in the slot that it frees, and clearing the stack leaves all of them. So
two stacks can differ where no program can tell. Facts about calls are stated of the view, in which
they are the same.
-/

namespace Cosmac

structure Registers where
  v : Vector UInt8 16
  /-- The index, through which memory is accessed. -/
  i : UInt16
  /-- The address of the next instruction. -/
  pc : UInt16
  deriving DecidableEq

namespace Registers

/-- All zero, about to run the instruction at `pc`. -/
def start (pc : UInt16) : Registers where
  v := Vector.replicate 16 0
  i := 0
  pc := pc

def get (r : Registers) (x : Reg) : UInt8 :=
  r.v[x]

def set (r : Registers) (x : Reg) (value : UInt8) : Registers :=
  { r with v := r.v.set x value }

/-- A truth value in `VF`. -/
def setFlag (r : Registers) (b : Bool) : Registers :=
  r.set Reg.flag (if b then 1 else 0)

/-- On to the next instruction. -/
def advance (r : Registers) : Registers :=
  { r with pc := r.pc + 2 }

/-- The values of `V0` to `x`. -/
def upTo (r : Registers) (x : Reg) : List UInt8 :=
  r.v.toList.take (x.val + 1)

/-- `values` in `V0`, `V1` and so on. -/
def setFirst (r : Registers) (values : List UInt8) : Registers :=
  { r with v := Vector.ofFn fun k => (values[k.val]?).getD (r.get k) }

@[simp] theorem get_set_self (r : Registers) (x : Reg) (a : UInt8) : (r.set x a).get x = a := by
  simp [get, set]

theorem get_set_of_ne (r : Registers) {x y : Reg} (h : x ≠ y) (a : UInt8) :
    (r.set x a).get y = r.get y := by
  have : x.val ≠ y.val := fun e => h (Fin.ext e)
  simp [get, set, Vector.getElem_set_ne, this]

end Registers

/-- Return addresses. Slots from `depth` on are free; what is left in them is never read. -/
structure CallStack where
  slots : Vector UInt16 16
  depth : Nat
  depth_le : depth ≤ 16 := by omega
  deriving DecidableEq

namespace CallStack

def empty : CallStack where
  slots := Vector.replicate 16 0
  depth := 0

/-- The return addresses of the calls that are open, oldest first. -/
def live (s : CallStack) : List UInt16 :=
  s.slots.toList.take s.depth

/-- One more open call; refused when the stack is full. -/
def push? (s : CallStack) (addr : UInt16) : Option CallStack :=
  if h : s.depth < 16 then
    some { slots := s.slots.set s.depth addr, depth := s.depth + 1 }
  else none

/-- The latest open call and the stack without it; refused when there is none. -/
def pop? (s : CallStack) : Option (UInt16 × CallStack) :=
  if h : 0 < s.depth then
    have := s.depth_le
    some (s.slots[s.depth - 1], { slots := s.slots, depth := s.depth - 1 })
  else none

/-- No call is open any more. -/
def clear (s : CallStack) : CallStack where
  slots := s.slots
  depth := 0

/-! ## The view

A call adds an address at the end of the view and a return takes the last one away, each with the
one refusal that the view explains: there are sixteen addresses already, or none. -/

@[simp] theorem live_empty : empty.live = [] := rfl

@[simp] theorem live_clear (s : CallStack) : s.clear.live = [] := by
  simp [live, clear]

@[simp] theorem length_live (s : CallStack) : s.live.length = s.depth := by
  simp [live, s.depth_le]

theorem push?_eq_none_iff (s : CallStack) (addr : UInt16) :
    s.push? addr = none ↔ s.live.length = 16 := by
  have hle := s.depth_le
  rw [length_live]
  unfold push?
  split
  · simp; omega
  · simp; omega

/-- A new call is the latest; what was left in its slot does not show. -/
theorem live_of_push? {s s' : CallStack} {addr : UInt16} (h : s.push? addr = some s') :
    s'.live = s.live ++ [addr] := by
  unfold push? at h
  split at h
  case isFalse => contradiction
  case isTrue hlt =>
    obtain rfl := Option.some.inj h
    -- the written slot is the last one shown, and the ones before it are untouched
    rw [live, live, List.take_add_one]
    congr 1
    · rw [Vector.toList_set, List.take_set_of_le (Nat.le_refl _)]
    · simp [hlt]

theorem pop?_eq_none_iff (s : CallStack) : s.pop? = none ↔ s.live = [] := by
  rw [← List.length_eq_zero_iff, length_live]
  unfold pop?
  split
  · simp; omega
  · simp; omega

/-- A return goes to the latest open call and closes it. -/
theorem live_of_pop? {s s' : CallStack} {addr : UInt16} (h : s.pop? = some (addr, s')) :
    s.live = s'.live ++ [addr] := by
  unfold pop? at h
  split at h
  case isFalse => contradiction
  case isTrue hpos =>
    have hle := s.depth_le
    simp only [Option.some.injEq, Prod.mk.injEq] at h
    obtain ⟨rfl, rfl⟩ := h
    -- the slot that is freed was the last one shown
    have hlast : s.depth = (s.depth - 1) + 1 := by omega
    have hslot : s.depth - 1 < 16 := by omega
    rw [live, live]
    conv => lhs; rw [hlast]
    rw [List.take_add_one]
    simp [hslot]

end CallStack

end Cosmac
