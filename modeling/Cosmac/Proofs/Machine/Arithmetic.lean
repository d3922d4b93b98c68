import Cosmac.Instruction.Encode
import Cosmac.Proofs.Machine.Action

/-!
# Cosmac — computing with two registers

The instructions `8XY1` to `8XYE` read `VX` and `VY` and write `VX` and `VF`. Any of the three
registers may be the same: what is computed is computed from the old values, and of two results for
one register the flag is the one that stays.

The machine computes with bytes and tells the flag by a comparison. What it should compute is said
with numbers instead, by one equation for each operation, in which the flag is what the byte is
short of or has lost. The equation determines flag and byte, so it says all there is to say, and it
does so without the comparison that the machine happens to make.

* `Arithmetic.Law` — the equation between operands, result and flag, in numbers; `Yields.unique` —
  it leaves no choice.
* `exists_perform_arithmetic` — the bytes and the comparisons of the machine obey it.
* `get_setWithFlag` and `get_setLogic` — what is in the registers after a result and a flag, in that
  order.
* `computes_from_old_values` — the registers after any of the instructions.
-/

namespace Cosmac

/-- Picks one of the values of `VX` and `VY`. -/
def ShiftOperand.pick (operand : ShiftOperand) (a b : Nat) : Nat :=
  match operand with
  | .vx => a
  | .vy => b

/-! ## Operations with a flag

Five of the operations leave a flag. For a sum it counts for 256 and for a shift it is the bit that
has left; after a subtraction it is one where nothing was borrowed. -/

/-- The operations on two registers that leave a flag. -/
inductive Arithmetic
  | add
  | sub
  | shiftRight
  | subFrom
  | shiftLeft
  deriving Repr, DecidableEq

namespace Arithmetic

/-- The last digit of the instruction. -/
def digit : Arithmetic → Nat
  | add => 0x4
  | sub => 0x5
  | shiftRight => 0x6
  | subFrom => 0x7
  | shiftLeft => 0xe

def instruction (op : Arithmetic) (x y : Reg) : Instruction :=
  match op with
  | add => .add x y
  | sub => .sub x y
  | shiftRight => .shiftRight x y
  | subFrom => .subFrom x y
  | shiftLeft => .shiftLeft x y

/-- What holds between the values `a` and `b` of `VX` and `VY`, the flag `f` and the result `r`. A
carry is what the result lacks; a flag of zero after a subtraction is a borrow. -/
def Law (op : Arithmetic) (operand : ShiftOperand) (a b f r : Nat) : Prop :=
  match op with
  | add => 256 * f + r = a + b
  | sub => r + b = a + 256 * (1 - f)
  | subFrom => r + a = b + 256 * (1 - f)
  | shiftRight => 2 * r + f = operand.pick a b
  | shiftLeft => 256 * f + r = 2 * operand.pick a b

/-- A flag and a byte that obey the law. -/
structure Yields (op : Arithmetic) (operand : ShiftOperand) (a b f r : Nat) : Prop where
  flag_le : f ≤ 1
  result_lt : r < 256
  law : op.Law operand a b f r

/-- Flag and byte are determined by the operands. -/
theorem Yields.unique {op : Arithmetic} {operand : ShiftOperand} {a b f r f' r' : Nat}
    (h : op.Yields operand a b f r) (h' : op.Yields operand a b f' r') : f' = f ∧ r' = r := by
  obtain ⟨hflag, hresult, hlaw⟩ := h
  obtain ⟨hflag', hresult', hlaw'⟩ := h'
  cases op with
  | add | sub | subFrom | shiftRight | shiftLeft =>
    simp only [Law] at hlaw hlaw'
    omega

end Arithmetic

/-! ## Operations on bits

Three leave no flag. In some dialects they zero the register of the flag instead. -/

/-- The operations on two registers that work bit by bit. -/
inductive Logic
  | or
  | and
  | xor
  deriving Repr, DecidableEq

namespace Logic

/-- The last digit of the instruction. -/
def digit : Logic → Nat
  | or => 0x1
  | and => 0x2
  | xor => 0x3

def instruction (op : Logic) (x y : Reg) : Instruction :=
  match op with
  | or => .or x y
  | and => .and x y
  | xor => .xor x y

/-- The operation on one bit. -/
def onBit : Logic → Bool → Bool → Bool
  | or => Bool.or
  | and => Bool.and
  | xor => Bool.xor

end Logic

/-! ## Words

The instructions are got from words, by their last digit. -/

/-- The word `8XYN`. -/
def arithmeticWord (x y : Reg) (n : Nat) : UInt16 :=
  UInt16.ofNat (Instruction.ofDigits 0x8 x y n)

namespace Instruction

/-- The word is read by its last digit. -/
theorem decode_arithmeticWord (x y : Reg) {n : Nat} (hn : n < 16) {i : Instruction}
    (hi : ∀ word : UInt16, word.toNat % 0x10 = n → decodeArithmetic x y word = i) :
    decode (arithmeticWord x y n) = i := by
  have hx : x.val < 16 := x.isLt
  have hy : y.val < 16 := y.isLt
  have hword : (arithmeticWord x y n).toNat = 0x8000 + 0x100 * x.val + 0x10 * y.val + n := by
    rw [arithmeticWord, UInt16.toNat_ofNat', ofDigits]
    omega
  -- the four digits can be read off the number
  have hfamily : (arithmeticWord x y n).toNat / 0x1000 = 0x8 := by omega
  have hdigit {unit : Nat} {z : Reg} (h : (arithmeticWord x y n).toNat / unit % 16 = z.val) :
      digit unit (arithmeticWord x y n) = z := by
    apply Fin.ext
    exact h
  have hdigitX : digit 0x100 (arithmeticWord x y n) = x := hdigit (by omega)
  have hdigitY : digit 0x10 (arithmeticWord x y n) = y := hdigit (by omega)
  simp only [decode, hfamily, hdigitX, hdigitY]
  exact hi _ (by omega)

theorem decode_arithmetic (op : Arithmetic) (x y : Reg) :
    decode (arithmeticWord x y op.digit) = op.instruction x y := by
  cases op with
  | _ =>
    refine decode_arithmeticWord x y (by decide) fun word hlast => ?_
    rw [decodeArithmetic, hlast]
    rfl

theorem decode_logic (op : Logic) (x y : Reg) :
    decode (arithmeticWord x y op.digit) = op.instruction x y := by
  cases op with
  | _ =>
    refine decode_arithmeticWord x y (by decide) fun word hlast => ?_
    rw [decodeArithmetic, hlast]
    rfl

end Instruction

/-! ## Bytes

What the operations on bytes lose, and the comparison that tells of it. -/

/-- A sum of bytes lacks 256 exactly if the sum of the numbers reaches that. -/
theorem toNat_add_carry (a b : UInt8) :
    256 * (decide (256 ≤ a.toNat + b.toNat)).toNat + (a + b).toNat = a.toNat + b.toNat := by
  have ha := a.toNat_lt
  have hb := b.toNat_lt
  rw [UInt8.toNat_add]
  by_cases h : 256 ≤ a.toNat + b.toNat
  · rw [decide_eq_true h, Bool.toNat_true]
    omega
  · rw [decide_eq_false h, Bool.toNat_false]
    omega

/-- A difference of bytes has 256 too much exactly if the second is the greater. -/
theorem toNat_sub_borrow (a b : UInt8) :
    (a - b).toNat + b.toNat = a.toNat + 256 * (1 - (decide (b ≤ a)).toNat) := by
  have ha := a.toNat_lt
  have hb := b.toNat_lt
  rw [UInt8.toNat_sub]
  by_cases h : b ≤ a
  · have hle : b.toNat ≤ a.toNat := UInt8.le_iff_toNat_le.1 h
    rw [decide_eq_true h, Bool.toNat_true]
    omega
  · have hlt : ¬ b.toNat ≤ a.toNat := fun hle => h (UInt8.le_iff_toNat_le.2 hle)
    rw [decide_eq_false h, Bool.toNat_false]
    omega

/-- What half a byte lacks is its last bit. -/
theorem toNat_halve (s : UInt8) : 2 * (s >>> 1).toNat + (decide (s % 2 = 1)).toNat = s.toNat := by
  have hhalf : (s >>> 1).toNat = s.toNat / 2 := by
    rw [UInt8.toNat_shiftRight]
    exact Nat.shiftRight_eq_div_pow _ _
  have hodd : s % 2 = 1 ↔ s.toNat % 2 = 1 := by
    rw [← UInt8.toNat_inj, UInt8.toNat_mod]
    rfl
  -- the bit that is shifted out is the remainder
  by_cases h : s % 2 = 1
  · have hodd' := hodd.1 h
    rw [decide_eq_true h, Bool.toNat_true]
    omega
  · have heven : ¬ s.toNat % 2 = 1 := fun h' => h (hodd.2 h')
    rw [decide_eq_false h, Bool.toNat_false]
    omega

/-- What twice a byte lacks is its first bit. -/
theorem toNat_double (s : UInt8) :
    256 * (decide (128 ≤ s)).toNat + (s <<< 1).toNat = 2 * s.toNat := by
  have hs := s.toNat_lt
  have hdouble : (s <<< 1).toNat = s.toNat * 2 % 256 := by
    rw [UInt8.toNat_shiftLeft]
    exact congrArg (· % 256) (Nat.shiftLeft_eq _ _)
  by_cases h : 128 ≤ s
  · have hle : 128 ≤ s.toNat := UInt8.le_iff_toNat_le.1 h
    rw [decide_eq_true h, Bool.toNat_true]
    omega
  · have hlt : ¬ 128 ≤ s.toNat := fun hle => h (UInt8.le_iff_toNat_le.2 hle)
    rw [decide_eq_false h, Bool.toNat_false]
    omega

namespace Machine

/-! ## Registers after a result and a flag

Two writes, of which the later one wins. This is where it matters whether `VX` is `VF`. -/

theorem get_setReg (m : Machine) (x : Reg) (value : UInt8) (z : Reg) :
    (m.setReg x value).get z = if z = x then value else m.get z := by
  by_cases h : z = x
  · rw [if_pos h, h]
    exact m.registers.get_set_self x value
  · rw [if_neg h]
    exact m.registers.get_set_of_ne (Ne.symm h) value

/-- The flag is written last, so it stays where the result is for the same register. -/
theorem get_setWithFlag (m : Machine) (x : Reg) (value : UInt8) (b : Bool) (z : Reg) :
    ((m.setWithFlag x value b).get z).toNat =
      if z = Reg.flag then b.toNat else if z = x then value.toNat else (m.get z).toNat := by
  show (((m.setReg x value).setReg Reg.flag (if b then 1 else 0)).get z).toNat = _
  rw [get_setReg, get_setReg]
  by_cases hflag : z = Reg.flag
  · rw [if_pos hflag, if_pos hflag]
    cases b with
    | _ => rfl
  · rw [if_neg hflag, if_neg hflag, apply_ite UInt8.toNat]

/-- Zeroing comes last as well, where the dialect asks for it. -/
theorem get_setLogic (m : Machine) (x : Reg) (value : UInt8) (z : Reg) :
    (m.setLogic x value).get z =
      if z = Reg.flag ∧ m.dialect.logicClearsFlag = true then 0
      else if z = x then value else m.get z := by
  unfold setLogic
  by_cases hclears : m.dialect.logicClearsFlag = true
  · rw [if_pos hclears, get_setReg, get_setReg]
    simp only [hclears, and_true]
  · have hkeeps : ¬ (z = Reg.flag ∧ m.dialect.logicClearsFlag = true) := fun h => hclears h.2
    rw [if_neg hclears, if_neg hkeeps, get_setReg]

/-! ## Instructions

What the machine computes is put together from the facts about bytes and those about registers. -/

/-- The dialect picks what a shift works on. -/
theorem shiftOperand_eq_pick (m : Machine) (x y : Reg) :
    (m.shiftOperand x y).toNat = m.dialect.shiftOperand.pick (m.get x).toNat (m.get y).toNat := by
  unfold shiftOperand
  cases m.dialect.shiftOperand with
  | _ => rfl

/-- The result and the flag of the machine obey the law. -/
theorem exists_perform_arithmetic (m : Machine) (op : Arithmetic) (x y : Reg) :
    ∃ value b, m.perform (op.instruction x y) = .ok (.next (m.setWithFlag x value b)) ∧
      op.Yields m.dialect.shiftOperand (m.get x).toNat (m.get y).toNat b.toNat value.toNat := by
  -- flags are at most one and bytes below 256, so the equation is all that is left
  have hlaw {value : UInt8} {b : Bool} (hlaw : op.Law m.dialect.shiftOperand (m.get x).toNat
      (m.get y).toNat b.toNat value.toNat) :
      op.Yields m.dialect.shiftOperand (m.get x).toNat (m.get y).toNat b.toNat value.toNat :=
    ⟨Bool.toNat_le b, value.toNat_lt, hlaw⟩
  cases op with
  | add => exact ⟨_, _, rfl, hlaw (toNat_add_carry _ _)⟩
  | sub => exact ⟨_, _, rfl, hlaw (toNat_sub_borrow _ _)⟩
  | subFrom => exact ⟨_, _, rfl, hlaw (toNat_sub_borrow _ _)⟩
  | shiftRight =>
    refine ⟨_, _, rfl, hlaw ?_⟩
    rw [Arithmetic.Law, ← shiftOperand_eq_pick]
    exact toNat_halve _
  | shiftLeft =>
    refine ⟨_, _, rfl, hlaw ?_⟩
    rw [Arithmetic.Law, ← shiftOperand_eq_pick]
    exact toNat_double _

/-- An operation on bits leaves the result of its operation on each of them. -/
theorem exists_perform_logic (m : Machine) (op : Logic) (x y : Reg) :
    ∃ value, m.perform (op.instruction x y) = .ok (.next (m.setLogic x value)) ∧
      ∀ k, value.toNat.testBit k =
        op.onBit ((m.get x).toNat.testBit k) ((m.get y).toNat.testBit k) := by
  cases op with
  | or =>
    refine ⟨_, rfl, fun k => ?_⟩
    rw [UInt8.toNat_or, Nat.testBit_or]
    rfl
  | and =>
    refine ⟨_, rfl, fun k => ?_⟩
    rw [UInt8.toNat_and, Nat.testBit_and]
    rfl
  | xor =>
    refine ⟨_, rfl, fun k => ?_⟩
    rw [UInt8.toNat_xor, Nat.testBit_xor]
    rfl

/-- An instruction that goes on to the next one leaves the registers that it has written. -/
theorem get_execute_next {m m' : Machine} {i : Instruction} (h : m.perform i = .ok (.next m')) :
    (m.execute i).outcome = .executed ∧ ∀ z, (m.execute i).machine.get z = m'.get z := by
  obtain ⟨houtcome, hmachine⟩ := execute_of_perform h
  rw [houtcome, hmachine]
  exact ⟨rfl, fun z => rfl⟩

/-- **Two registers are computed with as they were.** The flag goes to `VF` and the result to
`VX`, unless it is `VF`; both are what the law makes of the old values of `VX` and `VY`, whichever
of the three registers are the same. Without a flag, the result goes to `VX`, bit by bit, and `VF`
is zeroed after that exactly in the dialects that say so. No other register changes. -/
theorem computes_from_old_values (m : Machine) (x y : Reg) :
    (∀ op : Arithmetic, ∃ f r,
      op.Yields m.dialect.shiftOperand (m.get x).toNat (m.get y).toNat f r ∧
      (∀ f' r', op.Yields m.dialect.shiftOperand (m.get x).toNat (m.get y).toNat f' r' →
        f' = f ∧ r' = r) ∧
      let done := m.execute (Instruction.decode (arithmeticWord x y op.digit))
      done.outcome = .executed ∧ ∀ z, (done.machine.get z).toNat =
        if z = Reg.flag then f else if z = x then r else (m.get z).toNat) ∧
    ∀ op : Logic, ∃ r : UInt8,
      (∀ k, r.toNat.testBit k =
        op.onBit ((m.get x).toNat.testBit k) ((m.get y).toNat.testBit k)) ∧
      let done := m.execute (Instruction.decode (arithmeticWord x y op.digit))
      done.outcome = .executed ∧ ∀ z, done.machine.get z =
        if z = Reg.flag ∧ m.dialect.logicClearsFlag = true then 0
        else if z = x then r else m.get z := by
  constructor
  · intro op
    obtain ⟨value, b, hperform, hyields⟩ := m.exists_perform_arithmetic op x y
    obtain ⟨houtcome, hget⟩ := get_execute_next hperform
    refine ⟨b.toNat, value.toNat, hyields, fun f' r' h' => hyields.unique h', ?_⟩
    rw [Instruction.decode_arithmetic]
    -- result and flag are written one after the other, which decides where both go to the flag
    refine ⟨houtcome, fun z => ?_⟩
    rw [hget, get_setWithFlag]
  · intro op
    obtain ⟨value, hperform, hbits⟩ := m.exists_perform_logic op x y
    obtain ⟨houtcome, hget⟩ := get_execute_next hperform
    refine ⟨value, hbits, ?_⟩
    rw [Instruction.decode_logic]
    refine ⟨houtcome, fun z => ?_⟩
    rw [hget, get_setLogic]

end Machine

end Cosmac
