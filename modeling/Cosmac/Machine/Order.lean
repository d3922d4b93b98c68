import Cosmac.Machine.Step

/-!
# Cosmac — carrying out orders

An order is carried out as if its instruction had been fetched from where the program is. Unlike an
instruction from memory it can crash: where it uses a register that there is none of, and where it
jumps past what an address can hold. Nothing has happened then but for the trace.
-/

namespace Cosmac

/-- An order that was carried out, or that crashed. -/
structure Attempt where
  result : Except Crash Outcome
  machine : Machine
  log : List Event

namespace Machine

/-- Whether an instruction stays within what an address can hold. -/
def canExecute (m : Machine) : Instruction → Bool
  | .jumpOffset x target =>
    target.toNat + (m.get (m.dialect.jumpRegister.pick x)).toNat < 65536
  | _ => true

/-- An instruction from memory stays within it: its target has twelve bits, and a register eight. -/
theorem canExecute_decode (m : Machine) (word : UInt16) :
    m.canExecute (Instruction.decode word) = true := by
  unfold Instruction.decode
  dsimp only
  split
  case h_12 =>
    have htarget : word.toNat % 0x1000 < 0x1000 := Nat.mod_lt _ (by decide)
    have hoffset := (m.get (m.dialect.jumpRegister.pick (Instruction.digit 0x100 word))).toNat_lt
    simp only [canExecute, UInt16.toNat_ofNat', decide_eq_true_eq]
    omega
  case h_9 =>
    unfold Instruction.decodeArithmetic
    split <;> rfl
  case h_16 =>
    unfold Instruction.decodeTransfer
    split <;> rfl
  -- every other family has nothing to add up
  all_goals
    repeat' split
    all_goals rfl

/-- Carries out an order. -/
def attempt (m : Machine) (o : Order) : Attempt :=
  let offset := m.dialect.jumpRegister
  match o.resolve? offset with
  | none => ⟨.error .noSuchRegister, m, [.ordered o m.registers.pc]⟩
  | some instr =>
    if m.canExecute instr then
      let s := m.execute instr
      ⟨.ok s.outcome, s.machine, s.log⟩
    else ⟨.error .jumpTarget, m, [.executing instr offset m.registers.pc]⟩

end Machine

end Cosmac
