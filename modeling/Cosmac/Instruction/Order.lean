import Cosmac.Instruction.Mnemonic

/-!
# Cosmac — orders

An order is an instruction that someone asks for, rather than one that was read from memory. Its
registers are numbers, of which those past fifteen name none, and its addresses may lie outside of
memory.
-/

namespace Cosmac

inductive Order
  /-- An instruction all of whose registers there are. -/
  | instruction (instr : Instruction)
  /-- A jump to `target` and the value of a register. -/
  | jumpOffset (x : Nat) (target : UInt16)
  | draw (x y : Nat) (rows : UInt8)
  deriving Repr, DecidableEq

namespace Order

/-- The register of a number. -/
def reg? (x : Nat) : Option Reg :=
  if h : x < 16 then some ⟨x, h⟩ else none

/-- The instruction that is asked for, if it has the registers that it uses. -/
def resolve? (offset : JumpRegister) : Order → Option Instruction
  | instruction instr => some instr
  | jumpOffset x target =>
    match offset with
    -- whatever is named, it is another register that counts
    | .v0 => some (.jumpOffset Reg.first target)
    | .vx => (reg? x).map fun x => .jumpOffset x target
  | draw x y rows =>
    match reg? x, reg? y with
    | some x, some y => some (.draw x y rows)
    | _, _ => none

/-- `V` and the upper-case digits of a number. -/
def regName (x : Nat) : String :=
  String.ofList ('V' :: (Hex.digits 1 x).map Char.toUpper)

/-- The text of an order that uses the registers it names. -/
def mnemonic : Order → String
  | instruction instr => instr.mnemonic .vx
  | jumpOffset x target => "JP " ++ regName x ++ ", " ++ Hex.address target
  | draw x y rows => "DRW " ++ regName x ++ ", " ++ regName y ++ ", " ++ toString rows.toNat

end Order

end Cosmac
