import Cosmac.Instruction.Basic
import Cosmac.Text.Numeral

/-!
# Cosmac — mnemonics

The text of an instruction, as listings and traces show it. A jump with an offset names the register
that the dialect adds, so `Instruction.mnemonic` takes it as an argument; every other text depends
on the instruction alone.

An operation and its operands stand in columns that a reader can take apart again: the operation up
to the first blank, operands between commas. Numbers have a mark and a fixed number of digits, one
digit for each four bits of the word that are theirs.
-/

namespace Cosmac

/-- `V` and the upper-case digit of the register. -/
def Reg.name (r : Reg) : String :=
  String.ofList ['V', (Nat.digitChar r.val).toUpper]

namespace JumpRegister

/-- The register whose value is added to the target of `BNNN`, where `x` is the target's highest
digit. -/
def pick (j : JumpRegister) (x : Reg) : Reg :=
  match j with
  | .v0 => Reg.first
  | .vx => x

end JumpRegister

namespace Instruction

/-- An operation on a register and a literal byte. -/
def withByte (op : String) (x : Reg) (nn : UInt8) : String :=
  op ++ " " ++ x.name ++ ", " ++ Hex.byte nn

/-- An operation on two registers. -/
def withRegs (op : String) (x y : Reg) : String :=
  op ++ " " ++ x.name ++ ", " ++ y.name

/-- The text of an instruction where `BNNN` adds `offset`. -/
def mnemonic (offset : JumpRegister) : Instruction → String
  | clearScreen => "CLS"
  | leave => "RET"
  | jump target => "JP " ++ Hex.address target
  | call target => "CALL " ++ Hex.address target
  | skipIf x nn => withByte "SE" x nn
  | skipUnless x nn => withByte "SNE" x nn
  | skipIfSame x y => withRegs "SE" x y
  | set x nn => withByte "LD" x nn
  | increase x nn => withByte "ADD" x nn
  | copy x y => withRegs "LD" x y
  | or x y => withRegs "OR" x y
  | and x y => withRegs "AND" x y
  | xor x y => withRegs "XOR" x y
  | add x y => withRegs "ADD" x y
  | sub x y => withRegs "SUB" x y
  | shiftRight x y => withRegs "SHR" x y
  | subFrom x y => withRegs "SUBN" x y
  | shiftLeft x y => withRegs "SHL" x y
  | skipUnlessSame x y => withRegs "SNE" x y
  | setIndex target => "LD I, " ++ Hex.address target
  | jumpOffset x target => "JP " ++ (offset.pick x).name ++ ", " ++ Hex.address target
  | random x nn => withByte "RND" x nn
  -- the rows are a count, so they are shown in decimal
  | draw x y rows => withRegs "DRW" x y ++ ", " ++ toString rows.toNat
  | skipIfKey x => "SKP " ++ x.name
  | skipUnlessKey x => "SKNP " ++ x.name
  | readDelay x => "LD " ++ x.name ++ ", DT"
  | waitKey x => "LD " ++ x.name ++ ", K"
  | setDelay x => "LD DT, " ++ x.name
  | setSound x => "LD ST, " ++ x.name
  | addIndex x => "ADD I, " ++ x.name
  | glyph x => "LD F, " ++ x.name
  | decimal x => "LD B, " ++ x.name
  | save x => "LD [I], " ++ x.name
  | restore x => "LD " ++ x.name ++ ", [I]"
  | unknown word => "DW " ++ Hex.word word

end Instruction

end Cosmac
