import Cosmac.Dialect

/-!
# Cosmac — instructions

The instruction set, and how a word of memory is read as one. Every word is some instruction: one
that the set does not have is `unknown`, and carries the word.

Digits of the word are named as usual: `X` and `Y` are its second and third, `N` its last, `NN` its
last two and `NNN` its last three. Decoding goes by the first digit; two families are large enough
to have a function of their own, `decodeArithmetic` and `decodeTransfer`.

Decoding does not depend on the dialect. Where dialects differ, they do so in what an instruction
does, and so some carry operands that only one of them looks at.
-/

namespace Cosmac

/-- The number of a register, `V0` to `VF`. -/
abbrev Reg := Fin 16

/-- `V0`, where jumps may take their offset from. -/
def Reg.first : Reg := 0

/-- `VF`, which carries, borrows, shifts and collisions are reported in. -/
def Reg.flag : Reg := 15

inductive Instruction
  /-- `00E0`: unlight every pixel. -/
  | clearScreen
  /-- `00EE`: leave a subroutine. -/
  | leave
  /-- `1NNN` -/
  | jump (target : UInt16)
  /-- `2NNN`: enter a subroutine. -/
  | call (target : UInt16)
  /-- `3XNN`: skip the next instruction if `VX` is `NN`. -/
  | skipIf (x : Reg) (nn : UInt8)
  /-- `4XNN` -/
  | skipUnless (x : Reg) (nn : UInt8)
  /-- `5XY0` -/
  | skipIfSame (x y : Reg)
  /-- `6XNN` -/
  | set (x : Reg) (nn : UInt8)
  /-- `7XNN`: add without a carry. -/
  | increase (x : Reg) (nn : UInt8)
  /-- `8XY0` -/
  | copy (x y : Reg)
  /-- `8XY1` -/
  | or (x y : Reg)
  /-- `8XY2` -/
  | and (x y : Reg)
  /-- `8XY3` -/
  | xor (x y : Reg)
  /-- `8XY4`: add, the carry goes to `VF`. -/
  | add (x y : Reg)
  /-- `8XY5`: take `VY` from `VX`; `VF` tells that nothing was borrowed. -/
  | sub (x y : Reg)
  /-- `8XY6`: halve, the bit shifted out goes to `VF`. -/
  | shiftRight (x y : Reg)
  /-- `8XY7`: take `VX` from `VY`; `VF` tells that nothing was borrowed. -/
  | subFrom (x y : Reg)
  /-- `8XYE`: double, the bit shifted out goes to `VF`. -/
  | shiftLeft (x y : Reg)
  /-- `9XY0` -/
  | skipUnlessSame (x y : Reg)
  /-- `ANNN` -/
  | setIndex (target : UInt16)
  /-- `BNNN`: jump to `NNN` and an offset; `X` may name the register of the offset. -/
  | jumpOffset (x : Reg) (target : UInt16)
  /-- `CXNN`: a random byte, masked with `NN`. -/
  | random (x : Reg) (nn : UInt8)
  /-- `DXYN`: draw the `N` rows at the index to (`VX`, `VY`); `VF` tells a collision. -/
  | draw (x y : Reg) (rows : UInt8)
  /-- `EX9E`: skip the next instruction if the key `VX` is down. -/
  | skipIfKey (x : Reg)
  /-- `EXA1` -/
  | skipUnlessKey (x : Reg)
  /-- `FX07` -/
  | readDelay (x : Reg)
  /-- `FX0A`: wait for a key, its number goes to `VX`. -/
  | waitKey (x : Reg)
  /-- `FX15` -/
  | setDelay (x : Reg)
  /-- `FX18` -/
  | setSound (x : Reg)
  /-- `FX1E`: move the index by `VX`; `VF` tells that it left the address space. -/
  | addIndex (x : Reg)
  /-- `FX29`: point the index to the glyph of the digit `VX`. -/
  | glyph (x : Reg)
  /-- `FX33`: write the three decimal digits of `VX` at the index. -/
  | decimal (x : Reg)
  /-- `FX55`: write `V0` to `VX` at the index. -/
  | save (x : Reg)
  /-- `FX65`: read `V0` to `VX` from the index. -/
  | restore (x : Reg)
  /-- Any other word. -/
  | unknown (word : UInt16)
  deriving Repr, DecidableEq

namespace Instruction

/-! ## Decoding -/

/-- The digit of a word with the weight `unit`, a power of sixteen. -/
def digit (unit : Nat) (word : UInt16) : Fin 16 :=
  Fin.ofNat 16 (word.toNat / unit)

/-- The family `8XYN`: `N` picks an operation between two registers. -/
def decodeArithmetic (x y : Reg) (word : UInt16) : Instruction :=
  match word.toNat % 0x10 with
  | 0x0 => .copy x y
  | 0x1 => .or x y
  | 0x2 => .and x y
  | 0x3 => .xor x y
  | 0x4 => .add x y
  | 0x5 => .sub x y
  | 0x6 => .shiftRight x y
  | 0x7 => .subFrom x y
  | 0xe => .shiftLeft x y
  | _ => .unknown word

/-- The family `FXNN`: `NN` picks what `VX` is exchanged with. -/
def decodeTransfer (x : Reg) (word : UInt16) : Instruction :=
  match word.toNat % 0x100 with
  | 0x07 => .readDelay x
  | 0x0a => .waitKey x
  | 0x15 => .setDelay x
  | 0x18 => .setSound x
  | 0x1e => .addIndex x
  | 0x29 => .glyph x
  | 0x33 => .decimal x
  | 0x55 => .save x
  | 0x65 => .restore x
  | _ => .unknown word

/-- The instruction that a word stands for. Its first digit picks the family. -/
def decode (word : UInt16) : Instruction :=
  let x := digit 0x100 word
  let y := digit 0x10 word
  let n := word.toNat % 0x10
  let nn := UInt8.ofNat (word.toNat % 0x100)
  let nnn := UInt16.ofNat (word.toNat % 0x1000)
  match word.toNat / 0x1000 with
  | 0x0 =>
    if word = 0x00e0 then .clearScreen
    else if word = 0x00ee then .leave
    else .unknown word
  | 0x1 => .jump nnn
  | 0x2 => .call nnn
  | 0x3 => .skipIf x nn
  | 0x4 => .skipUnless x nn
  | 0x5 => if n = 0 then .skipIfSame x y else .unknown word
  | 0x6 => .set x nn
  | 0x7 => .increase x nn
  | 0x8 => decodeArithmetic x y word
  | 0x9 => if n = 0 then .skipUnlessSame x y else .unknown word
  | 0xa => .setIndex nnn
  | 0xb => .jumpOffset x nnn
  | 0xc => .random x nn
  | 0xd => .draw x y (UInt8.ofNat n)
  | 0xe =>
    if nn = 0x9e then .skipIfKey x
    else if nn = 0xa1 then .skipUnlessKey x
    else .unknown word
  | 0xf => decodeTransfer x word
  | _ => .unknown word

end Instruction

end Cosmac
