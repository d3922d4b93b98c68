import Cosmac.Instruction.Basic

/-!
# Cosmac — encoding

The word of an instruction. `encode_decode` says that decoding forgets nothing: the word can be
had back from what it was read as, so no two words are the same instruction.
-/

namespace Cosmac.Instruction

/-- A word by its first digit and its last three. -/
def ofTarget (family : Nat) (target : UInt16) : Nat :=
  0x1000 * family + target.toNat % 0x1000

/-- A word by its first two digits and its last two. -/
def ofByte (family : Nat) (x : Reg) (nn : Nat) : Nat :=
  0x1000 * family + 0x100 * x.val + nn

/-- A word by its digits. -/
def ofDigits (family : Nat) (x y : Reg) (n : Nat) : Nat :=
  0x1000 * family + 0x100 * x.val + 0x10 * y.val + n

/-- The word of an instruction, as a number. -/
def code : Instruction → Nat
  | clearScreen => 0x00e0
  | leave => 0x00ee
  | jump target => ofTarget 0x1 target
  | call target => ofTarget 0x2 target
  | skipIf x nn => ofByte 0x3 x nn.toNat
  | skipUnless x nn => ofByte 0x4 x nn.toNat
  | skipIfSame x y => ofDigits 0x5 x y 0x0
  | set x nn => ofByte 0x6 x nn.toNat
  | increase x nn => ofByte 0x7 x nn.toNat
  | copy x y => ofDigits 0x8 x y 0x0
  | or x y => ofDigits 0x8 x y 0x1
  | and x y => ofDigits 0x8 x y 0x2
  | xor x y => ofDigits 0x8 x y 0x3
  | add x y => ofDigits 0x8 x y 0x4
  | sub x y => ofDigits 0x8 x y 0x5
  | shiftRight x y => ofDigits 0x8 x y 0x6
  | subFrom x y => ofDigits 0x8 x y 0x7
  | shiftLeft x y => ofDigits 0x8 x y 0xe
  | skipUnlessSame x y => ofDigits 0x9 x y 0x0
  | setIndex target => ofTarget 0xa target
  | jumpOffset _ target => ofTarget 0xb target
  | random x nn => ofByte 0xc x nn.toNat
  | draw x y rows => ofDigits 0xd x y (rows.toNat % 0x10)
  | skipIfKey x => ofByte 0xe x 0x9e
  | skipUnlessKey x => ofByte 0xe x 0xa1
  | readDelay x => ofByte 0xf x 0x07
  | waitKey x => ofByte 0xf x 0x0a
  | setDelay x => ofByte 0xf x 0x15
  | setSound x => ofByte 0xf x 0x18
  | addIndex x => ofByte 0xf x 0x1e
  | glyph x => ofByte 0xf x 0x29
  | decimal x => ofByte 0xf x 0x33
  | save x => ofByte 0xf x 0x55
  | restore x => ofByte 0xf x 0x65
  | unknown word => word.toNat

/-- The word of an instruction. -/
def encode (i : Instruction) : UInt16 :=
  UInt16.ofNat i.code

/-! ## Decoding forgets nothing

Family by family: the digits that `decode` takes apart are put together again. -/

theorem code_decodeArithmetic (word : UInt16) (h : word.toNat / 0x1000 = 0x8) :
    (decodeArithmetic (digit 0x100 word) (digit 0x10 word) word).code = word.toNat := by
  unfold decodeArithmetic
  split <;> simp only [code, ofDigits, digit, Fin.val_ofNat] <;> omega

theorem code_decodeTransfer (word : UInt16) (h : word.toNat / 0x1000 = 0xf) :
    (decodeTransfer (digit 0x100 word) word).code = word.toNat := by
  unfold decodeTransfer
  split <;> simp only [code, ofByte, digit, Fin.val_ofNat] <;> omega

/-- The number of a word's instruction is the word. -/
theorem code_decode (word : UInt16) : (decode word).code = word.toNat := by
  simp only [decode]
  split
  case h_1 =>
    -- the only two words of their family
    split
    · simp_all [code]
    · split <;> simp_all [code]
  case h_6 | h_10 =>
    -- the last digit of these families is zero
    split
    · simp [code, ofDigits, digit]
      omega
    · rfl
  case h_9 h => exact code_decodeArithmetic word h
  case h_15 =>
    split
    · rename_i h
      have := congrArg UInt8.toNat h
      simp [code, ofByte, digit] at this ⊢
      omega
    · split
      · rename_i h
        have := congrArg UInt8.toNat h
        simp [code, ofByte, digit] at this ⊢
        omega
      · rfl
  case h_16 h => exact code_decodeTransfer word h
  all_goals simp [code, ofTarget, ofByte, ofDigits, digit] <;> omega

/-- The word of a word's instruction is the word. -/
theorem encode_decode (word : UInt16) : (decode word).encode = word := by
  rw [encode, code_decode, UInt16.ofNat_toNat]

end Cosmac.Instruction
