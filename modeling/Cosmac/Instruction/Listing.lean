import Cosmac.Instruction.Mnemonic

/-!
# Cosmac — listings

A listing shows a program image word by word: where each word lies, its digits, and the
instruction that it stands for. An image of odd length ends in a lone byte.

* `Listing.ofBytes` makes the rows of a listing.
* `Listing.Row.text` prints one.
-/

namespace Cosmac

/-- The word of two bytes in memory order. -/
def wordOfBytes (hi lo : UInt8) : UInt16 :=
  hi.toUInt16 * 256 + lo.toUInt16

/-- The first of the two bytes is the high one. -/
theorem toNat_wordOfBytes (hi lo : UInt8) :
    (wordOfBytes hi lo).toNat = 256 * hi.toNat + lo.toNat := by
  have := hi.toNat_lt
  have := lo.toNat_lt
  simp [wordOfBytes, UInt16.toNat_add, UInt16.toNat_mul]
  omega

namespace Listing

/-- A line of a listing, by its columns. -/
structure Row where
  /-- Where the bytes lie. Addresses past sixteen bits go on counting. -/
  address : Nat
  /-- The bytes in digits. -/
  raw : String
  /-- What they stand for. -/
  mnemonic : String
  deriving Repr, DecidableEq

namespace Row

/-- The row of a whole word. -/
def ofWord (offset : JumpRegister) (address : Nat) (word : UInt16) : Row where
  address := address
  raw := Hex.bare 4 word.toNat
  mnemonic := (Instruction.decode word).mnemonic offset

/-- The row of a lone byte. -/
def ofByte (address : Nat) (b : UInt8) : Row where
  address := address
  raw := Hex.bare 2 b.toNat
  mnemonic := "DB " ++ Hex.byte b

/-- The columns side by side; the mnemonics are aligned. -/
def text (r : Row) : String :=
  Hex.bare 3 r.address ++ ": " ++ String.ofList (r.raw.toList.rightpad 4 ' ') ++ "  " ++ r.mnemonic

end Row

/-- The rows of an image that is loaded at `base`. -/
def ofBytes (offset : JumpRegister) (base : Nat) : List UInt8 → List Row
  | hi :: lo :: rest =>
    .ofWord offset base (wordOfBytes hi lo) :: ofBytes offset (base + 2) rest
  | [b] => [.ofByte base b]
  | [] => []

end Listing

end Cosmac
