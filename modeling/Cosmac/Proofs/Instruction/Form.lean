import Cosmac.Instruction.Basic

/-!
# Cosmac — the instruction set as a table

The instruction set, listed by the forms of its words: a form fixes some of the four digits of a
word and leaves the others to operands.

The table is one list of forms, in the way in which instruction sets are printed. Decoding asks for
the digits one after the other instead. To compare the two, the table is cut into families of forms
with the same first digit, which is what decoding asks for first; in each family the question is
then which of the other digits are fixed, and that is a fact about numbers below 65536.

* `Defined` — the word has one of the forms; `defined_iff_family` — it is enough to look in one
  family.
* `decode_eq_unknown_iff` — decoding knows exactly the words of the table.
* `target_decode_le` — an address that an instruction names has three digits.
-/

namespace Cosmac.Instruction

/-- Four digits, highest first; where there is none, any digit may stand. -/
structure Form where
  first : Option Nat
  second : Option Nat
  third : Option Nat
  last : Option Nat
  deriving DecidableEq

/-- Whether a digit may stand where a form has `fixed`. -/
def Form.allows (fixed : Option Nat) (digit : Nat) : Bool :=
  match fixed with
  | none => true
  | some d => digit = d

/-- A word has a form when its digits may stand where they stand. -/
def Form.fits (f : Form) (word : UInt16) : Bool :=
  allows f.first (word.toNat / 0x1000)
    && allows f.second (word.toNat / 0x100 % 0x10)
    && allows f.third (word.toNat / 0x10 % 0x10)
    && allows f.last (word.toNat % 0x10)

/-- A word that is an instruction by its first digit: `1NNN`, `6XNN`, `DXYN` and their like. -/
def Form.byFirst (a : Nat) : Form := ⟨some a, none, none, none⟩

/-- An operation between two registers: `5XY0`, `8XY4` and their like. -/
def Form.byLast (a d : Nat) : Form := ⟨some a, none, none, some d⟩

/-- An operation on one register: `EX9E`, `FX07` and their like. -/
def Form.byTail (a nn : Nat) : Form := ⟨some a, none, some (nn / 0x10), some (nn % 0x10)⟩

/-- The forms of the instruction set. -/
def forms : List Form := [
  ⟨some 0x0, some 0x0, some 0xe, some 0x0⟩, ⟨some 0x0, some 0x0, some 0xe, some 0xe⟩,
  .byFirst 0x1, .byFirst 0x2, .byFirst 0x3, .byFirst 0x4,
  .byLast 0x5 0x0,
  .byFirst 0x6, .byFirst 0x7,
  .byLast 0x8 0x0, .byLast 0x8 0x1, .byLast 0x8 0x2, .byLast 0x8 0x3, .byLast 0x8 0x4,
  .byLast 0x8 0x5, .byLast 0x8 0x6, .byLast 0x8 0x7, .byLast 0x8 0xe,
  .byLast 0x9 0x0,
  .byFirst 0xa, .byFirst 0xb, .byFirst 0xc, .byFirst 0xd,
  .byTail 0xe 0x9e, .byTail 0xe 0xa1,
  .byTail 0xf 0x07, .byTail 0xf 0x0a, .byTail 0xf 0x15, .byTail 0xf 0x18, .byTail 0xf 0x1e,
  .byTail 0xf 0x29, .byTail 0xf 0x33, .byTail 0xf 0x55, .byTail 0xf 0x65]

/-- The word is in the instruction set. -/
def Defined (word : UInt16) : Prop :=
  ∃ f ∈ forms, f.fits word

instance (word : UInt16) : Decidable (Defined word) := by
  unfold Defined
  infer_instance

/-! ## Families

The digits of a word are quotients and remainders, so whether a form fits is arithmetic. -/

/-- The forms that a word with this first digit can have. -/
def family (first : Nat) : List Form :=
  forms.filter fun f => Form.allows f.first first

/-- A word has a form of the family of its first digit, or none at all. -/
theorem defined_iff_family (word : UInt16) :
    Defined word ↔ ∃ f ∈ family (word.toNat / 0x1000), f.fits word := by
  constructor
  · rintro ⟨f, hf, hfits⟩
    have hfirst : Form.allows f.first (word.toNat / 0x1000) = true := by
      simp only [Form.fits, Bool.and_eq_true] at hfits
      exact hfits.1.1.1
    exact ⟨f, List.mem_filter.2 ⟨hf, hfirst⟩, hfits⟩
  · rintro ⟨f, hf, hfits⟩
    exact ⟨f, (List.mem_filter.1 hf).1, hfits⟩

/-- A form by its first digit asks for that digit alone. -/
@[simp] theorem fits_byFirst (a : Nat) (word : UInt16) :
    (Form.byFirst a).fits word = true ↔ word.toNat / 0x1000 = a := by
  simp [Form.fits, Form.byFirst, Form.allows]

@[simp] theorem fits_byLast (a d : Nat) (word : UInt16) :
    (Form.byLast a d).fits word = true ↔
      word.toNat / 0x1000 = a ∧ word.toNat % 0x10 = d := by
  simp [Form.fits, Form.byLast, Form.allows]

theorem fits_byTail {nn : Nat} (hnn : nn < 0x100) (a : Nat) (word : UInt16) :
    (Form.byTail a nn).fits word = true ↔
      word.toNat / 0x1000 = a ∧ word.toNat % 0x100 = nn := by
  simp only [Form.fits, Form.byTail, Form.allows, Bool.and_eq_true, decide_eq_true_eq, and_true]
  omega

/-- The two forms without an operand are words. -/
theorem fits_exact (d : Nat) (hd : d < 0x10) (word : UInt16) :
    (Form.mk (some 0x0) (some 0x0) (some 0xe) (some d)).fits word = true ↔
      word.toNat = 0xe0 + d := by
  have hword : word.toNat < 65536 := word.toNat_lt
  simp only [Form.fits, Form.allows, Bool.and_eq_true, decide_eq_true_eq]
  omega

/-! In a family that is not one form, some of the other digits pick the instruction. -/

/-- Two words that begin with a zero are instructions. -/
theorem defined_screen_iff {word : UInt16} (h : word.toNat / 0x1000 = 0x0) :
    Defined word ↔ word = 0x00e0 ∨ word = 0x00ee := by
  have hfamily : family 0x0 = [⟨some 0x0, some 0x0, some 0xe, some 0x0⟩,
    ⟨some 0x0, some 0x0, some 0xe, some 0xe⟩] := rfl
  have hword (k : UInt16) : word = k ↔ word.toNat = k.toNat := UInt16.toNat_inj.symm
  rw [defined_iff_family, h, hfamily]
  simp [fits_exact, hword]

/-- A comparison of two registers ends with a zero. -/
theorem defined_skip_iff {word : UInt16} {first : Nat} (h : word.toNat / 0x1000 = first)
    (hfamily : family first = [.byLast first 0x0]) : Defined word ↔ word.toNat % 0x10 = 0 := by
  rw [defined_iff_family, h, hfamily]
  simp [h]

/-- Nine of the sixteen last digits are operations between registers. -/
theorem defined_arithmetic_iff {word : UInt16} (h : word.toNat / 0x1000 = 0x8) :
    Defined word ↔ word.toNat % 0x10 ∈ [0, 1, 2, 3, 4, 5, 6, 7, 0xe] := by
  have hfamily : family 0x8 = [.byLast 0x8 0x0, .byLast 0x8 0x1, .byLast 0x8 0x2, .byLast 0x8 0x3,
    .byLast 0x8 0x4, .byLast 0x8 0x5, .byLast 0x8 0x6, .byLast 0x8 0x7, .byLast 0x8 0xe] := rfl
  rw [defined_iff_family, h, hfamily]
  simp [h]

/-- There are two questions about keys. -/
theorem defined_key_iff {word : UInt16} (h : word.toNat / 0x1000 = 0xe) :
    Defined word ↔ word.toNat % 0x100 = 0x9e ∨ word.toNat % 0x100 = 0xa1 := by
  have hfamily : family 0xe = [.byTail 0xe 0x9e, .byTail 0xe 0xa1] := rfl
  rw [defined_iff_family, h, hfamily]
  simp [fits_byTail, h]

/-- Nine pairs of last digits are operations on one register. -/
theorem defined_transfer_iff {word : UInt16} (h : word.toNat / 0x1000 = 0xf) :
    Defined word ↔
      word.toNat % 0x100 ∈ [0x07, 0x0a, 0x15, 0x18, 0x1e, 0x29, 0x33, 0x55, 0x65] := by
  have hfamily : family 0xf = [.byTail 0xf 0x07, .byTail 0xf 0x0a, .byTail 0xf 0x15,
    .byTail 0xf 0x18, .byTail 0xf 0x1e, .byTail 0xf 0x29, .byTail 0xf 0x33, .byTail 0xf 0x55,
    .byTail 0xf 0x65] := rfl
  rw [defined_iff_family, h, hfamily]
  simp [fits_byTail, h]

/-! ## Decoding

Decoding is followed through its cases. In each the word is known to be in a family, and is unknown
where its other digits are not those of an instruction. -/

theorem unknown_eq_iff (word w : UInt16) : unknown word = unknown w ↔ w = word := by
  rw [unknown.injEq, eq_comm]

theorem ite_eq_unknown_iff {c : Prop} [Decidable c] {instr other : Instruction} {w : UInt16}
    (hinstr : instr ≠ .unknown w) :
    (if c then instr else other) = .unknown w ↔ ¬ c ∧ other = .unknown w := by
  split
  · next hc => simp [hc, hinstr]
  · next hc => simp [hc]

/-- The family `8XYN` knows its part of the table. -/
theorem decodeArithmetic_eq_unknown_iff (x y : Reg) {word : UInt16} (w : UInt16)
    (h : word.toNat / 0x1000 = 0x8) :
    decodeArithmetic x y word = .unknown w ↔ w = word ∧ ¬ Defined word := by
  rw [defined_arithmetic_iff h]
  unfold decodeArithmetic
  split
  -- the digits that are left over: none of those in the table
  case h_10 =>
    rw [unknown_eq_iff]
    exact (and_iff_left (by simp_all)).symm
  all_goals simp [*]

theorem decodeTransfer_eq_unknown_iff (x : Reg) {word : UInt16} (w : UInt16)
    (h : word.toNat / 0x1000 = 0xf) :
    decodeTransfer x word = .unknown w ↔ w = word ∧ ¬ Defined word := by
  rw [defined_transfer_iff h]
  unfold decodeTransfer
  split
  case h_10 =>
    rw [unknown_eq_iff]
    exact (and_iff_left (by simp_all)).symm
  all_goals simp [*]

/-- **Decoding knows the table**: exactly the words that have none of the forms are unknown. -/
theorem decode_eq_unknown_iff (word w : UInt16) :
    decode word = .unknown w ↔ w = word ∧ ¬ Defined word := by
  have hword : word.toNat < 65536 := word.toNat_lt
  unfold decode
  dsimp only
  split
  -- the words of this family are in the table as they are
  case h_1 h =>
    simp only [ite_eq_unknown_iff, ne_eq, reduceCtorEq, not_false_eq_true, unknown_eq_iff,
      defined_screen_iff h]
    grind
  case h_6 h | h_10 h =>
    simp only [ite_eq_unknown_iff, ne_eq, reduceCtorEq, not_false_eq_true, unknown_eq_iff,
      defined_skip_iff h rfl]
    exact and_comm
  case h_9 h => exact decodeArithmetic_eq_unknown_iff _ _ w h
  case h_15 h =>
    have htail (k : UInt8) :
        UInt8.ofNat (word.toNat % 0x100) = k ↔ word.toNat % 0x100 = k.toNat := by
      rw [← UInt8.toNat_inj]
      simp
    simp only [ite_eq_unknown_iff, ne_eq, reduceCtorEq, not_false_eq_true, unknown_eq_iff, htail,
      defined_key_iff h]
    grind
  case h_16 h => exact decodeTransfer_eq_unknown_iff _ w h
  case h_17 =>
    -- a digit is below sixteen, and all of them have their case
    simp only [imp_false] at *
    omega
  -- the families that are one form
  all_goals
    next h =>
      have hdefined : Defined word := ⟨.byFirst (word.toNat / 0x1000), by rw [h]; decide, by simp⟩
      simp [hdefined]

/-! ## Operands

Four instructions name an address. It comes from three digits of a word, which is why a jump cannot
leave the first 4096 bytes. -/

/-- The address that an instruction names, if it names one. -/
def target? : Instruction → Option UInt16
  | jump target | call target | setIndex target | jumpOffset _ target => some target
  | _ => none

/-- What three digits can say is at most `0xfff`. -/
theorem toNat_target_le (word : UInt16) : (UInt16.ofNat (word.toNat % 0x1000)).toNat ≤ 0xfff := by
  rw [UInt16.toNat_ofNat']
  omega

/-- **An address in a word has three digits.** -/
theorem target_decode_le {word target : UInt16} (h : (decode word).target? = some target) :
    target.toNat ≤ 0xfff := by
  unfold decode at h
  dsimp only at h
  split at h
  case h_2 | h_3 | h_11 | h_12 =>
    obtain rfl := Option.some.inj h
    exact toNat_target_le word
  case h_9 =>
    unfold decodeArithmetic at h
    split at h
    all_goals contradiction
  case h_16 =>
    unfold decodeTransfer at h
    split at h
    all_goals contradiction
  -- no other family names an address
  all_goals
    repeat' split at h
    all_goals contradiction

end Cosmac.Instruction
