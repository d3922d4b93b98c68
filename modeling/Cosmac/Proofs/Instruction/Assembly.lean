import Cosmac.Instruction.Encode
import Cosmac.Instruction.Order
import Cosmac.Proofs.Text.Numeral

/-!
# Cosmac — mnemonics read back

An assembler for the mnemonics of listings. It takes a text apart into an operation and its
operands, and knows the operations by their names and by what kinds of operands they have.

The assembler is there to say that mnemonics can be told apart, so it goes by what can be seen in a
text, and not by how mnemonics are printed. That it inverts printing is shown in two steps. `Spells`
says what a text looks like to the assembler once it is cut into words; it is built up in the order
in which a mnemonic is put together, an operation and then one operand after the other. What is read
from the words is then a table lookup, and each instruction has its line in it.

* `Operand.read` tells numerals, registers and names apart.
* `Statement.read?` reads a text, `Statement.bytes` is what is laid down for it.
* `Statement.Spells` — a text is cut into these words; `read?_of_spells` — reading depends on them
  alone.
* `Statement.read?_mnemonic` — the mnemonic of an instruction is read as that instruction, but for
  the register of a jump that takes its offset from `V0`.
-/

namespace Cosmac

/-! ## Operands

What an operand is shows in its first characters: a digit, a `V` with one digit behind it, or
anything else. -/

/-- What can stand behind an operation. -/
inductive Operand
  | reg (x : Reg)
  | number (n : Nat)
  /-- One of the names for what is not a register: the index, a timer, a key, a glyph. -/
  | name (text : String)
  deriving Repr, DecidableEq

namespace Operand

/-- Marked numerals are hexadecimal, others decimal. -/
def number? : List Char → Option Nat
  | '0' :: 'x' :: cs => (Numeral.someDigits 16 0xffff cs).toOption
  | cs => (Numeral.someDigits 10 0xff cs).toOption

/-- A register is named by `V` and its digit. -/
def reg? : List Char → Option Reg
  | ['V', c] => (Numeral.digit? 16 c).bind Order.reg?
  | _ => none

/-- What is neither a numeral nor a register is a name. -/
def read (text : List Char) : Operand :=
  ((number? text).map number <|> (reg? text).map reg).getD (name (String.ofList text))

theorem read_of_number? {text : List Char} {n : Nat} (h : number? text = some n) :
    read text = number n := by
  rw [read, h]
  rfl

end Operand

/-! ## Statements

Operations go by their name and by the kinds of their operands, so that one name can stand for
several instructions. -/

/-- An instruction, or a byte that is none. -/
inductive Statement
  | instruction (i : Instruction)
  | byte (b : UInt8)
  deriving Repr, DecidableEq

namespace Statement

/-- What is laid down for a statement; words have the high byte first. -/
def bytes : Statement → List UInt8
  | instruction i => [UInt8.ofNat (i.encode.toNat / 0x100), UInt8.ofNat (i.encode.toNat % 0x100)]
  | byte b => [b]

/-- The statement of an operation with these operands, if there is one. -/
def ofOperands? (operation : String) (operands : List Operand) : Option Statement :=
  match operation, operands with
  | "CLS", [] => some (.instruction .clearScreen)
  | "RET", [] => some (.instruction .leave)
  | "JP", [.number nnn] => some (.instruction (.jump (.ofNat nnn)))
  | "JP", [.reg x, .number nnn] => some (.instruction (.jumpOffset x (.ofNat nnn)))
  | "CALL", [.number nnn] => some (.instruction (.call (.ofNat nnn)))
  | "SE", [.reg x, .number nn] => some (.instruction (.skipIf x (.ofNat nn)))
  | "SE", [.reg x, .reg y] => some (.instruction (.skipIfSame x y))
  | "SNE", [.reg x, .number nn] => some (.instruction (.skipUnless x (.ofNat nn)))
  | "SNE", [.reg x, .reg y] => some (.instruction (.skipUnlessSame x y))
  | "LD", [.reg x, .number nn] => some (.instruction (.set x (.ofNat nn)))
  | "LD", [.reg x, .reg y] => some (.instruction (.copy x y))
  | "LD", [.name "I", .number nnn] => some (.instruction (.setIndex (.ofNat nnn)))
  | "LD", [.reg x, .name "DT"] => some (.instruction (.readDelay x))
  | "LD", [.reg x, .name "K"] => some (.instruction (.waitKey x))
  | "LD", [.reg x, .name "[I]"] => some (.instruction (.restore x))
  | "LD", [.name "DT", .reg x] => some (.instruction (.setDelay x))
  | "LD", [.name "ST", .reg x] => some (.instruction (.setSound x))
  | "LD", [.name "F", .reg x] => some (.instruction (.glyph x))
  | "LD", [.name "B", .reg x] => some (.instruction (.decimal x))
  | "LD", [.name "[I]", .reg x] => some (.instruction (.save x))
  | "ADD", [.reg x, .number nn] => some (.instruction (.increase x (.ofNat nn)))
  | "ADD", [.reg x, .reg y] => some (.instruction (.add x y))
  | "ADD", [.name "I", .reg x] => some (.instruction (.addIndex x))
  | "OR", [.reg x, .reg y] => some (.instruction (.or x y))
  | "AND", [.reg x, .reg y] => some (.instruction (.and x y))
  | "XOR", [.reg x, .reg y] => some (.instruction (.xor x y))
  | "SUB", [.reg x, .reg y] => some (.instruction (.sub x y))
  | "SUBN", [.reg x, .reg y] => some (.instruction (.subFrom x y))
  | "SHR", [.reg x, .reg y] => some (.instruction (.shiftRight x y))
  | "SHL", [.reg x, .reg y] => some (.instruction (.shiftLeft x y))
  | "RND", [.reg x, .number nn] => some (.instruction (.random x (.ofNat nn)))
  | "DRW", [.reg x, .reg y, .number n] => some (.instruction (.draw x y (.ofNat n)))
  | "SKP", [.reg x] => some (.instruction (.skipIfKey x))
  | "SKNP", [.reg x] => some (.instruction (.skipUnlessKey x))
  | "DW", [.number word] => some (.instruction (.unknown (.ofNat word)))
  | "DB", [.number b] => some (.byte (.ofNat b))
  | _, _ => none

/-! ## Texts

Reading takes a text apart into words, the first of which is the operation. How many blanks and
commas stand between two words makes no difference. -/

/-- Blanks and commas stand between words. -/
def separates (c : Char) : Bool :=
  c == ' ' || c == ','

def words (text : List Char) : List (List Char) :=
  (text.splitOnP separates).filter (!·.isEmpty)

/-- The statement of a text: the first word is the operation. -/
def read? (text : String) : Option Statement :=
  match words text.toList with
  | [] => none
  | operation :: operands => ofOperands? (String.ofList operation) (operands.map Operand.read)

/-! ## Words

Texts that were put together from words come apart into them again. -/

/-- A text that is not empty and has nothing in it that separates words. -/
def IsWord (text : List Char) : Prop :=
  text ≠ [] ∧ text.any separates = false

instance (text : List Char) : Decidable (IsWord text) :=
  inferInstanceAs (Decidable (_ ∧ _))

theorem isWord_iff (text : List Char) :
    IsWord text ↔ text ≠ [] ∧ ∀ c ∈ text, separates c = false := by
  rw [IsWord, List.any_eq_false]
  simp only [Bool.not_eq_true]

/-- A word is the only word of itself. -/
theorem words_of_isWord {text : List Char} (h : IsWord text) : words text = [text] := by
  obtain ⟨hne, hseparates⟩ := (isWord_iff text).1 h
  rw [words, List.splitOnP_eq_singleton hseparates, List.filter_cons_of_pos]
  · rfl
  · simpa using hne

/-- Words before a separator and words after it are the words of the whole. -/
theorem words_append {sep : Char} (hsep : separates sep = true) (front rest : List Char) :
    words (front ++ sep :: rest) = words front ++ words rest := by
  rw [words, List.splitOnP_append_cons _ _ hsep, List.filter_append]
  rfl

/-- A text whose first word is an operation, and whose other words are read as these operands. -/
structure Spells (text operation : String) (operands : List Operand) : Prop where
  words : ∃ rest, words text.toList = operation.toList :: rest ∧ rest.map Operand.read = operands

/-- Reading goes by the operation and its operands alone. -/
theorem read?_of_spells {text operation : String} {operands : List Operand}
    (h : Spells text operation operands) : read? text = ofOperands? operation operands := by
  obtain ⟨rest, hwords, rfl⟩ := h.words
  simp only [read?, hwords, String.ofList_toList]

/-- A word that is read as this operand. -/
structure Reads (text : String) (operand : Operand) : Prop where
  isWord : IsWord text.toList
  read : Operand.read text.toList = operand

theorem spells_operation (operation : String) (h : IsWord operation.toList) :
    Spells operation operation [] :=
  ⟨[], words_of_isWord h, rfl⟩

section

variable {text operation word : String} {operands : List Operand} {operand : Operand}

theorem Spells.blank (h : Spells text operation operands) (hword : Reads word operand) :
    Spells (text ++ " " ++ word) operation (operands ++ [operand]) := by
  obtain ⟨rest, hwords, rfl⟩ := h.words
  refine ⟨rest ++ [word.toList], ?_, ?_⟩
  · have htext : (text ++ " " ++ word).toList = text.toList ++ ' ' :: word.toList := by simp
    rw [htext, words_append (by decide), hwords, words_of_isWord hword.isWord]
    rfl
  · rw [List.map_append, List.map_singleton, hword.read]

theorem Spells.comma (h : Spells text operation operands) (hword : Reads word operand) :
    Spells (text ++ ", " ++ word) operation (operands ++ [operand]) := by
  obtain ⟨rest, hwords, rfl⟩ := h.words
  refine ⟨rest ++ [word.toList], ?_, ?_⟩
  · -- a comma and a blank are two separators, with no word between them
    have htext : (text ++ ", " ++ word).toList =
        text.toList ++ ',' :: ([] ++ ' ' :: word.toList) := by simp
    rw [htext, words_append (by decide), words_append (by decide), hwords,
      words_of_isWord hword.isWord]
    rfl
  · rw [List.map_append, List.map_singleton, hword.read]

end

/-! ## Operands in mnemonics

Every kind of operand that is printed is a single word, and is read as what it was printed from. -/

/-- No digit separates words. -/
theorem separates_of_isSome_digit? {radix : Nat} {c : Char}
    (h : (Numeral.digit? radix c).isSome) : separates c = false := by
  cases hsep : separates c with
  | false => rfl
  | true =>
    rw [separates, Bool.or_eq_true, beq_iff_eq, beq_iff_eq] at hsep
    rcases hsep with rfl | rfl
    · contradiction
    · contradiction

theorem reads_name (x : Reg) : Reads x.name (.reg x) := by
  -- there are sixteen of them
  have hall : ∀ x : Reg, IsWord x.name.toList ∧ Operand.read x.name.toList = .reg x := by decide
  exact ⟨(hall x).1, (hall x).2⟩

/-- The names of what is not a register. -/
def specials : List String :=
  ["I", "[I]", "DT", "ST", "K", "F", "B"]

/-- The names of what is not a register are read as names. -/
theorem reads_special {text : String} (h : text ∈ specials) : Reads text (.name text) := by
  have hall : ∀ text ∈ specials,
      IsWord text.toList ∧ Operand.read text.toList = .name text := by decide
  exact ⟨(hall text h).1, (hall text h).2⟩

theorem reads_marked {n : Nat} (hn : n ≤ 0xffff) (width : Nat) :
    Reads (Hex.marked width n) (.number n) := by
  have htext : (Hex.marked width n).toList = '0' :: 'x' :: Hex.digits width n := by
    simp [Hex.marked, Hex.bare]
  have hread : Numeral.someDigits 16 0xffff (Hex.digits width n) = .ok n :=
    Numeral.someDigits_of_digits (Hex.digits_ne_nil width n) (Numeral.digits_hex hn width)
  refine ⟨?_, ?_⟩
  · -- the mark and the digits are characters of words
    rw [htext, isWord_iff]
    refine ⟨List.cons_ne_nil _ _, ?_⟩
    intro c hc
    rcases List.mem_cons.1 hc with rfl | hc
    · rfl
    rcases List.mem_cons.1 hc with rfl | hc
    · rfl
    · exact separates_of_isSome_digit? (Hex.isSome_digit?_of_mem hc)
  · -- a zero with an `x` behind it starts a hexadecimal numeral
    rw [htext]
    apply Operand.read_of_number?
    rw [Operand.number?, hread]
    rfl

theorem reads_decimal {n : Nat} (hn : n ≤ 0xff) : Reads (toString n) (.number n) := by
  have htext : (toString n).toList = Nat.toDigits 10 n := by
    rw [Nat.toString_eq_repr, Nat.toList_repr]
  have hdigits : Numeral.digits 10 0xff 0 (Nat.toDigits 10 n) = .ok n :=
    Numeral.digits_toDigits (by decide) (by decide) hn
  have hall : ∀ c ∈ Nat.toDigits 10 n, (Numeral.digit? 10 c).isSome :=
    fun c hc => Numeral.isSome_digit? hdigits hc
  have hne : Nat.toDigits 10 n ≠ [] := Nat.toDigits_ne_nil
  have hread := Numeral.someDigits_of_digits hne hdigits
  refine ⟨?_, ?_⟩
  · rw [htext, isWord_iff]
    exact ⟨hne, fun c hc => separates_of_isSome_digit? (hall c hc)⟩
  · rw [htext]
    apply Operand.read_of_number?
    unfold Operand.number?
    split
    -- an `x` is no decimal digit, so the numeral has no mark
    · next cs heq =>
      have hmark := hall 'x' (by rw [heq]; exact List.mem_cons_of_mem _ List.mem_cons_self)
      contradiction
    · rw [hread]
      rfl

/-- Addresses have three digits at least. -/
theorem reads_address (addr : UInt16) : Reads (Hex.address addr) (.number addr.toNat) :=
  reads_marked (Nat.le_of_lt_succ addr.toNat_lt) 3

theorem reads_byte (b : UInt8) : Reads (Hex.byte b) (.number b.toNat) :=
  reads_marked (Nat.le_trans (Nat.le_of_lt b.toNat_lt) (by decide)) 2

theorem reads_word (w : UInt16) : Reads (Hex.word w) (.number w.toNat) :=
  reads_marked (Nat.le_of_lt_succ w.toNat_lt) 4

/-! ## Mnemonics

The shapes that mnemonics come in, each for any operation. -/

section

variable (operation : String) (h : IsWord operation.toList)

include h

theorem spells_reg (x : Reg) : Spells (operation ++ " " ++ x.name) operation [.reg x] :=
  (spells_operation operation h).blank (reads_name x)

theorem spells_target (target : UInt16) :
    Spells (operation ++ " " ++ Hex.address target) operation [.number target.toNat] :=
  (spells_operation operation h).blank (reads_address target)

theorem spells_withByte (x : Reg) (nn : UInt8) :
    Spells (Instruction.withByte operation x nn) operation [.reg x, .number nn.toNat] :=
  (spells_reg operation h x).comma (reads_byte nn)

theorem spells_withRegs (x y : Reg) :
    Spells (Instruction.withRegs operation x y) operation [.reg x, .reg y] :=
  (spells_reg operation h x).comma (reads_name y)

/-- The comma belongs to the text of the special operand. -/
theorem spells_reg_special (x : Reg) (special : String) (hspecial : special ∈ specials) :
    Spells (operation ++ " " ++ x.name ++ (", " ++ special)) operation [.reg x, .name special] := by
  rw [← String.append_assoc]
  exact (spells_reg operation h x).comma (reads_special hspecial)

theorem spells_special (special : String) (hspecial : special ∈ specials) :
    Spells (operation ++ " " ++ special) operation [.name special] :=
  (spells_operation operation h).blank (reads_special hspecial)

end

end Statement

namespace Instruction

/-- An instruction as its mnemonic shows it. Where jumps take their offset from `V0`, that is the
register that shows. -/
def shown (offset : JumpRegister) : Instruction → Instruction
  | jumpOffset x target => jumpOffset (offset.pick x) target
  | i => i

/-- The word does not depend on that register, whose digit is in the target too. -/
theorem encode_shown (offset : JumpRegister) (i : Instruction) :
    (i.shown offset).encode = i.encode := by
  cases i with
  | _ => rfl

end Instruction

namespace Statement

/-- **A mnemonic is read back as the instruction that it shows.** -/
theorem read?_mnemonic (offset : JumpRegister) (i : Instruction) :
    read? (i.mnemonic offset) = some (.instruction (i.shown offset)) := by
  cases i with
  | clearScreen => exact read?_of_spells (spells_operation "CLS" (by decide))
  | leave => exact read?_of_spells (spells_operation "RET" (by decide))
  | skipIf x nn | skipUnless x nn | set x nn | increase x nn | random x nn =>
    refine (read?_of_spells (spells_withByte _ (by decide) x nn)).trans ?_
    -- what has been read is the number of the byte
    have hnn : UInt8.ofNat nn.toNat = nn := UInt8.ofNat_toNat
    generalize nn.toNat = n at hnn ⊢
    subst hnn
    rfl
  | skipIfSame x y | copy x y | or x y | and x y | xor x y | add x y | sub x y | shiftRight x y
  | subFrom x y | shiftLeft x y | skipUnlessSame x y =>
    exact read?_of_spells (spells_withRegs _ (by decide) x y)
  -- the number of rows is the only operand that is printed in decimal
  | draw x y rows =>
    have hrows := reads_decimal (Nat.le_of_lt_succ rows.toNat_lt)
    refine (read?_of_spells ((spells_withRegs "DRW" (by decide) x y).comma hrows)).trans ?_
    show some (instruction (.draw x y (UInt8.ofNat rows.toNat))) = _
    rw [UInt8.ofNat_toNat]
    rfl
  | jump target =>
    refine (read?_of_spells (spells_target "JP" (by decide) target)).trans ?_
    show some (instruction (.jump (UInt16.ofNat target.toNat))) = _
    rw [UInt16.ofNat_toNat]
    rfl
  | call target =>
    refine (read?_of_spells (spells_target "CALL" (by decide) target)).trans ?_
    show some (instruction (.call (UInt16.ofNat target.toNat))) = _
    rw [UInt16.ofNat_toNat]
    rfl
  | setIndex target =>
    refine (read?_of_spells
      ((spells_special "LD" (by decide) "I" (by decide)).comma (reads_address target))).trans ?_
    show some (instruction (.setIndex (UInt16.ofNat target.toNat))) = _
    rw [UInt16.ofNat_toNat]
    rfl
  -- the register is the one that is shown
  | jumpOffset x target =>
    refine (read?_of_spells
      ((spells_reg "JP" (by decide) (offset.pick x)).comma (reads_address target))).trans ?_
    show some (instruction (.jumpOffset (offset.pick x) (UInt16.ofNat target.toNat))) = _
    rw [UInt16.ofNat_toNat]
    rfl
  | unknown word =>
    refine (read?_of_spells ((spells_operation "DW" (by decide)).blank (reads_word word))).trans ?_
    show some (instruction (.unknown (UInt16.ofNat word.toNat))) = _
    rw [UInt16.ofNat_toNat]
    rfl
  | skipIfKey x => exact read?_of_spells (spells_reg "SKP" (by decide) x)
  | skipUnlessKey x => exact read?_of_spells (spells_reg "SKNP" (by decide) x)
  | readDelay x => exact read?_of_spells (spells_reg_special "LD" (by decide) x "DT" (by decide))
  | waitKey x => exact read?_of_spells (spells_reg_special "LD" (by decide) x "K" (by decide))
  | restore x => exact read?_of_spells (spells_reg_special "LD" (by decide) x "[I]" (by decide))
  | setDelay x =>
    exact read?_of_spells ((spells_special "LD" (by decide) "DT" (by decide)).comma (reads_name x))
  | setSound x =>
    exact read?_of_spells ((spells_special "LD" (by decide) "ST" (by decide)).comma (reads_name x))
  | addIndex x =>
    exact read?_of_spells ((spells_special "ADD" (by decide) "I" (by decide)).comma (reads_name x))
  | glyph x =>
    exact read?_of_spells ((spells_special "LD" (by decide) "F" (by decide)).comma (reads_name x))
  | decimal x =>
    exact read?_of_spells ((spells_special "LD" (by decide) "B" (by decide)).comma (reads_name x))
  | save x =>
    exact read?_of_spells ((spells_special "LD" (by decide) "[I]" (by decide)).comma (reads_name x))

/-- A lone byte is read back as that byte. -/
theorem read?_loneByte (b : UInt8) : read? ("DB " ++ Hex.byte b) = some (.byte b) := by
  refine (read?_of_spells ((spells_operation "DB" (by decide)).blank (reads_byte b))).trans ?_
  show some (byte (UInt8.ofNat b.toNat)) = _
  rw [UInt8.ofNat_toNat]

end Statement

end Cosmac
