import Cosmac.Instruction.Listing
import Cosmac.Proofs.Instruction.Assembly

/-!
# Cosmac — listings read back

The mnemonics of a listing are a program for the assembler, and what it makes of them is the image
that was listed.

Two things are needed for this. Each mnemonic is read back as its instruction, and the word of that
instruction is the word in the image, as decoding forgets nothing. And the mnemonic can be found in
a printed line, which holds because the columns before it have a fixed width: an address may be
long, but it has no colon in it.

* `Listing.assemble?` is the image that a column of mnemonics stands for; `assemble?_ofBytes` — it
  takes listing back.
* `Listing.getElem?_lines` — which line shows which bytes.
* `Listing.lines_lose_nothing` — both, for lines as they are printed.
-/

namespace Cosmac

/-- What is laid down for the instruction of two bytes is these bytes. -/
theorem Statement.bytes_shown_decode (offset : JumpRegister) (hi lo : UInt8) :
    (instruction ((Instruction.decode (wordOfBytes hi lo)).shown offset)).bytes = [hi, lo] := by
  have hlo := lo.toNat_lt
  have hhi := hi.toNat_lt
  have hdiv : (256 * hi.toNat + lo.toNat) / 0x100 = hi.toNat := by omega
  have hmod : (256 * hi.toNat + lo.toNat) % 0x100 = lo.toNat := by omega
  rw [bytes, Instruction.encode_shown, Instruction.encode_decode, toNat_wordOfBytes, hdiv, hmod,
    UInt8.ofNat_toNat, UInt8.ofNat_toNat]

namespace Listing

/-! ## Reading a listing

A listing is read from the top. It has one line for two bytes, so the recursion takes two bytes at a
time as well. -/

/-- The printed lines of the listing of an image. -/
def lines (offset : JumpRegister) (base : Nat) (image : List UInt8) : List String :=
  (ofBytes offset base image).map Row.text

/-- What stands behind the address and the digits of a line. -/
def mnemonicOf (line : String) : String :=
  -- a colon, a blank, four places for digits and two blanks
  String.ofList ((line.toList.dropWhile (· ≠ ':')).drop 8)

/-- The image of some texts, if each of them is a statement. -/
def assemble? : List String → Option (List UInt8)
  | [] => some []
  | text :: rest =>
    match Statement.read? text, assemble? rest with
    | some statement, some image => some (statement.bytes ++ image)
    | _, _ => none

theorem assemble?_cons {text : String} {rest : List String} {statement : Statement}
    {image : List UInt8} (hread : Statement.read? text = some statement)
    (hrest : assemble? rest = some image) :
    assemble? (text :: rest) = some (statement.bytes ++ image) := by
  rw [assemble?, hread, hrest]

/-- **What is assembled from the mnemonics of an image is the image.** -/
theorem assemble?_ofBytes (offset : JumpRegister) (base : Nat) (image : List UInt8) :
    assemble? ((ofBytes offset base image).map Row.mnemonic) = some image := by
  induction base, image using ofBytes.induct with
  | case1 base hi lo rest ih =>
    rw [ofBytes, List.map_cons]
    refine (assemble?_cons (Statement.read?_mnemonic offset _) ih).trans ?_
    rw [Statement.bytes_shown_decode]
    rfl
  | case2 base b => exact assemble?_cons (Statement.read?_loneByte b) rfl
  | case3 base => rfl

/-! ## Lines

Where the columns of a line begin, and what is in them. -/

/-- An address has no colon in it. -/
theorem ne_colon_of_mem {width n : Nat} {c : Char} (hc : c ∈ Hex.digits width n) : c ≠ ':' := by
  rintro rfl
  have hdigit := Hex.isSome_digit?_of_mem hc
  contradiction

/-- The mnemonic is found in the line that was printed. -/
theorem mnemonicOf_text {r : Row} (hraw : r.raw.toList.length ≤ 4) :
    mnemonicOf r.text = r.mnemonic := by
  have htext : r.text.toList = Hex.digits 3 r.address ++
      ':' :: ' ' :: (r.raw.toList.rightpad 4 ' ' ++ ' ' :: ' ' :: r.mnemonic.toList) := by
    simp [Row.text, Hex.bare]
  have hplaces : (r.raw.toList.rightpad 4 ' ').length = 4 := by
    rw [List.rightpad, List.length_append, List.length_replicate]
    omega
  rw [mnemonicOf, htext, List.dropWhile_append_of_pos]
  · -- the colon and the blank after it are gone
    show String.ofList ((r.raw.toList.rightpad 4 ' ' ++ ' ' :: ' ' :: r.mnemonic.toList).drop 6) = _
    rw [List.drop_append, hplaces, List.drop_eq_nil_of_le (by omega)]
    exact String.ofList_toList
  · intro c hc
    exact decide_eq_true (ne_colon_of_mem hc)

/-- The line for the bytes at `address`: two of them, or a lone last one. -/
def line? (offset : JumpRegister) (address : Nat) : List UInt8 → Option String
  | hi :: lo :: _ => some (Hex.bare 3 address ++ ": " ++ Hex.bare 2 hi.toNat ++ Hex.bare 2 lo.toNat
      ++ "  " ++ (Instruction.decode (wordOfBytes hi lo)).mnemonic offset)
  | [b] => some (Hex.bare 3 address ++ ": " ++ Hex.bare 2 b.toNat ++ "    DB " ++ Hex.byte b)
  | [] => none

/-- The digits of a word are those of its two bytes. -/
theorem bare_wordOfBytes (hi lo : UInt8) :
    Hex.bare 4 (wordOfBytes hi lo).toNat = Hex.bare 2 hi.toNat ++ Hex.bare 2 lo.toNat := by
  rw [toNat_wordOfBytes, Hex.bare, Hex.digits_word _ lo.toNat_lt, String.ofList_append]
  rfl

theorem length_bare_byte (b : UInt8) : (Hex.bare 2 b.toNat).toList.length = 2 := by
  have hb := b.toNat_lt
  rw [Hex.bare, String.toList_ofList, Hex.digits_succ (show 0 < 1 by decide),
    Hex.digits_of_lt (by omega)]
  rfl

theorem length_bare_wordOfBytes (hi lo : UInt8) :
    (Hex.bare 4 (wordOfBytes hi lo).toNat).toList.length = 4 := by
  rw [bare_wordOfBytes, String.toList_append, List.length_append, length_bare_byte,
    length_bare_byte]

theorem text_ofWord (offset : JumpRegister) (address : Nat) (hi lo : UInt8) (rest : List UInt8) :
    line? offset address (hi :: lo :: rest) =
      some (Row.ofWord offset address (wordOfBytes hi lo)).text := by
  have hlength := length_bare_wordOfBytes hi lo
  rw [line?, Row.text, Row.ofWord, List.rightpad, hlength, Nat.sub_self, List.replicate_zero,
    List.append_nil, String.ofList_toList, bare_wordOfBytes]
  simp only [String.append_assoc]

/-- A lone byte leaves two places for digits blank. -/
theorem text_ofByte (offset : JumpRegister) (address : Nat) (b : UInt8) :
    line? offset address [b] = some (Row.ofByte address b).text := by
  have hlength := length_bare_byte b
  rw [line?, Row.text, Row.ofByte, List.rightpad, hlength, String.ofList_append,
    String.ofList_toList]
  simp only [String.append_assoc]
  rfl

/-- **Line `k` shows the bytes `2k` and `2k + 1`**, or the lone last byte. -/
theorem getElem?_lines (offset : JumpRegister) (base : Nat) (image : List UInt8) (k : Nat) :
    (lines offset base image)[k]? = line? offset (base + 2 * k) (image.drop (2 * k)) := by
  induction base, image using ofBytes.induct generalizing k with
  | case1 base hi lo rest ih =>
    rw [lines, ofBytes, List.map_cons]
    cases k with
    | zero =>
      rw [List.getElem?_cons_zero]
      exact (text_ofWord offset base hi lo rest).symm
    | succ k =>
      -- the line before has taken two bytes
      have haddress : base + 2 * (k + 1) = base + 2 + 2 * k := by omega
      rw [List.getElem?_cons_succ, haddress]
      exact ih k
  | case2 base b =>
    cases k with
    | zero => exact (text_ofByte offset base b).symm
    -- nothing is left after the lone byte
    | succ k => rfl
  | case3 base =>
    rw [List.drop_nil]
    rfl

/-- There is a line for every two bytes, and one for a byte that is left over. -/
theorem length_lines (offset : JumpRegister) (base : Nat) (image : List UInt8) :
    (lines offset base image).length = (image.length + 1) / 2 := by
  rw [lines, List.length_map]
  induction base, image using ofBytes.induct with
  | case1 base hi lo rest ih =>
    rw [ofBytes, List.length_cons, ih, List.length_cons, List.length_cons]
    omega
  | case2 base b => rw [ofBytes, List.length_singleton, List.length_singleton]
  | case3 base => rfl

/-- No line has more than four digits of bytes. -/
theorem length_raw_le {offset : JumpRegister} {base : Nat} {image : List UInt8} {r : Row}
    (hr : r ∈ ofBytes offset base image) : r.raw.toList.length ≤ 4 := by
  induction base, image using ofBytes.induct with
  | case1 base hi lo rest ih =>
    rw [ofBytes] at hr
    rcases List.mem_cons.1 hr with rfl | hr
    · exact Nat.le_of_eq (length_bare_wordOfBytes hi lo)
    · exact ih hr
  | case2 base b =>
    rw [ofBytes] at hr
    obtain rfl := List.mem_singleton.1 hr
    exact Nat.le_trans (Nat.le_of_eq (length_bare_byte b)) (by decide)
  | case3 base => contradiction

theorem map_mnemonicOf_lines (offset : JumpRegister) (base : Nat) (image : List UInt8) :
    (lines offset base image).map mnemonicOf = (ofBytes offset base image).map Row.mnemonic := by
  rw [lines, List.map_map]
  apply List.map_congr_left
  intro r hr
  exact mnemonicOf_text (length_raw_le hr)

/-- **A listing loses nothing.** The mnemonics alone, assembled, are the image that was listed, so
two images with the same mnemonics are the same; and each line says where its bytes lie and which
they are. -/
theorem lines_lose_nothing (offset : JumpRegister) (base : Nat) :
    (∀ image, assemble? ((lines offset base image).map mnemonicOf) = some image) ∧
    (∀ p q, (lines offset base p).map mnemonicOf = (lines offset base q).map mnemonicOf ↔
      p = q) ∧
    ∀ image, (lines offset base image).length = (image.length + 1) / 2 ∧
      ∀ k, (lines offset base image)[k]? = line? offset (base + 2 * k) (image.drop (2 * k)) := by
  have hassemble (image : List UInt8) :
      assemble? ((lines offset base image).map mnemonicOf) = some image := by
    rw [map_mnemonicOf_lines, assemble?_ofBytes]
  refine ⟨hassemble, ?_, ?_⟩
  · intro p q
    constructor
    · intro hcolumns
      have himages := hassemble p
      -- equal columns are assembled to one image
      rw [hcolumns, hassemble q] at himages
      exact (Option.some.inj himages).symm
    · rintro rfl
      rfl
  · intro image
    exact ⟨length_lines offset base image, getElem?_lines offset base image⟩

end Listing

end Cosmac
