import Cosmac.Address
import Cosmac.Proofs.Text.Numeral
import Mathlib.Data.List.Induction

/-!
# Cosmac — typed addresses

Which texts are addresses, and of what. The grammar is written down apart from the reader, from the
digits up, and the reader is shown to accept what the grammar derives and nothing else.

The reader goes from the left and keeps the number so far; the grammar adds a digit on the right, as
that is how a number is written. They meet in one lemma about the last digit. The marks `0x` and
`0X` are not part of the grammar of numbers. The reader drops any number of them, first those of the
one kind and then those of the other, while an address has one at most.

* `Hex.Writes` — one or more hexadecimal digits and the number that they stand for;
  `Numeral.digits_eq_ok_iff` says that this is what is read.

* `Hex.WritesSigned` — the same after a `+`, which the reader of numerals allows for every number;
  `Numeral.nat_eq_ok_iff`.

* `Address.exists_dropPairs` and `Address.unmarked_marks` — the marks are in front, and all of them
  are dropped.

* `Address.parse_eq_ok_iff` — the addresses, with all the marks that are dropped.

* `Address.parse_eq_ok_iff_spelled` — the addresses with at most one mark.
-/

namespace Cosmac

namespace Hex

/-! ## The grammar

A digit is known by its place in one of two lists, so its value is that place. What is derived is
never empty, and has nothing in it but digits: this is how signs and marks are told from numbers. -/

def lowerDigits : List Char :=
  ['0', '1', '2', '3', '4', '5', '6', '7', '8', '9', 'a', 'b', 'c', 'd', 'e', 'f']

def upperDigits : List Char :=
  ['0', '1', '2', '3', '4', '5', '6', '7', '8', '9', 'A', 'B', 'C', 'D', 'E', 'F']

/-- Whether a character is a hexadecimal digit, in either case, and `d` its value. -/
def IsDigit (c : Char) (d : Nat) : Prop :=
  lowerDigits[d]? = some c ∨ upperDigits[d]? = some c

instance (c : Char) (d : Nat) : Decidable (IsDigit c d) :=
  inferInstanceAs (Decidable (_ ∨ _))

/-- Whether a text is one or more hexadecimal digits that stand for `n`. Zeros in front count for
nothing. -/
inductive Writes : List Char → Nat → Prop
  | digit {c : Char} {d : Nat} (h : IsDigit c d) : Writes [c] d
  | more {cs : List Char} {c : Char} {n d : Nat} (front : Writes cs n) (last : IsDigit c d) :
    Writes (cs ++ [c]) (16 * n + d)

/-- Digits with or without a sign before them. -/
inductive WritesSigned : List Char → Nat → Prop
  | plain {cs : List Char} {n : Nat} (h : Writes cs n) : WritesSigned cs n
  | plus {cs : List Char} {n : Nat} (h : Writes cs n) : WritesSigned ('+' :: cs) n

theorem IsDigit.mem {c : Char} {d : Nat} (h : IsDigit c d) : c ∈ lowerDigits ++ upperDigits := by
  rcases h with h | h
  · exact List.mem_append_left _ (List.mem_of_getElem? h)
  · exact List.mem_append_right _ (List.mem_of_getElem? h)

theorem Writes.ne_nil {cs : List Char} {n : Nat} (h : Writes cs n) : cs ≠ [] := by
  cases h with
  | digit h => exact List.cons_ne_nil _ _
  | more front last => exact List.append_ne_nil_of_right_ne_nil _ (List.cons_ne_nil _ _)

theorem Writes.mem {cs : List Char} {n : Nat} (h : Writes cs n) {c : Char} (hc : c ∈ cs) :
    c ∈ lowerDigits ++ upperDigits := by
  induction h with
  | digit h =>
    rw [List.mem_singleton.mp hc]
    exact h.mem
  | more front last ih =>
    -- the character is in front, or it is the last one
    rcases List.mem_append.mp hc with hc | hc
    · exact ih hc
    · rw [List.mem_singleton.mp hc]
      exact last.mem

/-- A sign is no digit, so it can only be derived as a sign. -/
theorem writesSigned_plus_iff {cs : List Char} {n : Nat} :
    WritesSigned ('+' :: cs) n ↔ Writes cs n := by
  constructor
  · intro h
    cases h with
    | plain h => exact absurd (h.mem List.mem_cons_self) (by decide)
    | plus h => exact h
  · exact .plus

theorem writesSigned_iff_of_no_plus {cs : List Char} (h : ∀ rest, cs ≠ '+' :: rest) {n : Nat} :
    WritesSigned cs n ↔ Writes cs n := by
  constructor
  · intro hsigned
    cases hsigned with
    | plain hwrites => exact hwrites
    | plus hwrites => exact absurd rfl (h _)
  · exact .plain

end Hex

namespace Numeral

open Hex

/-! ## Digits

The reader looks a character up by comparing it with the ends of three ranges. All of them are
ASCII, so that both directions are a matter of finitely many characters. -/

/-- What is read as a digit is an ASCII character. -/
theorem toNat_lt_of_digit? {c : Char} {d : Nat} (h : digit? 16 c = some d) : c.toNat < 128 := by
  obtain ⟨hvalue, -⟩ := Option.filter_eq_some_iff.mp h
  -- each of the three ranges ends among the ASCII characters
  split at hvalue
  · next hrange =>
    have hle : c.toNat ≤ 57 := hrange.2
    omega
  · split at hvalue
    · next hrange =>
      have hle : c.toNat ≤ 122 := hrange.2
      omega
    · split at hvalue
      · next hrange =>
        have hle : c.toNat ≤ 90 := hrange.2
        omega
      · contradiction

/-- **The digits of the reader are those of the grammar.** -/
theorem digit?_eq_some_iff (c : Char) (d : Nat) : digit? 16 c = some d ↔ IsDigit c d := by
  constructor
  · intro h
    -- all characters that can be digits, one after the other
    have hascii : ∀ n < 128, ∀ d ∈ digit? 16 (Char.ofNat n), IsDigit (Char.ofNat n) d := by decide
    have hdigit := hascii c.toNat (toNat_lt_of_digit? h) d
    rw [Char.ofNat_toNat] at hdigit
    exact hdigit h
  · have hlower : ∀ d : Fin 16, digit? 16 lowerDigits[d] = some d.val := by decide
    have hupper : ∀ d : Fin 16, digit? 16 upperDigits[d] = some d.val := by decide
    rintro (h | h)
    · obtain ⟨hlt, rfl⟩ := List.getElem?_eq_some_iff.mp h
      exact hlower ⟨d, hlt⟩
    · obtain ⟨hlt, rfl⟩ := List.getElem?_eq_some_iff.mp h
      exact hupper ⟨d, hlt⟩

/-! ## Numerals

Digits are read from the left and the grammar adds them on the right, so the induction is on what
stands before the last digit. -/

/-- One more digit on the right is sixteen times the number before, and the digit. -/
theorem digits_concat_eq_ok_iff (limit acc : Nat) (cs : List Char) (c : Char) (n : Nat) :
    digits 16 limit acc (cs ++ [c]) = .ok n ↔
      ∃ front d, digits 16 limit acc cs = .ok front ∧ IsDigit c d ∧ 16 * front + d = n ∧
        n ≤ limit := by
  induction cs generalizing acc with
  | nil =>
    simp only [List.nil_append, ← digit?_eq_some_iff]
    constructor
    · intro h
      simp only [digits] at h
      split at h
      · contradiction
      · next d hvalue =>
        split at h
        · next hle =>
          obtain rfl := Except.ok.inj h
          exact ⟨acc, d, rfl, hvalue, by rw [Nat.mul_comm], hle⟩
        · contradiction
    · rintro ⟨front, d, hfront, hvalue, rfl, hle⟩
      obtain rfl : acc = front := Except.ok.inj hfront
      rw [Nat.mul_comm] at hle
      simp only [digits, hvalue, if_pos hle, Nat.mul_comm]
  | cons b cs ih =>
    cases hvalue : digit? 16 b with
    | none => simp [digits, hvalue]
    | some d =>
      -- where the front is refused, the whole is refused for it
      by_cases hle : acc * 16 + d ≤ limit
      · simp only [List.cons_append, digits, hvalue, if_pos hle]
        exact ih (acc * 16 + d)
      · simp [digits, hvalue, hle]

/-- What is read as a number is digits that stand for it, unless it is nothing at all. -/
theorem digits_eq_ok_iff (limit : Nat) (cs : List Char) (n : Nat) :
    digits 16 limit 0 cs = .ok n ↔ (cs = [] ∧ n = 0) ∨ (Writes cs n ∧ n ≤ limit) := by
  constructor
  · intro h
    induction cs using List.reverseRecOn generalizing n with
    | nil => exact .inl ⟨rfl, (Except.ok.inj h).symm⟩
    | append_singleton cs c ih =>
      obtain ⟨front, d, hfront, hdigit, rfl, hle⟩ := (digits_concat_eq_ok_iff _ _ _ _ _).mp h
      right
      refine ⟨?_, hle⟩
      -- what stands before the last digit is nothing or a number of its own
      rcases ih front hfront with ⟨rfl, rfl⟩ | ⟨hwrites, -⟩
      · rw [Nat.mul_zero, Nat.zero_add]
        exact .digit hdigit
      · exact .more hwrites hdigit
  · rintro (⟨rfl, rfl⟩ | ⟨hwrites, hle⟩)
    · rfl
    · induction hwrites with
      | digit h =>
        refine (digits_concat_eq_ok_iff limit 0 [] _ _).mpr ⟨0, _, rfl, h, ?_, hle⟩
        omega
      | more front last ih =>
        exact (digits_concat_eq_ok_iff _ _ _ _ _).mpr ⟨_, _, ih (by omega), last, rfl, hle⟩

/-- A number may have a sign, and must have a digit. -/
theorem nat_eq_ok_iff (limit : Nat) (cs : List Char) (n : Nat) :
    nat 16 limit cs = .ok n ↔ WritesSigned cs n ∧ n ≤ limit := by
  unfold nat
  split
  case h_1 =>
    constructor
    · intro h
      contradiction
    · rintro ⟨h, -⟩
      cases h with
      | plain h => exact absurd rfl h.ne_nil
  case h_2 rest =>
    rw [writesSigned_plus_iff]
    cases rest with
    | nil =>
      -- a sign alone is refused before any digit is looked for
      constructor
      · intro h
        contradiction
      · rintro ⟨h, -⟩
        exact absurd rfl h.ne_nil
    | cons c rest =>
      show digits 16 limit 0 (c :: rest) = .ok n ↔ _
      rw [digits_eq_ok_iff]
      simp
  case h_3 hnil hplus =>
    have hne : cs ≠ [] := hnil
    rw [writesSigned_iff_of_no_plus hplus, digits_eq_ok_iff]
    simp [hne]

end Numeral

namespace Address

open Hex

/-! ## Marks

Marks are dropped for as long as there are more of them, so all of them go: what comes after them
is read as a number, and a number does not begin with a mark. -/

/-- The mark with the letter `x`, so many times. -/
def marks (x : Char) (m : Nat) : List Char :=
  (List.replicate m ['0', x]).flatten

theorem marks_succ (x : Char) (m : Nat) : marks x (m + 1) = '0' :: x :: marks x m := rfl

/-- What is dropped are marks. -/
theorem exists_dropPairs (x : Char) (cs : List Char) :
    ∃ m, cs = marks x m ++ dropPairs '0' x cs := by
  fun_induction dropPairs '0' x cs with
  | case1 c d rest h ih =>
    obtain ⟨m, hm⟩ := ih
    obtain ⟨rfl, rfl⟩ := h
    refine ⟨m + 1, ?_⟩
    rw [marks_succ, List.cons_append, List.cons_append, ← hm]
  | case2 c d rest h => exact ⟨0, rfl⟩
  | case3 cs h => exact ⟨0, rfl⟩

theorem dropPairs_of_not_prefix {x : Char} {cs : List Char} (h : ¬ ['0', x] <+: cs) :
    dropPairs '0' x cs = cs := by
  unfold dropPairs
  split
  · next c d rest =>
    rw [if_neg]
    rintro ⟨rfl, rfl⟩
    exact h ⟨rest, rfl⟩
  · rfl

theorem dropPairs_marks {x : Char} {cs : List Char} (h : ¬ ['0', x] <+: cs) (m : Nat) :
    dropPairs '0' x (marks x m ++ cs) = cs := by
  induction m with
  | zero => exact dropPairs_of_not_prefix h
  | succ m ih =>
    rw [marks_succ, List.cons_append, List.cons_append, dropPairs, if_pos ⟨rfl, rfl⟩]
    exact ih

/-- A number does not begin with a mark: the letter of a mark is no digit. -/
theorem not_prefix_of_writesSigned {x : Char} (hx : x ∉ lowerDigits ++ upperDigits)
    {cs : List Char} {n : Nat} (h : WritesSigned cs n) : ¬ ['0', x] <+: cs := by
  rintro ⟨rest, rfl⟩
  cases h with
  | plain h => exact hx (h.mem (List.mem_cons_of_mem _ List.mem_cons_self))

theorem unmarked_marks {cs : List Char} {n : Nat} (h : WritesSigned cs n) (m k : Nat) :
    unmarked (marks 'x' m ++ (marks 'X' k ++ cs)) = cs := by
  have hupper : ¬ ['0', 'X'] <+: cs := not_prefix_of_writesSigned (by decide) h
  -- the marks of the other kind stop the first round
  have hlower : ¬ ['0', 'x'] <+: marks 'X' k ++ cs := by
    cases k with
    | zero => exact not_prefix_of_writesSigned (by decide) h
    | succ k =>
      rw [marks_succ]
      simp
  rw [unmarked, dropPairs_marks hlower, dropPairs_marks hupper]

/-! ## Addresses

A number that was read still has to lie in the address space. The bound of the reader is that of a
word, so numbers between the two bounds are read and then refused. -/

theorem parse_eq_ok_iff_number (text : String) (a : UInt16) :
    parse text = .ok a ↔
      Numeral.nat 16 0xffff (unmarked text.toList) = .ok a.toNat ∧ a.toNat ≤ last := by
  unfold parse
  cases Numeral.nat 16 0xffff (unmarked text.toList) with
  | error cause => simp
  | ok n =>
    have hlast : last < 2 ^ 16 := by decide
    constructor
    · intro h
      obtain ⟨hle, ha⟩ : n ≤ last ∧ UInt16.ofNat n = a := by
        by_cases hle : n ≤ last
        · exact ⟨hle, Except.ok.inj (by simpa only [if_pos hle] using h)⟩
        · simp only [if_neg hle] at h
          contradiction
      -- an address is stored in a word, which it fits
      have hn : a.toNat = n := by
        rw [← ha]
        exact UInt16.toNat_ofNat_of_lt (show n < 2 ^ 16 by omega)
      rw [hn]
      exact ⟨rfl, hle⟩
    · rintro ⟨hn, hle⟩
      obtain rfl := Except.ok.inj hn
      simp only [if_pos hle, UInt16.ofNat_toNat]

/-- An address is a number in the address space, after any marks `0x` and then any marks `0X`. -/
theorem parse_eq_ok_iff (text : String) (a : UInt16) :
    parse text = .ok a ↔
      ∃ m k number, text.toList = marks 'x' m ++ (marks 'X' k ++ number) ∧
        WritesSigned number a.toNat ∧ a.toNat ≤ last := by
  rw [parse_eq_ok_iff_number, Numeral.nat_eq_ok_iff]
  constructor
  · rintro ⟨⟨hnumber, -⟩, hle⟩
    -- what was dropped in the first round, and in the second from what that left
    obtain ⟨m, hm⟩ := exists_dropPairs 'x' text.toList
    obtain ⟨k, hk⟩ := exists_dropPairs 'X' (dropPairs '0' 'x' text.toList)
    refine ⟨m, k, unmarked text.toList, ?_, hnumber, hle⟩
    rw [hk] at hm
    exact hm
  · rintro ⟨m, k, number, htext, hnumber, hle⟩
    rw [htext, unmarked_marks hnumber]
    refine ⟨⟨hnumber, ?_⟩, hle⟩
    have hlast : last ≤ 0xffff := by decide
    omega

/-- All marks of the one kind go before any of the other. -/
example :
    parse "0x0X200" = .ok 0x200 ∧
      parse "0X0x200" = .error (.unreadable "0X0x200" .invalidDigit) := by
  decide

/-- Whether a text begins with two marks, one after the other. -/
def MarkedTwice (text : String) : Prop :=
  ∃ x y, (x = 'x' ∨ x = 'X') ∧ (y = 'x' ∨ y = 'X') ∧ ['0', x, '0', y] <+: text.toList

/-- Whether a text is a mark or none, and a number in the address space. What counts as a number is
left open. -/
def Spelled (number : List Char → Nat → Prop) (text : String) (a : UInt16) : Prop :=
  ∃ mark cs, (mark = [] ∨ mark = ['0', 'x'] ∨ mark = ['0', 'X']) ∧ text.toList = mark ++ cs ∧
    number cs a.toNat ∧ a.toNat ≤ 0xfff

theorem spelled_of_marks {text : String} (h : ¬ MarkedTwice text) {a : UInt16} {m k : Nat}
    {cs : List Char} (htext : text.toList = marks 'x' m ++ (marks 'X' k ++ cs))
    (hnumber : WritesSigned cs a.toNat) (hle : a.toNat ≤ last) :
    Spelled WritesSigned text a := by
  -- no mark, one of either kind, or two in a row, whichever they are
  match m, k with
  | 0, 0 => exact ⟨[], cs, .inl rfl, htext, hnumber, hle⟩
  | 1, 0 => exact ⟨['0', 'x'], cs, .inr (.inl rfl), htext, hnumber, hle⟩
  | 0, 1 => exact ⟨['0', 'X'], cs, .inr (.inr rfl), htext, hnumber, hle⟩
  | m + 2, k =>
    exact absurd ⟨'x', 'x', .inl rfl, .inl rfl, marks 'x' m ++ (marks 'X' k ++ cs), htext.symm⟩ h
  | 1, k + 1 => exact absurd ⟨'x', 'X', .inl rfl, .inr rfl, marks 'X' k ++ cs, htext.symm⟩ h
  | 0, k + 2 => exact absurd ⟨'X', 'X', .inr rfl, .inr rfl, marks 'X' k ++ cs, htext.symm⟩ h

theorem marks_of_spelled {text : String} {a : UInt16} (h : Spelled WritesSigned text a) :
    ∃ m k cs, text.toList = marks 'x' m ++ (marks 'X' k ++ cs) ∧ WritesSigned cs a.toNat ∧
      a.toNat ≤ last := by
  obtain ⟨mark, cs, hmark, htext, hnumber, hle⟩ := h
  rcases hmark with rfl | rfl | rfl
  · exact ⟨0, 0, cs, htext, hnumber, hle⟩
  · exact ⟨1, 0, cs, htext, hnumber, hle⟩
  · exact ⟨0, 1, cs, htext, hnumber, hle⟩

/-- **Which texts are addresses.** Where there are not two marks in a row, an address is a mark or
none, a `+` or none, and one or more hexadecimal digits whose value lies in the address space. Every
other text is refused. -/
theorem parse_eq_ok_iff_spelled (text : String) (h : ¬ MarkedTwice text) :
    (∀ a, parse text = .ok a ↔ Spelled WritesSigned text a) ∧
      ((∃ e, parse text = .error e) ↔ ∀ a, ¬ Spelled WritesSigned text a) := by
  have hspelled (a : UInt16) : parse text = .ok a ↔ Spelled WritesSigned text a := by
    rw [parse_eq_ok_iff]
    constructor
    · rintro ⟨m, k, cs, htext, hnumber, hle⟩
      exact spelled_of_marks h htext hnumber hle
    · exact marks_of_spelled
  -- a text is read or refused, and what is read is spelled
  refine ⟨hspelled, ?_⟩
  constructor
  · rintro ⟨e, he⟩ a ha
    rw [(hspelled a).mpr ha] at he
    contradiction
  · intro hno
    cases hparse : parse text with
    | error e => exact ⟨e, rfl⟩
    | ok a => exact absurd ((hspelled a).mp hparse) (hno a)

/-- A mark, a sign, a zero in front and digits of both cases. -/
theorem spelled_in_full :
    ¬ MarkedTwice "0x+0aBc" ∧
      (parse "0x+0aBc" = .ok 0xabc ↔ Spelled WritesSigned "0x+0aBc" 0xabc) ∧
      parse "0x+0aBc" = .ok 0xabc := by
  have honce : ¬ MarkedTwice "0x+0aBc" := by
    rintro ⟨x, y, -, -, rest, htext⟩
    -- two marks have a zero in the third place
    have hthird : ('0' : Char) = '+' := congrArg (fun cs : List Char => cs.getD 2 ' ') htext
    revert hthird
    decide
  exact ⟨honce, (parse_eq_ok_iff_spelled "0x+0aBc" honce).1 0xabc, by decide⟩

/-- A sign is taken for part of the number, though it is no digit. -/
theorem not_spelled_with_sign :
    ¬ (parse "+200" = .ok 0x200 ↔ Spelled Writes "+200" 0x200) := by
  intro h
  have hread : parse "+200" = .ok 0x200 := by decide
  obtain ⟨mark, cs, hmark, htext, hnumber, -⟩ := h.mp hread
  have hchars : "+200".toList = ['+', '2', '0', '0'] := by decide
  rw [hchars] at htext
  rcases hmark with rfl | rfl | rfl
  · -- without a mark the sign would be a digit
    have hcs : ['+', '2', '0', '0'] = cs := htext
    have hplus : '+' ∈ cs := by
      rw [← hcs]
      exact List.mem_cons_self
    have hdigit := hnumber.mem hplus
    revert hdigit
    decide
  · simp at htext
  · simp at htext

end Address

end Cosmac
