import Cosmac.Text.Numeral

/-!
# Cosmac — numerals read back

What is written in digits is read as the number that it was written from, with any filling, as long
as the limit of the reading allows for it.

Reading goes from the left, with the number so far, so that a numeral can be cut anywhere: what was
read of the front is where the rest goes on from. Writing is taken apart at its last digit. From
both come the induction on the number and the filled numerals, of which the digits of a word are the
one case that listings need.

* `Numeral.digits_append` — a numeral can be read in two parts.

* `Numeral.digits_toDigits` and `Numeral.digits_hex` — reading takes writing back.

* `Numeral.isSome_digit?` — all that is read is digits, so a numeral has no blanks or marks in it.

* `Hex.digits_succ` — the last digit of a filled numeral, and the ones before it; `Hex.digits_word`
  — the digits of a word are those of its bytes.
-/

namespace Cosmac

namespace Numeral

/-! ## Reading

The radix is any up to sixteen, as numerals are written in ten and in sixteen. The limit only has to
allow for the number itself: the numbers on the way to it are smaller. -/

theorem digit?_digitChar {radix d : Nat} (hradix : radix ≤ 16) (hd : d < radix) :
    digit? radix (Nat.digitChar d) = some d := by
  have hall : ∀ d : Fin 16, digit? 16 (Nat.digitChar d.val) = some d.val := by decide
  have hvalue := hall ⟨d, by omega⟩
  simp only [digit?, Option.filter_eq_some_iff] at hvalue ⊢
  exact ⟨hvalue.1, by simpa using hd⟩

/-- What is read of a front is where the rest goes on from. -/
theorem digits_append {radix limit acc value : Nat} {front : List Char}
    (h : digits radix limit acc front = .ok value) (rest : List Char) :
    digits radix limit acc (front ++ rest) = digits radix limit value rest := by
  induction front generalizing acc with
  | nil =>
    obtain rfl := Except.ok.inj h
    rfl
  | cons c front ih =>
    simp only [digits, List.cons_append] at h ⊢
    -- a front that was read has digits only, none of which went past the limit
    split at h
    · contradiction
    · split at h
      · next hle =>
        rw [if_pos hle]
        exact ih h
      · contradiction

theorem digits_single {radix limit acc d n : Nat} (hradix : radix ≤ 16) (hd : d < radix)
    (hn : acc * radix + d = n) (hle : n ≤ limit) :
    digits radix limit acc [Nat.digitChar d] = .ok n := by
  subst hn
  simp only [digits, digit?_digitChar hradix hd, if_pos hle]

/-- **What is written in digits is read back**, by induction on what stands before the last digit.
-/
theorem digits_toDigits {radix limit n : Nat} (hone : 1 < radix) (hradix : radix ≤ 16)
    (hn : n ≤ limit) : digits radix limit 0 (Nat.toDigits radix n) = .ok n := by
  induction n using Nat.strongRecOn with
  | ind n ih =>
    rw [Nat.toDigits_eq_if hone]
    split
    · next hlt => exact digits_single hradix hlt (by rw [Nat.zero_mul, Nat.zero_add]) hn
    · -- the number without its last digit is smaller, so it fits as well
      have hdiv : n / radix < n := Nat.div_lt_self (by omega) hone
      have hmod : n % radix < radix := Nat.mod_lt n (by omega)
      rw [digits_append (ih _ hdiv (by omega))]
      exact digits_single hradix hmod (Nat.div_add_mod' n radix) hn

/-- Zeros in front do not count. -/
theorem digits_replicate {radix limit : Nat} (hradix : radix ≤ 16) (hpos : 0 < radix) (k : Nat) :
    digits radix limit 0 (List.replicate k '0') = .ok 0 := by
  induction k with
  | zero => rfl
  | succ k ih =>
    -- one more zero leaves zero times the radix
    have hzero : digits radix limit 0 ['0'] = .ok 0 :=
      digits_single (d := 0) hradix hpos (by omega) (Nat.zero_le _)
    rw [List.replicate_succ', digits_append ih, hzero]

theorem digits_hex {limit n : Nat} (hn : n ≤ limit) (width : Nat) :
    digits 16 limit 0 (Hex.digits width n) = .ok n := by
  rw [Hex.digits, List.leftpad, digits_append (digits_replicate (by decide) (by decide) _)]
  exact digits_toDigits (by decide) (by decide) hn

theorem someDigits_of_digits {radix limit value : Nat} {cs : List Char} (hne : cs ≠ [])
    (h : digits radix limit 0 cs = .ok value) : someDigits radix limit cs = .ok value := by
  cases cs with
  | nil => exact absurd rfl hne
  | cons c cs => exact h

/-- Everything in a numeral that was read is a digit. -/
theorem isSome_digit? {radix limit acc value : Nat} {cs : List Char}
    (h : digits radix limit acc cs = .ok value) {c : Char} (hc : c ∈ cs) :
    (digit? radix c).isSome := by
  induction cs generalizing acc with
  | nil => contradiction
  | cons b cs ih =>
    simp only [digits] at h
    split at h
    · contradiction
    · next hdigit =>
      split at h
      · -- the first character was read as a digit, and so were the others
        rcases List.mem_cons.1 hc with rfl | hc
        · rw [hdigit]
          rfl
        · exact ih h hc
      · contradiction

end Numeral

namespace Hex

/-! ## Filled numerals

Filling puts zeros in front, and never takes anything away: a numeral is as long as it has to be, or
as was asked for. -/

theorem isSome_digit?_of_mem {width n : Nat} {c : Char} (hc : c ∈ digits width n) :
    (Numeral.digit? 16 c).isSome :=
  Numeral.isSome_digit? (Numeral.digits_hex (Nat.le_refl n) width) hc

theorem digits_ne_nil (width n : Nat) : digits width n ≠ [] := by
  intro h
  have hnil := congrArg List.length h
  rw [length_digits, List.length_nil] at hnil
  have hpos : 0 < (Nat.toDigits 16 n).length := Nat.length_toDigits_pos
  omega

theorem digits_of_lt {n : Nat} (h : n < 16) : digits 1 n = [Nat.digitChar n] := by
  rw [digits, Nat.toDigits_of_lt_base h]
  rfl

/-- One more place is one more digit at the end, with the rest of the number before it. -/
theorem digits_succ {width : Nat} (hwidth : 0 < width) (n : Nat) :
    digits (width + 1) n = digits width (n / 16) ++ [Nat.digitChar (n % 16)] := by
  by_cases h : n < 16
  · have hdiv : n / 16 = 0 := by omega
    have hmod : n % 16 = n := by omega
    obtain ⟨k, rfl⟩ : ∃ k, width = k + 1 := ⟨width - 1, by omega⟩
    -- a single digit: the place that is added is filled with a zero
    rw [hdiv, hmod, digits, digits, Nat.toDigits_of_lt_base h, Nat.toDigits_zero]
    simp only [List.leftpad, List.length_singleton, Nat.add_sub_cancel, List.replicate_succ']
  · -- a longer one is cut before its last digit, and the filling stays in front
    rw [digits, digits, Nat.toDigits_of_base_le (by decide) (by omega), List.leftpad, List.leftpad,
      List.length_append, List.append_assoc]
    congr 2
    simp

theorem digits_word (hi : Nat) {lo : Nat} (hlo : lo < 256) :
    digits 4 (256 * hi + lo) = digits 2 hi ++ digits 2 lo := by
  have hlast : (256 * hi + lo) % 16 = lo % 16 := by omega
  have hthird : (256 * hi + lo) / 16 % 16 = lo / 16 := by omega
  have hfront : (256 * hi + lo) / 16 / 16 = hi := by omega
  rw [digits_succ (by decide), digits_succ (by decide), hfront, hthird, hlast,
    digits_succ (show 0 < 1 by decide) lo, digits_of_lt (by omega), List.append_assoc]

end Hex

end Cosmac
