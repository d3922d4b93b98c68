/-!
# Cosmac — numerals

Numbers as texts, written and read.

* `Hex.digits` writes hexadecimal numerals with a least number of digits: shorter ones are filled
  with zeros on the left, longer ones are never cut.
* `Numeral.nat` reads an unsigned numeral below a limit; a leading `+` is allowed. `Numeral.int`
  reads a signed one of a given magnitude.
* `Scientific.isNumber` tells a number with a fraction or an exponent from other texts.
-/

/-! ## Hexadecimal numerals

Addresses, opcodes and raw bytes are shown in hexadecimal. -/

namespace Cosmac.Hex

/-- The lower-case hexadecimal digits of `n`, at least `width` of them. -/
def digits (width n : Nat) : List Char :=
  (Nat.toDigits 16 n).leftpad width '0'

/-- A bare numeral, as in the address column of a listing: `200`. -/
def bare (width n : Nat) : String :=
  String.ofList (digits width n)

/-- A marked numeral, as in a mnemonic or a message: `0x200`. -/
def marked (width n : Nat) : String :=
  "0x" ++ bare width n

/-- Addresses show three digits after the mark, as many as the address space needs. -/
def address (addr : UInt16) : String :=
  marked 3 addr.toNat

/-- Single bytes show two digits after the mark. -/
def byte (b : UInt8) : String :=
  marked 2 b.toNat

/-- Instruction words show four digits after the mark. -/
def word (w : UInt16) : String :=
  marked 4 w.toNat

/-- Padding makes a numeral as long as was asked for, and never shorter. -/
theorem length_digits (width n : Nat) :
    (digits width n).length = max width (Nat.toDigits 16 n).length := by
  simp [digits, List.leftpad]
  omega

end Cosmac.Hex

/-! ## Reading numerals

A numeral is an optional sign and at least one digit, with nothing before, between or after. Three
things can be wrong with one, and where two are, the leftmost character decides: a digit is looked
at before the value it would lead to. -/

namespace Cosmac

/-- What can be wrong with the text of a number. -/
inductive NumeralError
  /-- There are no characters at all. -/
  | empty
  /-- Some character is not a digit of the radix, or a sign stands alone. -/
  | invalidDigit
  /-- The value is above the limit. -/
  | tooLarge
  /-- The value is below the limit. -/
  | tooSmall
  deriving Repr, DecidableEq

namespace NumeralError

def message : NumeralError → String
  | .empty => "cannot parse integer from empty string"
  | .invalidDigit => "invalid digit found in string"
  | .tooLarge => "number too large to fit in target type"
  | .tooSmall => "number too small to fit in target type"

end NumeralError

namespace Numeral

/-- The value of an ASCII digit or letter as a digit, if it is below `radix`. -/
def digit? (radix : Nat) (c : Char) : Option Nat :=
  let value? :=
    if '0' ≤ c ∧ c ≤ '9' then some (c.toNat - '0'.toNat)
    else if 'a' ≤ c ∧ c ≤ 'z' then some (c.toNat - 'a'.toNat + 10)
    else if 'A' ≤ c ∧ c ≤ 'Z' then some (c.toNat - 'A'.toNat + 10)
    else none
  value?.filter (· < radix)

/-- The value of `acc` followed by some digits. The first character that is no digit, or whose
digit takes the value above `limit`, ends the reading. -/
def digits (radix limit : Nat) (acc : Nat) : List Char → Except NumeralError Nat
  | [] => .ok acc
  | c :: rest =>
    match digit? radix c with
    | none => .error .invalidDigit
    | some d =>
      if acc * radix + d ≤ limit then digits radix limit (acc * radix + d) rest
      else .error .tooLarge

/-- Digits that must be there: a sign with none after it is not a numeral. -/
def someDigits (radix limit : Nat) : List Char → Except NumeralError Nat
  | [] => .error .invalidDigit
  | cs => digits radix limit 0 cs

/-- An unsigned numeral of at most `limit`. -/
def nat (radix limit : Nat) : List Char → Except NumeralError Nat
  | [] => .error .empty
  | '+' :: rest => someDigits radix limit rest
  | cs => digits radix limit 0 cs

/-- A signed numeral between `-(limit + 1)` and `limit`, the range of a two's complement word. -/
def int (radix limit : Nat) : List Char → Except NumeralError Int
  | [] => .error .empty
  | '-' :: rest =>
    match someDigits radix (limit + 1) rest with
    | .ok n => .ok (-(n : Int))
    | .error .tooLarge => .error .tooSmall
    | .error e => .error e
  | cs => (nat radix limit cs).map Int.ofNat

end Numeral

end Cosmac

/-! ## Decimal numbers

How a number with a fraction or an exponent is written, or one that is not finite. The value is not
asked for. -/

namespace Cosmac.Scientific

/-- Names of what is not finite, without regard to case. -/
def names : List String := ["inf", "infinity", "nan"]

/-- A text without a sign at the front. -/
def unsigned : List Char → List Char
  | '+' :: rest => rest
  | '-' :: rest => rest
  | cs => cs

/-- Whether nothing is left, or an exponent with digits and perhaps a sign. -/
def endsNumber : List Char → Bool
  | [] => true
  | c :: rest =>
    let digits := unsigned rest
    (c = 'e' || c = 'E') && !digits.isEmpty && digits.all Char.isDigit

/-- Whether a text is digits with at most one point among or around them, and then ends a number. -/
def isUnsigned (cs : List Char) : Bool :=
  let whole := cs.takeWhile Char.isDigit
  match cs.dropWhile Char.isDigit with
  | '.' :: rest =>
    !(whole.isEmpty && (rest.takeWhile Char.isDigit).isEmpty)
      && endsNumber (rest.dropWhile Char.isDigit)
  | rest => !whole.isEmpty && endsNumber rest

/-- Whether a text is a number. -/
def isNumber (cs : List Char) : Bool :=
  let magnitude := unsigned cs
  names.contains (String.ofList (magnitude.map Char.toLower)) || isUnsigned magnitude

end Cosmac.Scientific
