import Cosmac.Text.Numeral

/-!
# Cosmac — addresses

The machine addresses four kilobytes. `Address.parse` reads an address that a person typed:
hexadecimal digits, with or without the mark `0x`.
-/

namespace Cosmac

namespace Address

/-- How many bytes can be addressed. -/
def space : Nat := 4096

/-- The highest address. -/
def last : Nat := space - 1

end Address

/-- Why a typed address is refused. -/
inductive AddressError
  /-- After the marks, `text` is not a sixteen-bit numeral. -/
  | unreadable (text : String) (cause : NumeralError)
  /-- The value of `text` is past the last address. -/
  | outsideSpace (text : String)
  deriving Repr, DecidableEq

namespace AddressError

def message : AddressError → String
  | .unreadable text cause => text ++ ": " ++ cause.message
  | .outsideSpace text => text ++ " is outside the 4K address space"

end AddressError

namespace Address

/-- Drops every leading pair `a b`. -/
def dropPairs (a b : Char) : List Char → List Char
  | c :: d :: rest => if c = a ∧ d = b then dropPairs a b rest else c :: d :: rest
  | cs => cs

/-- What is left of a typed address once its marks are gone: all leading `0x`, then all leading
`0X`. -/
def unmarked (cs : List Char) : List Char :=
  dropPairs '0' 'X' (dropPairs '0' 'x' cs)

/-- The address that a text stands for. The numeral has to fit sixteen bits before it is compared
with the address space, so a very long one is unreadable rather than outside. -/
def parse (text : String) : Except AddressError UInt16 :=
  match Numeral.nat 16 0xffff (unmarked text.toList) with
  | .error cause => .error (.unreadable text cause)
  -- sixteen bits hold more than there are addresses
  | .ok n => if n ≤ last then .ok (UInt16.ofNat n) else .error (.outsideSpace text)

end Address

end Cosmac
