import Cosmac.Text.Numeral

/-!
# Cosmac — faults

A fault is reported and stepped over; it never stops the machine. Each one knows the address of the
instruction that raised it, and what was wrong there: the word, the key, or the range of memory.

A fault is data. `Fault.message` is its wording, and `Fault.staysPut` says where the program goes
on. What a machine has done by the time of a fault is not said here but by the instruction that
raises it.
-/

namespace Cosmac

/-- A range of memory that does not lie inside memory. -/
structure OutOfBounds where
  start : Nat
  len : Nat
  deriving Repr, DecidableEq

namespace OutOfBounds

/-- Start and length of the range, as messages show it. -/
def range (r : OutOfBounds) : String :=
  Hex.marked 3 r.start ++ "+" ++ toString r.len

def message (r : OutOfBounds) : String :=
  r.range ++ " is outside memory"

end OutOfBounds

/-- Why an instruction could not be carried out. -/
inductive Fault
  /-- The word at `addr` is not in the instruction set. -/
  | unknownOpcode (addr opcode : UInt16)
  /-- A call with no room left for its return address. -/
  | stackOverflow (addr : UInt16)
  /-- A return outside every subroutine. -/
  | stackUnderflow (addr : UInt16)
  /-- Fetching, drawing or transferring touches bytes that are not there. -/
  | memoryOutOfBounds (addr : UInt16) (range : OutOfBounds)
  /-- A key test on a register that holds no key. -/
  | keyOutOfRange (addr : UInt16) (key : UInt8)
  deriving Repr, DecidableEq

namespace Fault

def message : Fault → String
  | .unknownOpcode addr opcode => "unknown opcode " ++ Hex.word opcode ++ " at " ++ Hex.address addr
  | .stackOverflow addr => "call stack overflow at " ++ Hex.address addr
  | .stackUnderflow addr => "call stack underflow at " ++ Hex.address addr
  | .memoryOutOfBounds addr range =>
    "memory access " ++ range.range ++ " out of bounds at " ++ Hex.address addr
  | .keyOutOfRange addr key => "key " ++ Hex.byte key ++ " out of range at " ++ Hex.address addr

/-- Whether the machine stays on the faulting instruction: a return outside every subroutine has
nowhere to go. -/
def staysPut : Fault → Bool
  | .stackUnderflow _ => true
  | _ => false

end Fault

end Cosmac
