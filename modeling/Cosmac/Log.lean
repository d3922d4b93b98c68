import Cosmac.Fault
import Cosmac.Instruction.Order
import Cosmac.Text.Character

/-!
# Cosmac — the log

What a machine and its session report, as data. An `Event` knows its level, the part that raised it,
its message and its numeric fields; `Event.line` and `Event.fileLine` print it.

There is one constructor for each place that reports something, with the values it reports. Level,
part, message and fields are functions of it, so a filter can be asked about an event, and a proof
can count events of one kind, without a text being looked at.
-/

namespace Cosmac

/-! ## Levels and parts -/

inductive Level
  | trace
  | debug
  | info
  | warn
  | error
  deriving Repr, DecidableEq

namespace Level

def name : Level → String
  | .trace => "TRACE"
  | .debug => "DEBUG"
  | .info => "INFO"
  | .warn => "WARN"
  | .error => "ERROR"

/-- How grave an event is; the gravest are kept by every filter that keeps anything. -/
def gravity : Level → Nat
  | .trace => 0
  | .debug => 1
  | .info => 2
  | .warn => 3
  | .error => 4

end Level

/-- The parts that report events. -/
inductive Part
  | memory
  | machine
  | scheduler
  | input
  | session
  deriving Repr, DecidableEq

/-- The name of a part, which filters select by. -/
def Part.target : Part → String
  | .memory => "chip8::memory"
  | .machine => "chip8::interpreter"
  | .scheduler => "chip8::scheduler"
  | .input => "chip8::input"
  | .session => "chip8::environment"

/-! ## Events

A trace has the instruction and not its text: the text depends on the dialect as well, which the
event therefore has with it. -/

inductive Event
  /-- A program of `len` bytes now lies at `addr`. -/
  | programLoaded (len : Nat) (addr : UInt16)
  /-- The instruction at `pc` is about to be carried out, where `BNNN` adds `offset`. -/
  | executing (instr : Instruction) (offset : JumpRegister) (pc : UInt16)
  /-- The order at `pc` is about to crash: it names a register that there is none of. -/
  | ordered (order : Order) (pc : UInt16)
  /-- A sprite of `rows` rows at the index `i` is about to be drawn. -/
  | drawing (i : UInt16) (x y rows : UInt8)
  /-- The program has arrived in a loop of one jump. -/
  | idling (addr : UInt16)
  | faulted (fault : Fault)
  /-- A batch took longer than the timers' interval. -/
  | timersCatchingUp (ticks : Nat)
  /-- A key was pressed that the keymap does not have. -/
  | unmappedKey (key : Char)
  | starting (pc : UInt16)
  | quitRequested
  | stopped (batches executed faults : Nat)
  deriving Repr, DecidableEq

/-- Events in the order in which they were raised. -/
abbrev Log := Array Event

namespace Event

def level : Event → Level
  | .executing .. | .ordered .. => .trace
  | .programLoaded .. | .drawing .. | .timersCatchingUp .. | .quitRequested => .debug
  | .idling .. | .starting .. | .stopped .. => .info
  | .faulted .. | .unmappedKey .. => .warn

def part : Event → Part
  | .programLoaded .. => .memory
  | .executing .. | .ordered .. | .drawing .. | .idling .. | .faulted .. => .machine
  | .timersCatchingUp .. => .scheduler
  | .unmappedKey .. => .input
  | .starting .. | .quitRequested | .stopped .. => .session

def message : Event → String
  | .programLoaded .. => "program loaded"
  | .executing instr offset _ => instr.mnemonic offset
  | .ordered order _ => order.mnemonic
  | .drawing .. => "draw sprite"
  | .idling addr => "idle loop at " ++ Hex.address addr
  | .faulted fault => fault.message
  | .timersCatchingUp .. => "timers catching up"
  | .unmappedKey key => "can't map " ++ Quoted.char key ++ " to a COSMAC key"
  | .starting pc => "starting at " ++ Hex.address pc
  | .quitRequested => "quit requested"
  | .stopped .. => "stopped"

/-- The numbers that go with an event, by name, in the order in which they are printed. -/
def fields : Event → List (String × Nat)
  | .programLoaded len addr => [("len", len), ("addr", addr.toNat)]
  | .executing _ _ pc | .ordered _ pc => [("pc", pc.toNat)]
  | .drawing i x y rows => [("i", i.toNat), ("x", x.toNat), ("y", y.toNat), ("rows", rows.toNat)]
  | .timersCatchingUp ticks => [("ticks", ticks)]
  | .stopped batches executed faults =>
    [("batches", batches), ("dispatched", executed), ("faults", faults)]
  | _ => []

/-- The names that an event can be asked for: the message counts as a field. -/
def fieldNames (e : Event) : List String :=
  "message" :: e.fields.map (·.1)

/-- Message and fields. -/
def text (e : Event) : String :=
  e.fields.foldl (fun acc (name, value) => acc ++ " " ++ name ++ "=" ++ toString value) e.message

/-! ## Printed events

Fields follow the message in the order of the source that reports them. A transcript shows the
level, and a log file the part as well. -/

/-- An event with its level. -/
def line (e : Event) : String :=
  e.level.name ++ " " ++ e.text

/-- An event with its level and its part. -/
def fileLine (e : Event) : String :=
  e.level.name ++ " " ++ e.part.target ++ ": " ++ e.text

end Event

end Cosmac
