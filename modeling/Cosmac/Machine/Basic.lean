import Cosmac.Frame
import Cosmac.Keypad
import Cosmac.Log
import Cosmac.Memory
import Cosmac.Random
import Cosmac.Registers
import Cosmac.Timers

/-!
# Cosmac — the machine

All the state of one machine, how it is built, loaded and reset, and what its surroundings may
change between instructions: keys, timers and registers. Running instructions is the business of
`Cosmac.Machine.Step`.

A machine is built from a configuration that was checked, so the sizes that it is built with are
those that a check has allowed. It has no clock and no devices: time passes when `tick` is called,
and keys go down when somebody says so.
-/

namespace Cosmac

structure Machine where
  memory : Memory
  registers : Registers
  stack : CallStack
  screen : Screen
  timers : Timers
  keypad : Keypad
  dialect : Dialect
  generator : Generator
  /-- Where the latest step found the program parked, if it did. -/
  idleAt : Option UInt16
  /-- How many faults there have been since the start or the latest reset. -/
  faults : Nat
  deriving DecidableEq

namespace Machine

/-- A machine for a configuration, with no program. Without a seed in the configuration, the
key of its random numbers is `entropy`. -/
def new (config : Config) (entropy : ChaCha.Key) : Except (Stopped Failure) Machine :=
  match config.check, Memory.new config.programAddr config.fontAddr,
    Screen.blank? config.width config.height with
  | .error e, _, _ => .error (.failed (.invalidConfig e))
  | .ok (), .error e, _ => .error (.failed (.invalidConfig e))
  | .ok (), .ok _, .error (.failed e) => .error (.failed (.invalidConfig e))
  | .ok (), .ok _, .error (.crashed c) => .error (.crashed c)
  | .ok (), .ok memory, .ok screen => .ok {
      memory
      registers := .start config.programAddr
      stack := .empty
      screen
      timers := .idle
      keypad := .released
      dialect := config.dialect
      generator := .start config.seed entropy
      idleAt := none
      faults := 0 }

/-! ## Loading and resetting -/

/-- A program from a source: its length, the machine with it, and the report of that. -/
def load (m : Machine) (source : Source) : Except Failure (Nat × Machine × Event) :=
  match m.memory.load source with
  | .error e => .error e
  | .ok (len, memory, loaded) => .ok (len, { m with memory }, loaded)

/-- Loading concerns memory alone. -/
theorem load_eq_ok_iff (m : Machine) (source : Source) (len : Nat) (m' : Machine)
    (loaded : Event) :
    m.load source = .ok (len, m', loaded) ↔
      ∃ memory, m.memory.load source = .ok (len, memory, loaded) ∧ m' = { m with memory } := by
  unfold load
  cases m.memory.load source with
  | error e => simp
  -- what memory gives is passed on, with the machine around it
  | ok placed =>
    constructor
    · intro h
      simp only [Except.ok.injEq, Prod.mk.injEq] at h
      obtain ⟨rfl, rfl, rfl⟩ := h
      exact ⟨_, rfl, rfl⟩
    · rintro ⟨memory, h, rfl⟩
      obtain rfl := Except.ok.inj h
      rfl

/-- Back to the start, with the program that is loaded. Random numbers go on where they are. -/
def reset? (m : Machine) : Except Crash Machine :=
  match m.memory.reset? with
  | .error e => .error e
  | .ok memory => .ok { m with
      memory
      registers := .start memory.programAddr
      stack := m.stack.clear
      screen := m.screen.clear
      timers := .idle
      keypad := .released
      idleAt := none
      faults := 0 }

/-! ## Surroundings -/

/-- Presses or lifts a key. -/
def setKey (m : Machine) (key : Nat) (down : Bool) : Machine :=
  { m with keypad := m.keypad.setKey key down }

/-- Lifts every key. -/
def releaseKeys (m : Machine) : Machine :=
  { m with keypad := .released }

/-- Lets `n` timer intervals pass. -/
def tick (n : Nat) (m : Machine) : Machine :=
  { m with timers := m.timers.ticks n }

def setDelay (m : Machine) (value : UInt8) : Machine :=
  { m with timers := { m.timers with delay := value } }

def setSound (m : Machine) (value : UInt8) : Machine :=
  { m with timers := { m.timers with sound := value } }

/-! ## Registers, from inside an instruction

Instructions read and write registers of a machine, and nothing else of it, through these. -/

def get (m : Machine) (x : Reg) : UInt8 :=
  m.registers.get x

def setReg (m : Machine) (x : Reg) (value : UInt8) : Machine :=
  { m with registers := m.registers.set x value }

def setFlag (m : Machine) (b : Bool) : Machine :=
  { m with registers := m.registers.setFlag b }

def setIndex (m : Machine) (i : UInt16) : Machine :=
  { m with registers := { m.registers with i } }

def jumpTo (m : Machine) (pc : UInt16) : Machine :=
  { m with registers := { m.registers with pc } }

/-- Sets registers by their numbers, one after the other, up to a number that names none. -/
def poke (m : Machine) : List (Nat × UInt8) → Except Crash Unit × Machine
  | [] => (.ok (), m)
  | (x, value) :: rest =>
    if h : x < 16 then (m.setReg ⟨x, h⟩ value).poke rest else (.error .noSuchRegister, m)

/-- Past one instruction. -/
def advance (m : Machine) : Machine :=
  { m with registers := m.registers.advance }

end Machine

end Cosmac
