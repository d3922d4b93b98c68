import Cosmac.Machine.Basic

/-!
# Cosmac — steps

A step fetches, decodes and carries out exactly one instruction. It never blocks and never stops the
machine: an instruction that has to wait, or loops on itself, leaves the program counter where it
is, and one that faults is reported and stepped over.

A step is put together in three layers, so that facts about instructions can be proved without a
word about the program counter, and facts about the program counter without going through the
instructions.

* `Machine.perform` is what an instruction does, apart from where the program goes next. A fault
  comes with the machine as the instruction left it.
* `Machine.execute` adds the rest: program counter, fault count, idle marker and log.
* `Machine.step` fetches first.
-/

namespace Cosmac

/-- What a step did. -/
inductive Outcome
  | executed
  /-- No key is down; the instruction is tried again. -/
  | waiting
  /-- The instruction jumps to itself. -/
  | idle
  | faulted (fault : Fault)
  deriving Repr, DecidableEq

/-- Where the program goes after an instruction. -/
inductive Flow
  | next
  /-- Past one more instruction. -/
  | skip
  | jump (target : UInt16)
  /-- To the same instruction, because no key is down. -/
  | wait
  /-- To the same instruction, because it jumps there. -/
  | park
  deriving Repr, DecidableEq

/-- A machine in which an instruction has taken effect, where the program goes from there, and
what the instruction had to report. -/
structure Effect where
  machine : Machine
  flow : Flow
  log : List Event

/-- A fault, and the machine as the faulting instruction left it. -/
structure Refusal where
  fault : Fault
  machine : Machine

/-- A finished step. -/
structure Step where
  outcome : Outcome
  machine : Machine
  log : List Event

namespace Effect

/-- The usual effect: a new state, and on to the next instruction. -/
def next (m : Machine) : Effect := ⟨m, .next, []⟩

/-- No change but for the place of the program. -/
def goto (m : Machine) (flow : Flow) : Effect := ⟨m, flow, []⟩

end Effect

/-- Skips the next instruction if the condition holds. -/
def Flow.skipIf (condition : Bool) : Flow :=
  if condition then .skip else .next

namespace Machine

/-! ## Groups of instructions

What several instructions have in common, with what the dialect has to say about them: writing a
result, moving the index, asking the keypad, reaching for memory. An access that fails is refused
with the machine as it is, and nothing that it would have done has been done. -/

/-- The result of a bitwise operation in `VX`; `VF` is zeroed after that, where the dialect says
so. -/
def setLogic (m : Machine) (x : Reg) (value : UInt8) : Machine :=
  if m.dialect.logicClearsFlag then (m.setReg x value).setReg Reg.flag 0 else m.setReg x value

/-- A result in `VX`, then a flag in `VF`: where `VX` is `VF`, the flag stays. -/
def setWithFlag (m : Machine) (x : Reg) (value : UInt8) (b : Bool) : Machine :=
  (m.setReg x value).setFlag b

/-- The value that a shift works on. -/
def shiftOperand (m : Machine) (x y : Reg) : UInt8 :=
  match m.dialect.shiftOperand with
  | .vy => m.get y
  | .vx => m.get x

/-- The index after a transfer of `V0` to `VX`. -/
def indexAfterTransfer (m : Machine) (x : Reg) : UInt16 :=
  if m.dialect.transferMovesIndex then
    m.dialect.indexOverflow.bound (m.registers.i.toNat + x.val + 1)
  else m.registers.i

/-- Whether a key is down; faults on a number that names no key. -/
def testKey (m : Machine) (key : UInt8) : Except Fault Bool :=
  match m.keypad.isDown? key.toNat with
  | some b => .ok b
  | none => .error (.keyOutOfRange m.registers.pc key)

/-- An access to memory on behalf of the current instruction. -/
def access {α : Type} (m : Machine) (result : Except OutOfBounds α) : Except Fault α :=
  match result with
  | .ok a => .ok a
  | .error range => .error (.memoryOutOfBounds m.registers.pc range)

/-- Gives up on the current instruction, with whatever it has done so far. -/
def refuse (m : Machine) (fault : Fault) : Except Refusal Effect :=
  .error ⟨fault, m⟩

/-- Goes on with a result; where there is none, gives up. -/
def orRefuse {α : Type} (m : Machine) (result : Except Fault α) (go : α → Effect) :
    Except Refusal Effect :=
  match result with
  | .error fault => m.refuse fault
  | .ok a => .ok (go a)

/-- Going on means that there was a result. -/
theorem orRefuse_eq_ok_iff {α : Type} (m : Machine) (result : Except Fault α) (go : α → Effect)
    (e : Effect) : m.orRefuse result go = .ok e ↔ ∃ a, result = .ok a ∧ e = go a := by
  cases result with
  | ok a => simp [orRefuse, eq_comm]
  | error fault => simp [orRefuse, refuse]

/-- Giving up means that there was a fault, and the machine is still as it was. -/
theorem orRefuse_eq_error_iff {α : Type} (m : Machine) (result : Except Fault α)
    (go : α → Effect) (r : Refusal) :
    m.orRefuse result go = .error r ↔ ∃ fault, result = .error fault ∧ r = ⟨fault, m⟩ := by
  cases result with
  | ok a => simp [orRefuse]
  | error fault => simp [orRefuse, refuse, eq_comm]

/-- A sprite on the screen. -/
def draw (m : Machine) (x y : Reg) (rows : UInt8) (sprite : List UInt8) : Effect :=
  let drawn := m.screen.draw (m.get x) (m.get y) sprite m.dialect.spriteEdges
  -- the report shows the place that was drawn at, even where the flag replaces it
  ⟨{ m with screen := drawn.1 }.setFlag drawn.2, .next,
    [.drawing m.registers.i (m.get x) (m.get y) rows]⟩

/-- Writes bytes at the index. -/
def writeAtIndex (m : Machine) (data : List UInt8) : Except Fault Machine :=
  match m.access (m.memory.ram.write? m.registers.i.toNat data) with
  | .error fault => .error fault
  | .ok ram => .ok { m with memory := { m.memory with ram } }

/-- The decimal digits of a byte: hundreds, tens, ones. -/
def decimalDigits (value : UInt8) : List UInt8 :=
  [value / 100, value / 10 % 10, value % 10]

/-! ## Instructions

One line for each instruction as far as that is possible. Where an instruction reads and writes the
same register, all of its operands are those of before. -/

/-- What an instruction does to the machine, and where the program goes from it. -/
def perform (m : Machine) : Instruction → Except Refusal Effect
  | .clearScreen => .ok (.next { m with screen := m.screen.clear })
  | .leave =>
    match m.stack.pop? with
    | some (addr, stack) => .ok (.goto { m with stack } (.jump addr))
    | none => m.refuse (.stackUnderflow m.registers.pc)
  | .jump target => .ok (.goto m (if target = m.registers.pc then .park else .jump target))
  | .call target =>
    match m.stack.push? (m.registers.pc + 2) with
    | some stack => .ok (.goto { m with stack } (.jump target))
    | none => m.refuse (.stackOverflow m.registers.pc)
  | .skipIf x nn => .ok (.goto m (.skipIf (m.get x == nn)))
  | .skipUnless x nn => .ok (.goto m (.skipIf (m.get x != nn)))
  | .skipIfSame x y => .ok (.goto m (.skipIf (m.get x == m.get y)))
  | .skipUnlessSame x y => .ok (.goto m (.skipIf (m.get x != m.get y)))
  | .set x nn => .ok (.next (m.setReg x nn))
  | .increase x nn => .ok (.next (m.setReg x (m.get x + nn)))
  | .copy x y => .ok (.next (m.setReg x (m.get y)))
  | .or x y => .ok (.next (m.setLogic x (m.get x ||| m.get y)))
  | .and x y => .ok (.next (m.setLogic x (m.get x &&& m.get y)))
  | .xor x y => .ok (.next (m.setLogic x (m.get x ^^^ m.get y)))
  | .add x y =>
    .ok (.next (m.setWithFlag x (m.get x + m.get y) (256 ≤ (m.get x).toNat + (m.get y).toNat)))
  | .sub x y => .ok (.next (m.setWithFlag x (m.get x - m.get y) (m.get y ≤ m.get x)))
  | .subFrom x y => .ok (.next (m.setWithFlag x (m.get y - m.get x) (m.get x ≤ m.get y)))
  | .shiftRight x y =>
    let source := m.shiftOperand x y
    .ok (.next (m.setWithFlag x (source >>> 1) (source % 2 = 1)))
  | .shiftLeft x y =>
    let source := m.shiftOperand x y
    .ok (.next (m.setWithFlag x (source <<< 1) (128 ≤ source)))
  | .setIndex target => .ok (.next (m.setIndex target))
  | .jumpOffset x target =>
    -- the sum may lie past the last address; fetching there will fault
    .ok (.goto m (.jump (target + (m.get (m.dialect.jumpRegister.pick x)).toUInt16)))
  | .random x nn =>
    let drawn := m.generator.nextByte
    -- a byte is drawn even where the mask leaves nothing of it
    .ok (.next ({ m with generator := drawn.2 }.setReg x (drawn.1 &&& nn)))
  | .draw x y rows =>
    -- the access is checked before anything is drawn or reported
    m.orRefuse (m.access (m.memory.ram.read? m.registers.i.toNat rows.toNat)) (m.draw x y rows)
  | .skipIfKey x =>
    m.orRefuse (m.testKey (m.get x)) fun down => .goto m (.skipIf down)
  | .skipUnlessKey x =>
    m.orRefuse (m.testKey (m.get x)) fun down => .goto m (.skipIf !down)
  | .readDelay x => .ok (.next (m.setReg x m.timers.delay))
  | .waitKey x =>
    match m.keypad.first? with
    | some key => .ok (.next (m.setReg x (UInt8.ofNat key.val)))
    | none => .ok (.goto m .wait)
  | .setDelay x => .ok (.next (m.setDelay (m.get x)))
  | .setSound x => .ok (.next (m.setSound (m.get x)))
  | .addIndex x =>
    let raw := m.registers.i.toNat + (m.get x).toNat
    -- the flag tells about the sum itself, whatever becomes of it
    .ok (.next ((m.setIndex (m.dialect.indexOverflow.bound raw)).setFlag (4096 ≤ raw)))
  | .glyph x => .ok (.next (m.setIndex (m.memory.glyphAddr (m.get x))))
  | .decimal x =>
    m.orRefuse (m.writeAtIndex (decimalDigits (m.get x))) .next
  | .save x =>
    m.orRefuse (m.writeAtIndex (m.registers.upTo x)) fun m' =>
      .next (m'.setIndex (m.indexAfterTransfer x))
  | .restore x =>
    m.orRefuse (m.access (m.memory.ram.read? m.registers.i.toNat (x.val + 1))) fun data =>
      .next ({ m with registers := m.registers.setFirst data }.setIndex (m.indexAfterTransfer x))
  | .unknown word => m.refuse (.unknownOpcode m.registers.pc word)

/-! ## Steps

The program counter moves after the effect, so a call stores, and a fault reports, the address of
the instruction itself. -/

/-- Counts a fault. -/
def countFault (m : Machine) : Machine :=
  { m with faults := m.faults + 1 }

/-- Sets the marker of idle loops. -/
def markIdle (m : Machine) (at? : Option UInt16) : Machine :=
  { m with idleAt := at? }

/-- What is left to do after an instruction took effect. Parking is reported when the program
arrives there, and not again for as long as it stays. -/
def settle (m : Machine) (effect : Effect) : Step :=
  let m' := effect.machine
  match effect.flow with
  | .next => ⟨.executed, m'.advance.markIdle none, effect.log⟩
  | .skip => ⟨.executed, m'.advance.advance.markIdle none, effect.log⟩
  | .jump target => ⟨.executed, (m'.jumpTo target).markIdle none, effect.log⟩
  | .wait => ⟨.waiting, m'.markIdle none, effect.log⟩
  | .park =>
    let pc := m.registers.pc
    -- a marker with this address says that the program was parked here already
    ⟨.idle, m'.markIdle (some pc),
      if m.idleAt = some pc then effect.log else effect.log ++ [.idling pc]⟩

/-- What is left to do after an instruction faulted. -/
def recover (m : Machine) (fault : Fault) : Step :=
  let m' := if fault.staysPut then m.countFault else m.countFault.advance
  ⟨.faulted fault, m'.markIdle none, [.faulted fault]⟩

/-- Carries out an instruction as if it had been fetched from where the program is. -/
def execute (m : Machine) (instr : Instruction) : Step :=
  let trace := Event.executing instr m.dialect.jumpRegister m.registers.pc
  let s := match m.perform instr with
    | .ok effect => m.settle effect
    | .error refusal => refusal.machine.recover refusal.fault
  { s with log := trace :: s.log }

/-- Fetches, decodes and carries out one instruction. A program that runs off the end of memory
goes on at the bottom. -/
def step (m : Machine) : Step :=
  let pc := m.registers.pc
  match m.memory.ram.word? pc.toNat with
  | .ok word => m.execute (Instruction.decode word)
  | .error range =>
    let fault := Fault.memoryOutOfBounds pc range
    -- there is no instruction to trace, and the idle marker stays as it is
    ⟨.faulted fault, m.countFault.jumpTo ((pc + 2) % 4096), [.faulted fault]⟩

end Machine

end Cosmac
