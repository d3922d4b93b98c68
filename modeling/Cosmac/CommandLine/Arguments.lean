import Cosmac.Address
import Cosmac.CommandLine.Options
import Cosmac.Config
import Cosmac.Host.Input

/-!
# Cosmac — arguments

What a command line says, once it has been understood: the program to run and the value of every
option.

* `UsageError` — why a command line is not followed. Which error it is decides about the exit and
  what is printed, so asking for help is among them.

* `Draft` — the values so far, from `Draft.standard` on; `Draft.assign` reads the value of a
  setting.

* `Arguments` — a draft with a program; `Arguments.config` is the configuration that the values
  make.

Values are read by their kind: a word of a few, an address, a count. What two options have to do
with each other is not looked at here but when the configuration is checked.
-/

namespace Cosmac.CommandLine

/-- Why a command line is not followed. Asking for help or for the version is a reason too. -/
inductive UsageError
  /-- No program is named. -/
  | missingProgram
  /-- An option that does not exist, or a second program. -/
  | unknownArgument
  /-- A value that is not among those allowed, empty where it must not be, or missing. -/
  | invalidValue
  /-- A number or an address that cannot be read or is out of range. -/
  | invalidNumber
  /-- An option is given twice. -/
  | givenTwice
  /-- A switch is given a value. -/
  | unexpectedValue
  | helpRequested
  | versionRequested
  deriving Repr, DecidableEq

def UsageError.message : UsageError → String
  | .missingProgram => "no program is named"
  | .unknownArgument => "an argument is not known"
  | .invalidValue => "a value is missing or not among those allowed"
  | .invalidNumber => "a number or an address cannot be read or is out of range"
  | .givenTwice => "an option is given twice"
  | .unexpectedValue => "an option is given a value that takes none"
  | .helpRequested => "help is asked for"
  | .versionRequested => "the version is asked for"

/-- The keymaps that can be chosen. -/
inductive KeyMapName
  | conventional
  | literal
  deriving Repr, DecidableEq

def KeyMapName.keymap : KeyMapName → KeyMap
  | .conventional => KeyMap.conventional
  | .literal => KeyMap.literal

/-- The values of the options. What is `none` was not given and has no value of its own. -/
structure Draft where
  dialect : Dialect
  logicClearsFlag : Option Bool
  shiftOperand : Option ShiftOperand
  jumpRegister : Option JumpRegister
  spriteEdges : Option SpriteEdges
  transferMovesIndex : Option Bool
  indexOverflow : Option IndexOverflow
  programAddr : UInt16
  fontAddr : UInt16
  cycles : UInt32
  batchHz : UInt32
  timerHz : UInt32
  refreshHz : UInt32
  seed : Option UInt64
  maxBatches : Option UInt64
  keymap : KeyMapName
  mute : Bool
  disassemble : Bool
  logFile : String
  logFilter : Option String
  deriving Repr, DecidableEq

namespace Draft

/-- The values without any option. -/
def standard : Draft where
  dialect := .legacy
  logicClearsFlag := none
  shiftOperand := none
  jumpRegister := none
  spriteEdges := none
  transferMovesIndex := none
  indexOverflow := none
  programAddr := Config.standard.programAddr
  fontAddr := Config.standard.fontAddr
  cycles := Config.standard.cyclesPerBatch
  batchHz := Config.standard.batchHz
  timerHz := Config.standard.timerHz
  refreshHz := Config.standard.refreshHz
  seed := none
  maxBatches := none
  keymap := .conventional
  mute := false
  disassemble := false
  logFile := "chip8.log"
  logFilter := none

end Draft

/-! ## Values

Counts are bounded by the word that they are kept in. The smaller ones are read as signed numbers of
the larger word first, which decides what is said about those that do not fit and lets a zero have a
sign. -/

namespace Value

/-- One of a few words. -/
def word {α : Type} (allowed : List (String × α)) (text : String) : Except UsageError α :=
  match allowed.lookup text with
  | some a => .ok a
  | none => .error .invalidValue

def bool : String → Except UsageError Bool :=
  word [("true", true), ("false", false)]

/-- A path: anything but the empty text. -/
def path (text : String) : Except UsageError String :=
  if text.isEmpty then .error .invalidValue else .ok text

/-- A count of at most thirty-two bits. It is read as a signed number, so `-0` is one. -/
def count32 (text : String) : Except UsageError UInt32 :=
  match Numeral.int 10 0x7fffffffffffffff text.toList with
  | .ok (.ofNat n) => if n ≤ 0xffffffff then .ok (UInt32.ofNat n) else .error .invalidNumber
  | _ => .error .invalidNumber

/-- A count of at most sixty-four bits. -/
def count64 (text : String) : Except UsageError UInt64 :=
  match Numeral.nat 10 0xffffffffffffffff text.toList with
  | .ok n => .ok (UInt64.ofNat n)
  | .error _ => .error .invalidNumber

def address (text : String) : Except UsageError UInt16 :=
  match Address.parse text with
  | .ok a => .ok a
  | .error _ => .error .invalidNumber

end Value

namespace Draft

/-- The draft in which a setting has the value that a text stands for. -/
def assign (d : Draft) (s : Setting) (text : String) : Except UsageError Draft :=
  match s with
  | .dialect =>
    (Value.word [("legacy", Dialect.legacy), ("modern", Dialect.modern)] text).map
      fun dialect => { d with dialect }
  | .logicClearsFlag => (Value.bool text).map fun b => { d with logicClearsFlag := some b }
  | .shiftOperand =>
    (Value.word [("vy", ShiftOperand.vy), ("vx", .vx)] text).map
      fun o => { d with shiftOperand := some o }
  | .jumpRegister =>
    (Value.word [("v0", JumpRegister.v0), ("vx", .vx)] text).map
      fun r => { d with jumpRegister := some r }
  | .spriteEdges =>
    (Value.word [("wrap", SpriteEdges.wrap), ("clip", .clip)] text).map
      fun e => { d with spriteEdges := some e }
  | .transferMovesIndex => (Value.bool text).map fun b => { d with transferMovesIndex := some b }
  | .indexOverflow =>
    (Value.word [("unbounded", IndexOverflow.unbounded), ("wrap", .wrap), ("clamp", .clamp)]
      text).map fun o => { d with indexOverflow := some o }
  | .programAddr => (Value.address text).map fun a => { d with programAddr := a }
  | .fontAddr => (Value.address text).map fun a => { d with fontAddr := a }
  | .cycles => (Value.count32 text).map fun n => { d with cycles := n }
  | .batchHz => (Value.count32 text).map fun n => { d with batchHz := n }
  | .timerHz => (Value.count32 text).map fun n => { d with timerHz := n }
  | .refreshHz => (Value.count32 text).map fun n => { d with refreshHz := n }
  | .seed => (Value.count64 text).map fun n => { d with seed := some n }
  | .maxBatches => (Value.count64 text).map fun n => { d with maxBatches := some n }
  | .keymap =>
    (Value.word [("conventional", KeyMapName.conventional), ("literal", .literal)] text).map
      fun k => { d with keymap := k }
  | .logFile => (Value.path text).map fun p => { d with logFile := p }
  | .logFilter => .ok { d with logFilter := some text }

/-- The dialect with what overrides it. -/
def overridden (d : Draft) : Dialect where
  logicClearsFlag := d.logicClearsFlag.getD d.dialect.logicClearsFlag
  shiftOperand := d.shiftOperand.getD d.dialect.shiftOperand
  jumpRegister := d.jumpRegister.getD d.dialect.jumpRegister
  spriteEdges := d.spriteEdges.getD d.dialect.spriteEdges
  transferMovesIndex := d.transferMovesIndex.getD d.dialect.transferMovesIndex
  indexOverflow := d.indexOverflow.getD d.dialect.indexOverflow

end Draft

/-- A command line that can be followed. -/
structure Arguments extends Draft where
  /-- The program to run. -/
  program : String
  deriving Repr, DecidableEq

namespace Arguments

/-- The machine that is asked for. -/
def config (a : Arguments) : Config :=
  { Config.standard with
    dialect := a.toDraft.overridden
    programAddr := a.programAddr
    fontAddr := a.fontAddr
    cyclesPerBatch := a.cycles
    timerHz := a.timerHz
    refreshHz := a.refreshHz
    batchHz := a.batchHz
    seed := a.seed }

end Arguments

end Cosmac.CommandLine
