import Cosmac.Dialect
import Cosmac.Failure

/-!
# Cosmac — configurations

Everything that is fixed when a machine is built: its dialect, where program and glyphs lie, the
size of the screen, and the rates at which things happen.

`Config.check` names the first rule that a configuration breaks, in the order in which they are
looked at; `Config.Valid` states the rules without an order, and `check_eq_ok_iff` says that they
are the same. The rules have no upper bounds: a screen can be too large for memory, and a rate too
high for its interval to have a length.
-/

namespace Cosmac

/-- How many bytes the glyphs of the sixteen hexadecimal digits take. -/
def glyphTableSize : Nat := 80

/-- Everything that is fixed when a machine is built. -/
structure Config where
  dialect : Dialect
  /-- Where the program is loaded. -/
  programAddr : UInt16
  /-- Where the hexadecimal glyphs live. -/
  fontAddr : UInt16
  width : Nat
  height : Nat
  cyclesPerBatch : UInt32
  timerHz : UInt32
  /-- How often the display is to show a frame. -/
  refreshHz : UInt32
  /-- How often a session runs a batch. -/
  batchHz : UInt32
  /-- Makes random numbers reproducible. -/
  seed : Option UInt64
  deriving Repr, DecidableEq

namespace Config

/-- The classical machine: program at `0x200`, glyphs at `0x050`, 64 by 32 pixels, ten
instructions to a batch and sixty of everything to a second. -/
def standard : Config where
  dialect := .legacy
  programAddr := 0x200
  fontAddr := 0x50
  width := 64
  height := 32
  cyclesPerBatch := 10
  timerHz := 60
  refreshHz := 60
  batchHz := 60
  seed := none

/-- The first address after the glyphs. -/
def fontEnd (c : Config) : Nat :=
  c.fontAddr.toNat + glyphTableSize

/-- The first rule that a configuration breaks, if any. -/
def check (c : Config) : Except ConfigError Unit :=
  if c.width = 0 ∨ c.height = 0 then .error .emptyDisplay
  else if c.cyclesPerBatch = 0 then .error .emptyBatch
  else if c.timerHz = 0 ∨ c.refreshHz = 0 ∨ c.batchHz = 0 then .error .zeroRate
  else if 4096 ≤ c.programAddr.toNat then .error .programOutsideMemory
  else if 4096 < c.fontEnd then .error .glyphsOutsideMemory
  else if c.programAddr.toNat < c.fontEnd then .error .glyphsAboveProgram
  else .ok ()

/-- A machine can be built: the screen has a pixel, a batch has an instruction, nothing happens
zero times a second, the program starts inside memory, and the glyphs lie below it. -/
structure Valid (c : Config) : Prop where
  width_pos : 0 < c.width
  height_pos : 0 < c.height
  cycles_ne_zero : c.cyclesPerBatch ≠ 0
  timerHz_ne_zero : c.timerHz ≠ 0
  refreshHz_ne_zero : c.refreshHz ≠ 0
  batchHz_ne_zero : c.batchHz ≠ 0
  program_lt : c.programAddr.toNat < 4096
  fontEnd_le : c.fontEnd ≤ c.programAddr.toNat

theorem check_eq_ok_iff (c : Config) : c.check = .ok () ↔ c.Valid := by
  unfold check
  constructor
  · intro h
    -- only the last branch is without an error, and it has every condition refuted
    repeat' split at h
    all_goals first | contradiction | skip
    constructor <;> first | omega | simp_all
  · intro ⟨hw, hh, hc, ht, hr, hb, hp, hf⟩
    -- the rule about the end of memory follows from the two others
    have hfont : ¬ 4096 < c.fontEnd := by omega
    simp [hc, ht, hr, hb, hfont, Nat.not_lt.2 hf, Nat.not_le.2 hp, Nat.ne_of_gt hw, Nat.ne_of_gt hh]

end Config

end Cosmac
