import Cosmac.Proofs.Machine.Addressing
import Cosmac.Proofs.Machine.Loading

/-!
# Cosmac — the index and the address space

Where the dialect wraps or clamps the index, the instructions that move it keep it inside memory.
The one that points it to a glyph is not under that rule: the glyph table lies inside memory, but
what is asked for need not be a digit, and the glyphs of greater numbers are counted on past the
table.

The exception is a condition on one step, that it points to a glyph which starts inside. A step
keeps the index inside exactly under that condition, so along a history it is inside throughout
exactly if the condition holds wherever a step is taken. Both sides speak of the machine as it is at
that point of the history, and the induction follows them together.

* `IndexOverflow.toNat_bound_le` — a wrapped or clamped index is inside.
* `indexInside_step_iff` — a step keeps the index inside memory unless it points to such a glyph.
* `index_inside_iff_glyphs_inside` — so the index stays inside for as long as no step does.
* `index_outside_after_glyph` — one that does.
-/

namespace Cosmac

/-- Wrapping and clamping leave an address inside memory. -/
theorem IndexOverflow.toNat_bound_le {policy : IndexOverflow} (h : policy ≠ .unbounded)
    (raw : Nat) : (policy.bound raw).toNat ≤ 0xfff := by
  cases policy with
  | unbounded => exact absurd rfl h
  | wrap =>
    rw [bound, UInt16.toNat_ofNat']
    omega
  | clamp =>
    rw [bound, UInt16.toNat_ofNat']
    omega

/-- The address of a glyph is not cut, even where it lies past the end of memory. -/
theorem Memory.toNat_glyphAddr {m : Memory} (h : m.fontAddr.toNat + glyphTableSize ≤ 4096)
    (digit : UInt8) : (m.glyphAddr digit).toNat = m.fontAddr.toNat + 5 * digit.toNat := by
  have hdigit := digit.toNat_lt
  rw [glyphAddr, UInt16.toNat_add, UInt16.toNat_mul, UInt8.toNat_toUInt16]
  show (m.fontAddr.toNat + digit.toNat * 5 % 65536) % 65536 = _
  omega

namespace Machine

/-- The index points into memory. -/
def IndexInside (m : Machine) : Prop :=
  m.registers.i.toNat ≤ 0xfff

/-- If the next step points the index to a glyph, that glyph starts inside memory. -/
def GlyphInside (config : Config) (m : Machine) : Prop :=
  ∀ x, m.Due (.glyph x) → config.fontAddr.toNat + 5 * (m.get x).toNat ≤ 0xfff

/-! ## One step

The index after a step is that of the instruction, and each of those has a bound of its own. -/

/-- A step that asks for a glyph points to it. -/
theorem index_step_of_glyph {m : Machine} {x : Reg} (due : m.Due (.glyph x)) :
    m.step.machine.registers.i = m.memory.glyphAddr (m.get x) := by
  rw [due.step_eq]
  rfl

/-- All other instructions leave the index inside. -/
theorem indexAfter_le {m : Machine} (hpolicy : m.dialect.indexOverflow ≠ .unbounded)
    (hinside : m.IndexInside) {word : UInt16} (hglyph : ∀ x, Instruction.decode word ≠ .glyph x) :
    (m.indexAfter (Instruction.decode word)).toNat ≤ 0xfff := by
  -- a transfer moves the index under the rule of the dialect, or not at all
  have htransfer (x : Reg) : (m.indexAfterTransfer x).toNat ≤ 0xfff := by
    unfold indexAfterTransfer
    split
    · exact IndexOverflow.toNat_bound_le hpolicy _
    · exact hinside
  cases hi : Instruction.decode word with
  | setIndex target => exact Instruction.target_decode_le (by rw [hi]; rfl)
  | addIndex x => exact IndexOverflow.toNat_bound_le hpolicy _
  | glyph x => exact absurd hi (hglyph x)
  | save x | restore x => exact htransfer x
  | _ => exact hinside

/-- A step keeps the index inside, unless it points it to a glyph outside. -/
theorem indexInside_step_iff {config : Config} (hvalid : config.Valid) {m : Machine}
    (hbuilt : BuiltFrom config m) (hpolicy : m.dialect.indexOverflow ≠ .unbounded)
    (hinside : m.IndexInside) : m.step.machine.IndexInside ↔ m.GlyphInside config := by
  have haddr (digit : UInt8) :
      (m.memory.glyphAddr digit).toNat = config.fontAddr.toNat + 5 * digit.toNat := by
    rw [Memory.toNat_glyphAddr (hbuilt.font_le hvalid), hbuilt.fontAddr]
  constructor
  · intro hstep x due
    rw [IndexInside, index_step_of_glyph due, haddr] at hstep
    exact hstep
  · intro hglyph
    -- the index was left, or was moved by the instruction that was due
    rcases index_step m with same | ⟨i, due, moved⟩
    · rw [IndexInside, same]
      exact hinside
    · rw [IndexInside, moved]
      by_cases hi : ∃ x, i = .glyph x
      · obtain ⟨x, rfl⟩ := hi
        show (m.memory.glyphAddr (m.get x)).toNat ≤ 0xfff
        rw [haddr]
        exact hglyph x due
      · obtain ⟨word, -, rfl⟩ := due
        exact indexAfter_le hpolicy hinside fun x heq => hi ⟨x, heq⟩

/-! ## Histories

The dialect is fixed when a machine is built, so the rule for the index stays the same. -/

/-- No action changes the dialect. -/
theorem dialect_of_act {m : Machine} {a : Action} {r : Reaction} (h : m.act a = .ok r) :
    r.machine.dialect = m.dialect := by
  cases a with
  | load source =>
    obtain ⟨memory, hmachine⟩ := exists_memory_of_act_load h
    rw [hmachine]
  | _ =>
    refine congrArg Layout.dialect (layout_of_act ?_ h)
    intro source
    nofun

theorem dialect_of_acts {m m' : Machine} {actions : List Action} (h : m.acts actions = .ok m') :
    m'.dialect = m.dialect := by
  induction actions generalizing m with
  | nil => rw [← Except.ok.inj h]
  | cons a rest ih =>
    obtain ⟨r, hact, hrest⟩ := (acts_cons_eq_ok_iff _ _ _ _).1 h
    exact (ih hrest).trans (dialect_of_act hact)

/-- What is neither a step nor written by the surroundings keeps the index, or starts again at
zero. -/
theorem indexInside_of_act {m : Machine} (hinside : m.IndexInside) {a : Action} (hstep : a ≠ .step)
    (hpoke : ∀ registers, a ≠ .setRegisters registers) {r : Reaction} (h : m.act a = .ok r) :
    r.machine.IndexInside := by
  cases hspares : a.sparesRegisters with
  | true =>
    rw [IndexInside, (registers_and_stack_of_act hspares h).1]
    exact hinside
  | false =>
    cases a with
    | step => exact absurd rfl hstep
    | setRegisters registers => exact absurd rfl (hpoke registers)
    -- a reset puts the index at zero
    | reset =>
      rw [IndexInside, (registers_and_stack_of_reset? (reset?_of_act h)).1]
      exact Nat.zero_le _
    | _ => contradiction

/-- Along a history, the index stays inside exactly if each of its steps keeps it there. -/
theorem throughout_indexInside_iff {config : Config} (hvalid : config.Valid)
    (hpolicy : config.dialect.indexOverflow ≠ .unbounded) {actions : List Action}
    (hpoke : ∀ a ∈ actions, ∀ registers, a ≠ .setRegisters registers) {m : Machine}
    (hbuilt : BuiltFrom config m) (hdialect : m.dialect = config.dialect)
    (hinside : m.IndexInside) :
    Throughout IndexInside m actions ↔ AtSteps (GlyphInside config) m actions := by
  induction actions generalizing m with
  | nil => exact iff_of_true hinside trivial
  | cons a rest ih =>
    obtain ⟨r, hact, hbuilt'⟩ := hbuilt.act hvalid a
    have hrest (hinside' : r.machine.IndexInside) :
        Throughout IndexInside r.machine rest ↔ AtSteps (GlyphInside config) r.machine rest :=
      ih (fun b hb => hpoke b (List.mem_cons_of_mem a hb)) hbuilt'
        ((dialect_of_act hact).trans hdialect) hinside'
    rw [throughout_cons_iff hact, atSteps_cons_iff hact, and_iff_right hinside]
    -- only a step can take the index out, and the rest of the history is about where it is then
    by_cases ha : a = .step
    · subst ha
      obtain rfl := Except.ok.inj hact
      have hstep : m.step.machine.IndexInside ↔ m.GlyphInside config :=
        indexInside_step_iff hvalid hbuilt (by rw [hdialect]; exact hpolicy) hinside
      constructor
      · intro hall
        exact ⟨fun _ => hstep.1 hall.start, (hrest hall.start).1 hall⟩
      · rintro ⟨hglyph, hsteps⟩
        exact (hrest (hstep.2 (hglyph rfl))).2 hsteps
    · have hinside' := indexInside_of_act hinside ha (hpoke a List.mem_cons_self) hact
      rw [hrest hinside']
      exact (and_iff_right fun heq => absurd heq ha).symm

/-- **Where the index is wrapped or clamped, it stays inside memory exactly for as long as no step
points it to a glyph outside.** A digit has its glyph inside. -/
theorem index_inside_iff_glyphs_inside {config : Config} {entropy : ChaCha.Key} {start : Machine}
    (hnew : Machine.new config entropy = .ok start)
    (hpolicy : config.dialect.indexOverflow ≠ .unbounded) {actions : List Action}
    (hpoke : ∀ a ∈ actions, ∀ registers, a ≠ .setRegisters registers) :
    (∃ m, start.acts actions = .ok m) ∧
      (start.Throughout IndexInside actions ↔ start.AtSteps (GlyphInside config) actions) ∧
      ∀ digit : Nat, digit ≤ 0xf → config.fontAddr.toNat + 5 * digit ≤ 0xfff := by
  have hbuilt := builtFrom_of_new hnew
  obtain ⟨hvalid, rfl⟩ := eq_fresh_of_new hnew
  refine ⟨?_, ?_, ?_⟩
  · obtain ⟨m, hm, -⟩ := hbuilt.acts hvalid actions
    exact ⟨m, hm⟩
  · exact throughout_indexInside_iff hvalid hpolicy hpoke hbuilt rfl (Nat.zero_le _)
  · -- the table ends inside memory, so the last of its glyphs starts there
    intro digit hdigit
    have hfont := hvalid.font_le
    simp only [glyphTableSize] at hfont
    omega

/-- `60FF F029` asks for the glyph of the number 255. -/
def askForGlyph : List Action :=
  [.load (.ofBytes [0x60, 0xff, 0xf0, 0x29]), .step, .step]

/-- A step that sets a register does that, and goes on. -/
theorem step_of_due_set {m : Machine} {x : Reg} {value : UInt8} (due : m.Due (.set x value)) :
    m.step.machine = (m.setReg x value).advance.markIdle none := by
  rw [due.step_eq]
  rfl

/-- The glyph of 255 would start 1275 bytes behind that of 0. -/
theorem exists_acts_askForGlyph {config : Config} {entropy : ChaCha.Key} {start : Machine}
    (hnew : Machine.new config entropy = .ok start)
    (hroom : config.programAddr.toNat + 4 ≤ Ram.size) :
    ∃ m, start.acts askForGlyph = .ok m ∧
      m.registers.i.toNat = config.fontAddr.toNat + 1275 := by
  obtain ⟨hvalid, rfl⟩ := eq_fresh_of_new hnew
  -- the first step makes the register 255, the second one asks for its glyph
  have haddr : config.programAddr.toNat ≤ 4096 := Nat.le_of_lt hvalid.program_lt
  have hempty : config.programAddr.toNat + ([] : List UInt8).length ≤ Ram.size := haddr
  obtain ⟨r, hact, hmachine⟩ := exists_act_load_fresh hvalid
    (.start config.seed entropy) hempty (.ofBytes [0x60, 0xff, 0xf0, 0x29])
  have hfits : (Source.ofBytes [0x60, 0xff, 0xf0, 0x29]).Fits config.programAddr :=
    (Source.fits_iff haddr _).2 ⟨rfl, hroom⟩
  rw [if_pos hfits] at hmachine
  have hword {k : Nat} {hi lo : UInt8} (hhi : [0x60, 0xff, 0xf0, 0x29][k]? = some hi)
      (hlo : [0x60, 0xff, 0xf0, 0x29][k + 1]? = some lo) :
      r.machine.memory.ram.word? (config.programAddr.toNat + k) = .ok (wordOfBytes hi lo) := by
    rw [hmachine]
    exact word?_fresh hroom hhi hlo
  have hpc : r.machine.registers.pc = config.programAddr := by
    rw [hmachine]
    rfl
  have hset : r.machine.Due (.set 0 0xff) := by
    refine ⟨wordOfBytes 0x60 0xff, ?_, by decide⟩
    rw [Fetches, hpc]
    exact hword (k := 0) rfl rfl
  have hstep := step_of_due_set hset
  have hglyph : r.machine.step.machine.Due (.glyph 0) := by
    refine ⟨wordOfBytes 0xf0 0x29, ?_, by decide⟩
    rw [hstep]
    show r.machine.memory.ram.word? (r.machine.registers.pc + 2).toNat = _
    rw [toNat_pc_add_two hset.pc_le, hpc]
    exact hword (k := 2) rfl rfl
  refine ⟨r.machine.step.machine.step.machine, ?_, ?_⟩
  · rw [askForGlyph, acts_cons hact]
    rfl
  · rw [index_step_of_glyph hglyph, hstep, hmachine]
    exact Memory.toNat_glyphAddr hvalid.font_le 0xff

/-- The glyphs of the digits end where the program starts, near the end of memory. -/
def highGlyphs : Config :=
  { Config.standard with fontAddr := 0xf00, programAddr := 0xf50, dialect := .modern }

/-- In that layout the glyph that was asked for starts far outside. -/
theorem exists_acts_highGlyphs :
    ∃ start m, Machine.new highGlyphs (Seed.key 0) = .ok start ∧ start.acts askForGlyph = .ok m ∧
      m.registers.i.toNat = 0x13fb := by
  have hvalid : highGlyphs.Valid := (Config.check_eq_ok_iff _).1 rfl
  have hnew := new_eq_ok hvalid (by decide) (Seed.key 0)
  obtain ⟨m, hm, hindex⟩ := exists_acts_askForGlyph hnew (by decide)
  exact ⟨_, m, hnew, hm, hindex⟩

/-- The history takes a step that points to a glyph outside. -/
theorem asks_for_glyph_outside :
    ∃ start, Machine.new highGlyphs (Seed.key 0) = .ok start ∧
      ¬ start.AtSteps (GlyphInside highGlyphs) askForGlyph := by
  obtain ⟨start, m, hnew, hm, hindex⟩ := exists_acts_highGlyphs
  obtain ⟨-, hiff, -⟩ := index_inside_iff_glyphs_inside hnew (by decide)
    (by simp [askForGlyph] : ∀ a ∈ askForGlyph, ∀ registers, a ≠ .setRegisters registers)
  refine ⟨start, hnew, ?_⟩
  rw [← hiff]
  intro hall
  have hinside : m.registers.i.toNat ≤ 0xfff := hall.of_acts hm
  omega

/-- The index is wrapped there, and lies outside of memory after the two instructions. -/
theorem index_outside_after_glyph :
    highGlyphs.check = .ok () ∧ highGlyphs.dialect.indexOverflow = .wrap ∧
      ∃ start m, Machine.new highGlyphs (Seed.key 0) = .ok start ∧ start.acts askForGlyph = .ok m ∧
        ¬ m.IndexInside := by
  obtain ⟨start, m, hnew, hm, hindex⟩ := exists_acts_highGlyphs
  refine ⟨rfl, rfl, start, m, hnew, hm, ?_⟩
  rw [IndexInside, hindex]
  decide

end Machine

end Cosmac
