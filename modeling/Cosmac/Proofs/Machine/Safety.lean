import Cosmac.Proofs.Machine.Guarded
import Cosmac.Proofs.Machine.New

/-!
# Cosmac — safety of machines

Nothing that a program does, and nothing that its surroundings do to its machine, can lead to an
operation outside of its domain.

What the guards ask for was fixed when the machine was built, but for the length of the program. So
the invariant is about the layout: all actions but a load keep it as it is, and a load has made sure
that its program fits. It follows along any history, and with it that the guards of
`Cosmac.Proofs.Machine.Guarded` change nothing, whatever is done next.

* `BuiltFrom` is the invariant: the layout is that of a configuration, and the program lies inside
  memory. `BuiltFrom.act` and `BuiltFrom.acts` — actions and histories keep it.
* `Safe` says of a machine that whatever is done next stays in its domain; `BuiltFrom.safe`.
* `safe_of_check` — a machine is safe after every history, if its configuration passes the check.
-/

namespace Cosmac

namespace Machine

/-! ## The invariant

It holds of fresh machines and is kept by everything that can be done to one. -/

/-- A machine that is laid out as its configuration says, with a program that lies inside
memory. -/
structure BuiltFrom (config : Config) (m : Machine) : Prop where
  width : m.screen.frame.width = config.width
  height : m.screen.frame.height = config.height
  programAddr : m.memory.programAddr = config.programAddr
  fontAddr : m.memory.fontAddr = config.fontAddr
  program_le : m.memory.programAddr.toNat + m.memory.programLen ≤ 4096

/-- A fresh machine is laid out as its configuration says, whatever image it holds. -/
theorem builtFrom_fresh {config : Config} {h : config.Valid} {generator : Generator}
    {image : List UInt8} (hfits : config.programAddr.toNat + image.length ≤ Ram.size) :
    BuiltFrom config (fresh config h generator image) :=
  ⟨rfl, rfl, rfl, rfl, hfits⟩

/-- A new machine has an empty program. -/
theorem exists_new {config : Config} (hvalid : config.Valid)
    (hsize : config.width * config.height ≤ Frame.capacity) (entropy : ChaCha.Key) :
    ∃ start, Machine.new config entropy = .ok start ∧ BuiltFrom config start :=
  ⟨_, new_eq_ok hvalid hsize entropy, builtFrom_fresh (Nat.le_of_lt hvalid.program_lt)⟩

/-- Whatever new machine there is, it is laid out as its configuration says. -/
theorem builtFrom_of_new {config : Config} {entropy : ChaCha.Key} {start : Machine}
    (h : Machine.new config entropy = .ok start) : BuiltFrom config start := by
  obtain ⟨hvalid, hsize⟩ := valid_of_new h
  obtain ⟨start', hstart, hbuilt⟩ := exists_new hvalid hsize entropy
  obtain rfl := Except.ok.inj (hstart.symm.trans h)
  exact hbuilt

/-- What keeps the layout keeps the invariant. -/
theorem BuiltFrom.of_layout {config : Config} {m m' : Machine} (h : BuiltFrom config m)
    (hlayout : m'.layout = m.layout) : BuiltFrom config m' := by
  obtain ⟨-, hwidth, hheight, hprogram, hfont, hlen⟩ := Layout.mk.inj hlayout
  refine ⟨hwidth.trans h.width, hheight.trans h.height, hprogram.trans h.programAddr,
    hfont.trans h.fontAddr, ?_⟩
  rw [hprogram, hlen]
  exact h.program_le

/-- A program that is loaded lies inside memory, and nothing else of the layout changes. -/
theorem BuiltFrom.load {config : Config} {m m' : Machine} (h : BuiltFrom config m)
    {source : Source} {len : Nat} {loaded : Event} (hload : m.load source = .ok (len, m', loaded)) :
    BuiltFrom config m' := by
  obtain ⟨memory, hmem, rfl⟩ := (load_eq_ok_iff _ _ _ _ _).1 hload
  obtain ⟨-, hfits, rfl, rfl, -⟩ := (Memory.load_eq_ok_iff _ _ _ _ _).1 hmem
  exact ⟨h.width, h.height, h.programAddr, h.fontAddr, hfits⟩

theorem BuiltFrom.font_le {config : Config} {m : Machine} (h : BuiltFrom config m)
    (hvalid : config.Valid) : m.memory.fontAddr.toNat + glyphTableSize ≤ 4096 := by
  rw [h.fontAddr]
  exact hvalid.font_le

/-- Every action comes to its end and keeps the invariant. -/
theorem BuiltFrom.act {config : Config} (hvalid : config.Valid) {m : Machine}
    (h : BuiltFrom config m) (a : Action) :
    ∃ r, m.act a = .ok r ∧ BuiltFrom config r.machine := by
  -- only a load changes the layout, and it has made sure that the program fits
  cases a with
  | load source =>
    cases hload : m.load source with
    | error e =>
      refine ⟨⟨m, .loaded (.error e), []⟩, ?_, h⟩
      simp only [Machine.act, hload]
    | ok loaded =>
      refine ⟨⟨loaded.2.1, .loaded (.ok loaded.1), [loaded.2.2]⟩, ?_, h.load hload⟩
      simp only [Machine.act, hload]
  | reset =>
    obtain ⟨m', hreset, -⟩ := Guarded.reset_eq (h.font_le hvalid) h.program_le
    refine ⟨⟨m', .quiet, []⟩, ?_, h.of_layout (layout_of_reset? hreset)⟩
    simp only [Machine.act, hreset]
  | step => exact ⟨_, rfl, h.of_layout (layout_step m)⟩
  | _ => exact ⟨_, rfl, h.of_layout rfl⟩

/-- So does every history. -/
theorem BuiltFrom.acts {config : Config} (hvalid : config.Valid) {m : Machine}
    (h : BuiltFrom config m) (actions : List Action) :
    ∃ m', m.acts actions = .ok m' ∧ BuiltFrom config m' := by
  induction actions generalizing m with
  | nil => exact ⟨m, rfl, h⟩
  | cons a rest ih =>
    obtain ⟨r, hr, hbuilt⟩ := h.act hvalid a
    obtain ⟨m', hm', hbuilt'⟩ := ih hbuilt
    refine ⟨m', ?_, hbuilt'⟩
    rw [Machine.acts_cons hr]
    exact hm'

/-! ## Safety

Sizes of tables are part of their types or of the invariant. The rest is one guarded operation after
the other. -/

/-- A machine of which nothing that can be done to it leads out of a domain: all its tables have
their sizes, its program can be read, and what is done under guards is what is done without. -/
structure Safe (config : Config) (m : Machine) : Prop where
  memory : m.memory.ram.bytes.toList.length = 4096
  program_le : m.memory.programAddr.toNat + m.memory.programLen ≤ 4096
  pixels : m.screen.frame.pixels.size = config.width * config.height
  depth_le : m.stack.depth ≤ 16
  program : ∃ image, m.memory.program? = .ok image ∧ Guarded.program m = .ok image
  reset : ∃ m', m.reset? = .ok m' ∧ Guarded.reset m = .ok m'
  /-- The count of faults is a word, which must have room for one more. -/
  step : m.faults + 1 < 0x10000000000000000 → Guarded.step m = .ok m.step
  act : m.faults + 1 < 0x10000000000000000 → ∀ a, ∃ r, m.act a = .ok r ∧ Guarded.act m a = .ok r

/-- A machine that is laid out like this is safe. -/
theorem BuiltFrom.safe {config : Config} (hvalid : config.Valid)
    (hsize : config.width * config.height ≤ Frame.capacity) {m : Machine}
    (h : BuiltFrom config m) : Safe config m := by
  have hcap : m.screen.frame.width * m.screen.frame.height ≤ Frame.capacity := by
    rw [h.width, h.height]
    exact hsize
  have hfont := h.font_le hvalid
  -- there are eighty bytes of glyphs, so they start below the end
  have hglyphs : m.memory.fontAddr.toNat < 4096 := by
    simp only [glyphTableSize] at hfont
    omega
  refine ⟨?_, h.program_le, ?_, m.stack.depth_le, ?_, ?_, ?_, ?_⟩
  · rw [Vector.length_toList]
  · rw [m.screen.frame.size_pixels, h.width, h.height]
  · obtain ⟨image, -, himage, hguarded⟩ := Guarded.program_eq h.program_le
    exact ⟨image, himage, hguarded⟩
  · exact Guarded.reset_eq hfont h.program_le
  · exact Guarded.step_eq hcap hglyphs
  · exact Guarded.act_eq hcap hfont h.program_le

/-- **Machines are safe.** A configuration that passes the check, with a screen that has no more
pixels than there can be, has a new machine; every history of actions on it comes to its end, and
leaves a safe machine. -/
theorem safe_of_check {config : Config} (hcheck : config.check = .ok ())
    (hsize : config.width * config.height ≤ Frame.capacity) (entropy : ChaCha.Key) :
    ∃ start, Machine.new config entropy = .ok start ∧
      ∀ actions : List Action, ∃ m, start.acts actions = .ok m ∧ Safe config m := by
  have hvalid : config.Valid := (Config.check_eq_ok_iff config).1 hcheck
  obtain ⟨start, hstart, hbuilt⟩ := exists_new hvalid hsize entropy
  refine ⟨start, hstart, ?_⟩
  intro actions
  -- the invariant has come through all actions, so nothing can go wrong now
  obtain ⟨m, hm, hbuilt'⟩ := hbuilt.acts hvalid actions
  exact ⟨m, hm, hbuilt'.safe hvalid hsize⟩

/-- The glyphs end where the program starts, which is the last address there is. -/
theorem safe_at_end_of_memory :
    let config := { Config.standard with fontAddr := 4015, programAddr := 4095, height := 5 }
    config.check = .ok () ∧ config.width * config.height ≤ Frame.capacity ∧
      ∃ start, Machine.new config (Seed.key 0) = .ok start ∧
        ∀ actions : List Action, ∃ m, start.acts actions = .ok m ∧ Safe config m :=
  ⟨rfl, by decide, safe_of_check rfl (by decide) (Seed.key 0)⟩

end Machine

end Cosmac
