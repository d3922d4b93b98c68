import Cosmac.Machine.Basic

/-!
# Cosmac — new machines

Which configurations have a new machine, and what it is.

Building a machine goes through checks and through operations that can fail. Where all of them pass,
the machine can be written down in one piece, and that is how the other modules know it.

* `Memory.holding` is memory as it is laid out at first, with an image; `Machine.fresh` is a machine
  that has done nothing yet.
* `new_eq_ok` and `valid_of_new` — there is a new machine exactly for a valid configuration whose
  screen is not too large; `eq_fresh_of_new` — it is fresh.
-/

namespace Cosmac

/-- Memory with the glyphs and an image, and zeros everywhere else. -/
def Memory.holding (programAddr fontAddr : UInt16) (image : List UInt8) : Memory where
  ram := (Ram.zero.overwrite fontAddr.toNat glyphTable).overwrite programAddr.toNat image
  programAddr := programAddr
  fontAddr := fontAddr
  programLen := image.length

/-- Without an image there are the glyphs alone. -/
theorem Memory.holding_nil (programAddr fontAddr : UInt16) :
    holding programAddr fontAddr [] =
      ⟨Ram.zero.overwrite fontAddr.toNat glyphTable, programAddr, fontAddr, 0⟩ := by
  simp only [holding, Ram.overwrite, List.length_nil]

/-- Memory can be laid out if the glyphs fit. -/
theorem Memory.new_eq_ok {programAddr fontAddr : UInt16}
    (hfont : fontAddr.toNat + glyphTableSize ≤ 4096) :
    Memory.new programAddr fontAddr = .ok (.holding programAddr fontAddr []) := by
  have hwrite : Ram.zero.write? fontAddr.toNat glyphTable =
      .ok (Ram.zero.overwrite fontAddr.toNat glyphTable) :=
    (Ram.write?_eq_ok_iff _ _ _ _).2 ⟨hfont, rfl⟩
  rw [Memory.new, hwrite, holding_nil]

/-- There is a blank screen of any size that is not zero and not too large. -/
theorem Screen.blank?_eq_ok {width height : Nat} (hw : 0 < width) (hh : 0 < height)
    (hsize : width * height ≤ Frame.capacity) :
    Screen.blank? width height = .ok ⟨.blank width height, hw, hh⟩ := by
  rw [Screen.blank?, dif_pos ⟨hw, hh⟩, if_pos hsize]

/-- The glyphs of a valid configuration lie inside memory, as they end before the program starts. -/
theorem Config.Valid.font_le {config : Config} (h : config.Valid) :
    config.fontAddr.toNat + glyphTableSize ≤ 4096 := by
  have hfont : config.fontAddr.toNat + glyphTableSize ≤ config.programAddr.toNat := h.fontEnd_le
  have hprogram := h.program_lt
  omega

namespace Machine

/-- A machine that has done nothing yet, with an image in its memory. -/
def fresh (config : Config) (h : config.Valid) (generator : Generator) (image : List UInt8) :
    Machine where
  memory := .holding config.programAddr config.fontAddr image
  registers := .start config.programAddr
  stack := .empty
  screen := ⟨.blank config.width config.height, h.width_pos, h.height_pos⟩
  timers := .idle
  keypad := .released
  dialect := config.dialect
  generator := generator
  idleAt := none
  faults := 0

/-- The new machine of a valid configuration whose screen is not too large. -/
theorem new_eq_ok {config : Config} (h : config.Valid)
    (hsize : config.width * config.height ≤ Frame.capacity) (entropy : ChaCha.Key) :
    Machine.new config entropy = .ok (fresh config h (.start config.seed entropy) []) := by
  have hcheck := (Config.check_eq_ok_iff config).2 h
  simp only [Machine.new, hcheck, Memory.new_eq_ok h.font_le,
    Screen.blank?_eq_ok h.width_pos h.height_pos hsize]
  rfl

/-- No other configuration has a new machine. -/
theorem valid_of_new {config : Config} {entropy : ChaCha.Key} {m : Machine}
    (h : Machine.new config entropy = .ok m) :
    config.Valid ∧ config.width * config.height ≤ Frame.capacity := by
  cases hcheck : config.check with
  | error e =>
    simp only [Machine.new, hcheck] at h
    contradiction
  | ok _ =>
    have hvalid : config.Valid := (Config.check_eq_ok_iff config).1 hcheck
    refine ⟨hvalid, ?_⟩
    by_cases hsize : config.width * config.height ≤ Frame.capacity
    · exact hsize
    · -- a screen that is too large crashes instead
      have hblank : Screen.blank? config.width config.height =
          .error (.crashed .frameTooLarge) := by
        rw [Screen.blank?, dif_pos ⟨hvalid.width_pos, hvalid.height_pos⟩, if_neg hsize]
      simp only [Machine.new, hcheck, Memory.new_eq_ok hvalid.font_le, hblank] at h
      contradiction

/-- A new machine has done nothing yet, and has no image. -/
theorem eq_fresh_of_new {config : Config} {entropy : ChaCha.Key} {m : Machine}
    (h : Machine.new config entropy = .ok m) :
    ∃ hvalid : config.Valid, m = fresh config hvalid (.start config.seed entropy) [] := by
  obtain ⟨hvalid, hsize⟩ := valid_of_new h
  rw [new_eq_ok hvalid hsize] at h
  exact ⟨hvalid, (Except.ok.inj h).symm⟩

end Machine

end Cosmac
