import Cosmac.Proofs.Machine.Safety

/-!
# Cosmac — resets

A reset is meant to be a new start with the program that is loaded. It keeps the program as it lies
in memory, with whatever the program has written over itself.

So a reset machine is compared with two others: a new one with the image that lay in memory, and a
new one with the program that was loaded. It always looks like the first. The image is in view, so
it looks like the second exactly if the two images are the same. What a machine looks like leaves
out the generator, which a reset does not touch on purpose, and the free slots of the stack, which
nobody can see.

* `Machine.powerOn` is a new machine with a program; `powerOn_eq_ok_iff` — when there is one, and
  which.
* `Machine.SameView` is what can be told apart of two machines.
* `sameView_fresh_of_reset?` — a machine that was reset is a new one with the image that lay in
  memory.
* `sameView_reset_iff` — so it is a new one with the program exactly if the image is still the
  program.
-/

namespace Cosmac

namespace Ram

/-! ## Images

What was written can be read again, byte for byte. -/

theorem read?_eq_ok {ram : Ram} {start : Nat} {data : List UInt8}
    (h : start + data.length ≤ size)
    (hbyte : ∀ k < data.length, ram.byteAt (start + k) = data[k]?) :
    ram.read? start data.length = .ok data := by
  have hread : ram.read? start data.length =
      .ok (ram.bytes.extract start (start + data.length)).toList :=
    (read?_eq_ok_iff _ _ _ _).2 ⟨h, rfl⟩
  rw [hread]
  congr 1
  apply List.ext_getElem?
  intro k
  rw [getElem?_of_read? hread]
  by_cases hk : k < data.length
  · rw [if_pos hk, hbyte k hk]
  · rw [if_neg hk, List.getElem?_eq_none (Nat.le_of_not_lt hk)]

/-- A write that succeeds, byte for byte. -/
theorem byteAt_overwrite_of_le {ram : Ram} {start : Nat} {data : List UInt8}
    (h : start + data.length ≤ size) (a : Nat) :
    (ram.overwrite start data).byteAt a =
      if start ≤ a ∧ a < start + data.length then data[a - start]? else ram.byteAt a := by
  rw [byteAt_overwrite]
  by_cases ha : start ≤ a ∧ a < start + data.length
  · rw [if_pos ⟨by omega, ha⟩, if_pos ha]
  · rw [if_neg (fun hin => ha hin.2), if_neg ha]

/-- What was written is read. -/
theorem read?_overwrite (ram : Ram) {start : Nat} {data : List UInt8}
    (h : start + data.length ≤ size) :
    (ram.overwrite start data).read? start data.length = .ok data := by
  refine read?_eq_ok h ?_
  intro k hk
  rw [byteAt_overwrite_of_le h, if_pos (by omega), Nat.add_sub_cancel_left]

end Ram

namespace Memory

/-- The image of a new memory is the one that it was given. -/
theorem program?_holding {programAddr fontAddr : UInt16} {image : List UInt8}
    (h : programAddr.toNat + image.length ≤ Ram.size) :
    (holding programAddr fontAddr image).program? = .ok image := by
  have hread : (holding programAddr fontAddr image).ram.read? programAddr.toNat image.length =
      .ok image :=
    Ram.read?_overwrite _ h
  simp only [program?, holding] at hread ⊢
  rw [hread]

/-- A reset leaves nothing but the glyphs and the image. -/
theorem reset?_eq {m : Memory} {image : List UInt8} (h : m.program? = .ok image)
    (hlen : image.length = m.programLen) :
    m.reset? = .ok (holding m.programAddr m.fontAddr image) := by
  simp only [reset?, h, holding, hlen]

/-- The first program is laid down beside the glyphs, with nothing to clear behind it. -/
theorem load_holding_nil_iff (programAddr fontAddr : UInt16) (source : Source) (len : Nat)
    (m : Memory) (loaded : Event) :
    (holding programAddr fontAddr []).load source = .ok (len, m, loaded) ↔
      source.failure = none ∧ programAddr.toNat + source.bytes.length ≤ Ram.size ∧
        len = source.bytes.length ∧ m = holding programAddr fontAddr source.bytes ∧
        loaded = .programLoaded len programAddr := by
  -- the empty program ends where it starts
  have hclear (ram : Ram) (n : Nat) :
      clearTail ⟨ram, programAddr, fontAddr, 0⟩ n = ⟨ram, programAddr, fontAddr, 0⟩ := by
    rw [clearTail, Nat.zero_sub]
    rfl
  rw [holding_nil, load_eq_ok_iff, hclear]
  constructor
  · rintro ⟨hfailure, hfits, rfl, rfl, rfl⟩
    exact ⟨hfailure, hfits, rfl, rfl, rfl⟩
  · rintro ⟨hfailure, hfits, rfl, rfl, rfl⟩
    exact ⟨hfailure, hfits, rfl, rfl, rfl⟩

end Memory

namespace Machine

/-! ## New machines with a program

Loading into a new machine leaves a fresh one with an image. -/

/-- A new machine with a program. -/
def powerOn (config : Config) (entropy : ChaCha.Key) (source : Source) :
    Except (Stopped Failure) Machine :=
  match Machine.new config entropy with
  | .error e => .error e
  | .ok start =>
    match start.load source with
    | .error e => .error (.failed e)
    | .ok (_, m, _) => .ok m

/-- What can be told apart of two machines: everything but the state of the generator, and the
stack only as far as calls are open. -/
structure SameView (m m' : Machine) : Prop where
  bytes : ∀ a, m.memory.ram.byteAt a = m'.memory.ram.byteAt a
  program : m.memory.program? = m'.memory.program?
  registers : m.registers = m'.registers
  calls : m.stack.live = m'.stack.live
  frame : m.screen.frame = m'.screen.frame
  timers : m.timers = m'.timers
  keypad : m.keypad = m'.keypad
  faults : m.faults = m'.faults
  idleAt : m.idleAt = m'.idleAt
  dialect : m.dialect = m'.dialect

/-- There is a new machine with a program where the configuration is valid, the screen is not too
large, and the program ends and fits. -/
theorem powerOn_eq_ok_iff (config : Config) (entropy : ChaCha.Key) (source : Source) (m : Machine) :
    powerOn config entropy source = .ok m ↔
      ∃ h : config.Valid, config.width * config.height ≤ Frame.capacity ∧
        source.failure = none ∧
        config.programAddr.toNat + source.bytes.length ≤ Ram.size ∧
        m = fresh config h (.start config.seed entropy) source.bytes := by
  constructor
  · intro hon
    unfold powerOn at hon
    cases hnew : Machine.new config entropy with
    | error e =>
      simp only [hnew] at hon
      contradiction
    | ok start =>
      obtain ⟨hvalid, hsize⟩ := valid_of_new hnew
      rw [new_eq_ok hvalid hsize] at hnew
      obtain rfl := Except.ok.inj hnew
      simp only [new_eq_ok hvalid hsize] at hon
      split at hon
      · contradiction
      · next len m' loaded hload =>
        obtain rfl := Except.ok.inj hon
        -- the load has taken the program, and has laid it down in new memory
        obtain ⟨memory, hmem, rfl⟩ := (load_eq_ok_iff _ _ _ _ _).1 hload
        obtain ⟨hfailure, hfits, -, rfl, -⟩ := (Memory.load_holding_nil_iff _ _ _ _ _ _).1 hmem
        exact ⟨hvalid, hsize, hfailure, hfits, rfl⟩
  · rintro ⟨hvalid, hsize, hfailure, hfits, rfl⟩
    have hmem := (Memory.load_holding_nil_iff config.programAddr config.fontAddr source _ _ _).2
      ⟨hfailure, hfits, rfl, rfl, rfl⟩
    have hload : (fresh config hvalid (.start config.seed entropy) []).load source =
        .ok (source.bytes.length,
          fresh config hvalid (.start config.seed entropy) source.bytes,
          .programLoaded source.bytes.length config.programAddr) :=
      (load_eq_ok_iff _ _ _ _ _).2 ⟨_, hmem, rfl⟩
    simp only [powerOn, new_eq_ok hvalid hsize, hload]

theorem program?_fresh {config : Config} {h : config.Valid} {generator : Generator}
    {image : List UInt8} (hfits : config.programAddr.toNat + image.length ≤ Ram.size) :
    (fresh config h generator image).memory.program? = .ok image :=
  Memory.program?_holding hfits

/-! ## Reset machines

Everything that a reset does not keep it sets to what a fresh machine has. What it keeps is the
layout, and the image. -/

/-- A reset machine looks like a new one with the image that lay in memory. -/
theorem sameView_fresh_of_reset? {config : Config} {h : config.Valid}
    {generator generator' : Generator} {program image : List UInt8} {m : Machine}
    (hlayout : m.layout = (fresh config h generator program).layout)
    (himage : m.memory.program? = .ok image) (hlen : image.length = program.length) :
    ∃ r, m.reset? = .ok r ∧ SameView r (fresh config h generator' image) := by
  obtain ⟨hdialect, hwidth, hheight, hprogram, hfont, hprogramLen⟩ := Layout.mk.inj hlayout
  -- memory is laid out anew, with the image as it was read
  have hmem : m.memory.reset? = .ok (.holding config.programAddr config.fontAddr image) := by
    have hlen' : image.length = m.memory.programLen := hlen.trans hprogramLen.symm
    rw [Memory.reset?_eq himage hlen', hprogram, hfont]
    rfl
  refine ⟨{ m with
    memory := .holding config.programAddr config.fontAddr image
    registers := .start config.programAddr
    stack := m.stack.clear
    screen := m.screen.clear
    timers := .idle
    keypad := .released
    idleAt := none
    faults := 0 }, ?_, ?_⟩
  · simp only [reset?, hmem]
    rfl
  · have hframe : m.screen.clear.frame = .blank config.width config.height := by
      show Frame.blank m.screen.frame.width m.screen.frame.height = _
      rw [hwidth, hheight]
      rfl
    exact ⟨fun _ => rfl, rfl, rfl, CallStack.live_clear _, hframe, rfl, rfl, rfl, rfl, hdialect⟩

/-- The image is all that can be told apart of machines that have done nothing yet. -/
theorem image_eq_of_sameView {config : Config} {h : config.Valid} {generator : Generator}
    {program image : List UInt8} {r : Machine}
    (hfits : config.programAddr.toNat + program.length ≤ Ram.size)
    (himage : r.memory.program? = .ok image)
    (hview : SameView r (fresh config h generator program)) : image = program := by
  have hprogram : r.memory.program? = .ok program := hview.program.trans (program?_fresh hfits)
  rw [himage] at hprogram
  exact Except.ok.inj hprogram

/-- **A reset machine is a new one with the image that lies in memory**, whatever a program has done
since it was loaded. So it is a new one with the program exactly if the program has not written over
itself. -/
theorem sameView_reset_iff {config : Config} {entropy : ChaCha.Key} {source : Source}
    {loaded : Machine} (hloaded : powerOn config entropy source = .ok loaded)
    {actions : List Action} (hactions : ∀ a ∈ actions, ∀ other, a ≠ .load other)
    (entropy' : ChaCha.Key) :
    ∃ m image r new again, loaded.acts actions = .ok m ∧ m.memory.program? = .ok image ∧
      m.reset? = .ok r ∧ powerOn config entropy' (.ofBytes image) = .ok new ∧
      powerOn config entropy' source = .ok again ∧ SameView r new ∧
      (SameView r again ↔ image = source.bytes) := by
  obtain ⟨hvalid, hsize, hfailure, hfits, rfl⟩ := (powerOn_eq_ok_iff _ _ _ _).1 hloaded
  obtain ⟨m, hm, hbuilt'⟩ := (builtFrom_fresh hfits).acts hvalid actions
  have hlayout := layout_of_acts hactions hm
  -- what lies in memory now has the length of the program, so it can be loaded
  obtain ⟨image, hlen, himage, -⟩ := Guarded.program_eq hbuilt'.program_le
  have hlen' : image.length = source.bytes.length :=
    hlen.trans (Layout.mk.inj hlayout).2.2.2.2.2
  have hfits' : config.programAddr.toNat + image.length ≤ Ram.size := by
    rw [hlen']
    exact hfits
  obtain ⟨r, hr, hview⟩ := sameView_fresh_of_reset? hlayout himage hlen'
  have hnew := (powerOn_eq_ok_iff config entropy' (.ofBytes image) _).2
    ⟨hvalid, hsize, rfl, hfits', rfl⟩
  have hagain := (powerOn_eq_ok_iff config entropy' source _).2
    ⟨hvalid, hsize, hfailure, hfits, rfl⟩
  refine ⟨m, image, r, _, _, hm, himage, hr, hnew, hagain, hview, ?_⟩
  constructor
  · -- the image is in view, and it differs unless it is the program
    intro hsame
    have hafter : r.memory.program? = .ok image := hview.program.trans (program?_fresh hfits')
    exact image_eq_of_sameView hfits hafter hsame
  · intro himage'
    rw [← himage']
    exact hview

/-- A program that jumps to its own start, while a key is pressed. -/
theorem sameView_reset_after_jump :
    ∃ loaded, powerOn Config.standard (Seed.key 0) (.ofBytes [0x12, 0x00]) = .ok loaded ∧
      ∃ m image r new again, loaded.acts [.step, .tick, .setKey 5 true] = .ok m ∧
        m.memory.program? = .ok image ∧ m.reset? = .ok r ∧
        powerOn Config.standard (Seed.key 1) (.ofBytes image) = .ok new ∧
        powerOn Config.standard (Seed.key 1) (.ofBytes [0x12, 0x00]) = .ok again ∧ SameView r new ∧
        (SameView r again ↔ image = [0x12, 0x00]) := by
  have hvalid : Config.standard.Valid := (Config.check_eq_ok_iff _).1 rfl
  have hloaded := (powerOn_eq_ok_iff Config.standard (Seed.key 0) (.ofBytes [0x12, 0x00]) _).2
    ⟨hvalid, by decide, rfl, by decide, rfl⟩
  refine ⟨_, hloaded, sameView_reset_iff hloaded ?_ (Seed.key 1)⟩
  intro a ha other hload
  subst hload
  simp at ha

theorem eq_ok_of_toOption {ε α : Type} {x : Except ε α} {a : α} (h : x.toOption = some a) :
    x = .ok a := by
  cases x with
  | error e => contradiction
  | ok b =>
    obtain rfl := Option.some.inj h
    rfl

/-- A history that has been computed, seen through `view`. -/
theorem exists_acts_of_view {α : Type} {config : Config} {entropy : ChaCha.Key}
    {actions : List Action} {view : Machine → α} {seen : α}
    (h : ((Machine.new config entropy).toOption.bind fun start =>
      (start.acts actions).toOption.map view) = some seen) :
    ∃ start m, Machine.new config entropy = .ok start ∧ start.acts actions = .ok m ∧
      view m = seen := by
  obtain ⟨start, hnew, hrun⟩ := Option.bind_eq_some_iff.1 h
  obtain ⟨m, hm, hview⟩ := Option.map_eq_some_iff.1 hrun
  exact ⟨start, m, eq_ok_of_toOption hnew, eq_ok_of_toOption hm, hview⟩

/-- `6042 A200 F055` writes the byte 0x42 over the first of its own. It is still there after a
reset. -/
theorem not_sameView_reset_after_store :
    ∃ loaded m r,
      powerOn Config.standard (Seed.key 0) (.ofBytes [0x60, 0x42, 0xa2, 0x00, 0xf0, 0x55]) = .ok loaded ∧
      loaded.acts [.step, .step, .step] = .ok m ∧ m.reset? = .ok r ∧
      loaded.memory.ram.byteAt 0x200 = some 0x60 ∧ r.memory.ram.byteAt 0x200 = some 0x42 ∧
      ¬ SameView r loaded := by
  have hrun : ((powerOn Config.standard (Seed.key 0)
      (.ofBytes [0x60, 0x42, 0xa2, 0x00, 0xf0, 0x55])).toOption.bind fun loaded =>
        (loaded.acts [.step, .step, .step]).toOption.bind fun m => m.reset?.toOption.map fun r =>
          (loaded.memory.ram.byteAt 0x200, r.memory.ram.byteAt 0x200)) =
      some (some 0x60, some 0x42) := by decide +kernel
  obtain ⟨loaded, hloaded, hrun⟩ := Option.bind_eq_some_iff.1 hrun
  obtain ⟨m, hm, hrun⟩ := Option.bind_eq_some_iff.1 hrun
  obtain ⟨r, hr, hbytes⟩ := Option.map_eq_some_iff.1 hrun
  obtain ⟨hbefore, hafter⟩ := Prod.mk.inj hbytes
  refine ⟨loaded, m, r, eq_ok_of_toOption hloaded, eq_ok_of_toOption hm, eq_ok_of_toOption hr,
    hbefore, hafter, ?_⟩
  intro hsame
  -- the two can be told apart by the first byte of the program
  have hbyte := hsame.bytes 0x200
  rw [hbefore, hafter] at hbyte
  revert hbyte
  decide

end Machine

end Cosmac
