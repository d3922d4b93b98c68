import Cosmac.Proofs.Machine.Subroutine

/-!
# Cosmac — what an instruction writes

Every instruction has a small part of the machine that it may write, known before it is carried out
from the instruction, the index and the dialect. The rest of the machine is left as it was.

The part is given as a set of places for each table and a condition for each field. To be the same
outside of it can be chained: two writes inside of a part are one. So there is a lemma for each
single write, which needs that its place belongs to the part, and an instruction is put together
from these in the order in which it writes.

* `Machine.writeSet` is that part, and `WritesOnly` says that nothing else has changed. The parts
  that no instruction writes — keys, layout, count of faults — are in `WritesOnly` itself.
* `WritesOnly.setReg`, `WritesOnly.setIndex`, … — single writes; `WritesOnly.trans` chains them.
* `writesOnly_of_perform` — an instruction stays within its part: one case for each instruction, put
  together from what the single writes do.
* `writesOnly_step` — so does a step that does not fault.
-/

namespace Cosmac

/-! ## Places that instructions write

For each kind of place the instructions that write it, with the dialect where that has a say. -/

namespace Instruction

/-- How many bytes are stored at the index. -/
def bytesStored : Instruction → Nat
  | .decimal _ => 3
  | .save x => x.val + 1
  | _ => 0

/-- Whether a register gets the result, or one of the results. -/
def Receives (r : Reg) : Instruction → Prop
  | .set x _ | .increase x _ | .copy x _ | .or x _ | .and x _ | .xor x _ | .add x _ | .sub x _
  | .shiftRight x _ | .subFrom x _ | .shiftLeft x _ | .random x _ | .readDelay x | .waitKey x => r = x
  | .restore x => r ≤ x
  | _ => False

/-- Whether `VF` is written besides the result. -/
def setsFlag (d : Dialect) : Instruction → Bool
  | .add .. | .sub .. | .shiftRight .. | .subFrom .. | .shiftLeft .. | .draw .. | .addIndex _ => true
  | .or .. | .and .. | .xor .. => d.logicClearsFlag
  | _ => false

/-- Whether the index is written. -/
def movesIndex (d : Dialect) : Instruction → Bool
  | .setIndex _ | .addIndex _ | .glyph _ => true
  | .save _ | .restore _ => d.transferMovesIndex
  | _ => false

end Instruction

/-- A part of a machine. -/
structure WriteSet where
  bytes : Nat → Prop
  registers : Reg → Prop
  index : Prop
  calls : Prop
  screen : Prop
  delay : Prop
  sound : Prop
  generator : Prop

/-- The part of a machine that an instruction may write. -/
def Machine.writeSet (m : Machine) (i : Instruction) : WriteSet where
  bytes a := m.registers.i.toNat ≤ a ∧ a < m.registers.i.toNat + i.bytesStored
  registers r := i.Receives r ∨ (i.setsFlag m.dialect = true ∧ r = Reg.flag)
  index := i.movesIndex m.dialect = true
  calls := i = .leave ∨ ∃ target, i = .call target
  screen := i = .clearScreen ∨ ∃ x y rows, i = .draw x y rows
  delay := ∃ x, i = .setDelay x
  sound := ∃ x, i = .setSound x
  generator := ∃ x nn, i = .random x nn

/-- Between two machines, nothing has changed outside of a part; the program counter and the idle
marker, which belong to the step, are not looked at. -/
structure WritesOnly (w : WriteSet) (m m' : Machine) : Prop where
  bytes : ∀ a, ¬ w.bytes a → m'.memory.ram.byteAt a = m.memory.ram.byteAt a
  registers : ∀ r, ¬ w.registers r → m'.get r = m.get r
  index : ¬ w.index → m'.registers.i = m.registers.i
  calls : ¬ w.calls → m'.stack = m.stack
  screen : ¬ w.screen → m'.screen = m.screen
  delay : ¬ w.delay → m'.timers.delay = m.timers.delay
  sound : ¬ w.sound → m'.timers.sound = m.timers.sound
  generator : ¬ w.generator → m'.generator = m.generator
  /-- The stream of random bytes is never another one. -/
  key : m'.generator.key = m.generator.key
  keypad : m'.keypad = m.keypad
  layout : m'.layout = m.layout
  faults : m'.faults = m.faults

/-! ## Single writes

What is not written is equal by definition, so each of these is about one field. -/

namespace WritesOnly

variable {w : WriteSet} {m m' m'' : Machine}

theorem refl (w : WriteSet) (m : Machine) : WritesOnly w m m where
  bytes _ _ := rfl
  registers _ _ := rfl
  index _ := rfl
  calls _ := rfl
  screen _ := rfl
  delay _ := rfl
  sound _ := rfl
  generator _ := rfl
  key := rfl
  keypad := rfl
  layout := rfl
  faults := rfl

/-- What neither of two writes has changed is unchanged. -/
theorem trans (h : WritesOnly w m m') (h' : WritesOnly w m' m'') : WritesOnly w m m'' where
  bytes a ha := (h'.bytes a ha).trans (h.bytes a ha)
  registers r hr := (h'.registers r hr).trans (h.registers r hr)
  index hi := (h'.index hi).trans (h.index hi)
  calls hc := (h'.calls hc).trans (h.calls hc)
  screen hs := (h'.screen hs).trans (h.screen hs)
  delay hd := (h'.delay hd).trans (h.delay hd)
  sound hs := (h'.sound hs).trans (h.sound hs)
  generator hg := (h'.generator hg).trans (h.generator hg)
  key := h'.key.trans h.key
  keypad := h'.keypad.trans h.keypad
  layout := h'.layout.trans h.layout
  faults := h'.faults.trans h.faults

/-- Registers may change as far as they belong to the part. -/
theorem setRegisters {registers : Registers} (hindex : registers.i = m.registers.i)
    (hget : ∀ r, ¬ w.registers r → registers.get r = m.registers.get r) :
    WritesOnly w m { m with registers } :=
  { refl w m with index := fun _ => hindex, registers := hget }

theorem setReg {x : Reg} (hw : w.registers x) (value : UInt8) :
    WritesOnly w m (m.setReg x value) := by
  refine setRegisters rfl ?_
  intro r hr
  have hne : x ≠ r := by
    rintro rfl
    exact hr hw
  exact Registers.get_set_of_ne m.registers hne value

theorem setFlag (hw : w.registers Reg.flag) (b : Bool) : WritesOnly w m (m.setFlag b) :=
  setReg hw (if b then 1 else 0)

theorem setIndex (hw : w.index) (i : UInt16) : WritesOnly w m (m.setIndex i) :=
  { refl w m with index := fun hi => absurd hw hi }

theorem setStack (hw : w.calls) (stack : CallStack) : WritesOnly w m { m with stack } :=
  { refl w m with calls := fun hc => absurd hw hc }

theorem setDelay (hw : w.delay) (value : UInt8) : WritesOnly w m (m.setDelay value) :=
  { refl w m with delay := fun hd => absurd hw hd }

theorem setSound (hw : w.sound) (value : UInt8) : WritesOnly w m (m.setSound value) :=
  { refl w m with sound := fun hs => absurd hw hs }

/-- The generator moves on, with the key that it had. -/
theorem drawByte (hw : w.generator) :
    WritesOnly w m { m with generator := m.generator.nextByte.2 } :=
  { refl w m with generator := fun hg => absurd hw hg }

/-- Pixels may change, the size of the screen may not. -/
theorem setScreen (hw : w.screen) {screen : Screen}
    (hwidth : screen.frame.width = m.screen.frame.width)
    (hheight : screen.frame.height = m.screen.frame.height) :
    WritesOnly w m { m with screen } := by
  refine { refl w m with screen := fun hs => absurd hw hs, layout := ?_ }
  unfold Machine.layout
  rw [hwidth, hheight]

/-- Where the program goes, and whether it is parked, is not looked at. -/
theorem moveOn (w : WriteSet) (m : Machine) (pc : UInt16) (idleAt : Option UInt16) :
    WritesOnly w m { m with registers := { m.registers with pc }, idleAt } :=
  { refl w m with }

/-! ## Groups of writes

Writes that several instructions have in common, as the machine has them. -/

theorem setWithFlag {x : Reg} (hresult : w.registers x) (hflag : w.registers Reg.flag)
    (value : UInt8) (b : Bool) : WritesOnly w m (m.setWithFlag x value b) :=
  (setReg hresult value).trans (setFlag hflag b)

/-- A result, and in some dialects the flag. -/
theorem setLogic {x : Reg} (hresult : w.registers x)
    (hflag : m.dialect.logicClearsFlag = true → w.registers Reg.flag) (value : UInt8) :
    WritesOnly w m (m.setLogic x value) := by
  unfold Machine.setLogic
  split
  · next hclears => exact (setReg hresult value).trans (setReg (hflag hclears) 0)
  · exact setReg hresult value

/-- What a transfer leaves in the index is another value only in the dialects that move it. -/
theorem setIndexAfterTransfer (hw : m.dialect.transferMovesIndex = true → w.index)
    (hindex : m'.registers.i = m.registers.i) (x : Reg) :
    WritesOnly w m' (m'.setIndex (m.indexAfterTransfer x)) := by
  unfold Machine.indexAfterTransfer
  split
  · next hmoves => exact setIndex (hw hmoves) _
  · rw [← hindex]
    exact refl w m'

theorem writeAtIndex {data : List UInt8} (h : m.writeAtIndex data = .ok m')
    (hw : ∀ a, m.registers.i.toNat ≤ a → a < m.registers.i.toNat + data.length → w.bytes a) :
    WritesOnly w m m' := by
  unfold Machine.writeAtIndex Machine.access at h
  cases hwrite : m.memory.ram.write? m.registers.i.toNat data with
  | error range =>
    rw [hwrite] at h
    contradiction
  | ok ram =>
    rw [hwrite] at h
    obtain rfl := Except.ok.inj h
    obtain ⟨-, rfl⟩ := (Ram.write?_eq_ok_iff _ _ _ _).1 hwrite
    -- only bytes of memory have changed, and those outside the data have not
    refine { refl w m with bytes := ?_ }
    intro a ha
    show (m.memory.ram.overwrite m.registers.i.toNat data).byteAt a = m.memory.ram.byteAt a
    rw [Ram.byteAt_overwrite, if_neg]
    rintro ⟨-, hfrom, hbelow⟩
    exact ha (hw a hfrom hbelow)

theorem setFirst {data : List UInt8} (hw : ∀ r : Reg, r.val < data.length → w.registers r) :
    WritesOnly w m { m with registers := m.registers.setFirst data } := by
  have hindex : (m.registers.setFirst data).i = m.registers.i := by
    simp only [Registers.setFirst]
  refine setRegisters hindex ?_
  intro r hr
  -- a register past the last value gets the value that it had
  have hpast : data.length ≤ r.val := Nat.le_of_not_lt fun hlt => hr (hw r hlt)
  simp [Registers.setFirst, Registers.get, List.getElem?_eq_none hpast]

end WritesOnly

/-! ## Instructions

One case for each instruction. That a place belongs to the part is true by definition. -/

namespace Machine

/-- A drawing writes pixels and the flag. -/
theorem writesOnly_draw {m : Machine} {w : WriteSet} (hscreen : w.screen)
    (hflag : w.registers Reg.flag) (x y : Reg) (rows : UInt8) (sprite : List UInt8) :
    WritesOnly w m (m.draw x y rows sprite).machine := by
  have hwidth : (m.screen.draw (m.get x) (m.get y) sprite m.dialect.spriteEdges).1.frame.width =
      m.screen.frame.width := by
    simp only [Screen.draw, Frame.width_imprint]
  have hheight : (m.screen.draw (m.get x) (m.get y) sprite m.dialect.spriteEdges).1.frame.height =
      m.screen.frame.height := by
    simp only [Screen.draw, Frame.height_imprint]
  exact (WritesOnly.setScreen hscreen hwidth hheight).trans (.setFlag hflag _)

/-- A register that receives a result belongs to the part. -/
theorem mem_registers_writeSet {m : Machine} {i : Instruction} {r : Reg} (h : i.Receives r) :
    (m.writeSet i).registers r :=
  .inl h

theorem flag_mem_writeSet {m : Machine} {i : Instruction} (h : i.setsFlag m.dialect = true) :
    (m.writeSet i).registers Reg.flag :=
  .inr ⟨h, rfl⟩

/-- **An instruction writes only what it may.** -/
theorem writesOnly_of_perform {m : Machine} {i : Instruction} {e : Effect}
    (h : m.perform i = .ok e) : WritesOnly (m.writeSet i) m e.machine := by
  cases i with
  | clearScreen =>
    obtain rfl := Except.ok.inj h
    have hscreen : (m.writeSet .clearScreen).screen := .inl rfl
    exact .setScreen hscreen rfl rfl
  | leave =>
    have hcalls : (m.writeSet .leave).calls := .inl rfl
    simp only [perform] at h
    split at h
    · obtain rfl := Except.ok.inj h
      exact .setStack hcalls _
    · contradiction
  | call target =>
    have hcalls : (m.writeSet (.call target)).calls := .inr ⟨target, rfl⟩
    simp only [perform] at h
    split at h
    · obtain rfl := Except.ok.inj h
      exact .setStack hcalls _
    · contradiction
  | jump target | jumpOffset x target | skipIf x nn | skipUnless x nn | skipIfSame x y
  | skipUnlessSame x y =>
    obtain rfl := Except.ok.inj h
    exact .refl _ m
  | skipIfKey x | skipUnlessKey x =>
    obtain ⟨down, -, rfl⟩ := (orRefuse_eq_ok_iff _ _ _ _).1 h
    exact .refl _ m
  | set x nn | increase x nn | copy x y | readDelay x =>
    obtain rfl := Except.ok.inj h
    refine .setReg (mem_registers_writeSet ?_) _
    exact rfl
  | waitKey x =>
    simp only [perform] at h
    split at h
    · obtain rfl := Except.ok.inj h
      refine .setReg (mem_registers_writeSet ?_) _
      exact rfl
    · obtain rfl := Except.ok.inj h
      exact .refl _ m
  | or x y | and x y | xor x y =>
    obtain rfl := Except.ok.inj h
    refine .setLogic (mem_registers_writeSet ?_) (fun hclears => flag_mem_writeSet hclears) _
    exact rfl
  | add x y | sub x y | shiftRight x y | subFrom x y | shiftLeft x y =>
    obtain rfl := Except.ok.inj h
    refine .setWithFlag (mem_registers_writeSet ?_) (flag_mem_writeSet rfl) _ _
    exact rfl
  | setIndex target =>
    obtain rfl := Except.ok.inj h
    have hindex : (m.writeSet (.setIndex target)).index := rfl
    exact .setIndex hindex _
  | glyph x =>
    obtain rfl := Except.ok.inj h
    have hindex : (m.writeSet (.glyph x)).index := rfl
    exact .setIndex hindex _
  | addIndex x =>
    obtain rfl := Except.ok.inj h
    have hindex : (m.writeSet (.addIndex x)).index := rfl
    exact (WritesOnly.setIndex hindex _).trans (.setFlag (flag_mem_writeSet rfl) _)
  | random x nn =>
    obtain rfl := Except.ok.inj h
    have hdrawn : (m.writeSet (.random x nn)).generator := ⟨x, nn, rfl⟩
    refine (WritesOnly.drawByte hdrawn).trans (.setReg (mem_registers_writeSet ?_) _)
    exact rfl
  | draw x y rows =>
    obtain ⟨sprite, -, rfl⟩ := (orRefuse_eq_ok_iff _ _ _ _).1 h
    have hscreen : (m.writeSet (.draw x y rows)).screen := .inr ⟨x, y, rows, rfl⟩
    exact writesOnly_draw hscreen (flag_mem_writeSet rfl) x y rows sprite
  | setDelay x =>
    obtain rfl := Except.ok.inj h
    have hdelay : (m.writeSet (.setDelay x)).delay := ⟨x, rfl⟩
    exact .setDelay hdelay _
  | setSound x =>
    obtain rfl := Except.ok.inj h
    have hsound : (m.writeSet (.setSound x)).sound := ⟨x, rfl⟩
    exact .setSound hsound _
  | decimal x =>
    obtain ⟨m', hwrite, rfl⟩ := (orRefuse_eq_ok_iff _ _ _ _).1 h
    refine .writeAtIndex hwrite ?_
    intro a hfrom hbelow
    exact ⟨hfrom, hbelow⟩
  | save x =>
    obtain ⟨m', hwrite, rfl⟩ := (orRefuse_eq_ok_iff _ _ _ _).1 h
    -- the bytes are written before the index
    have hbytes : WritesOnly (m.writeSet (.save x)) m m' := by
      refine .writeAtIndex hwrite ?_
      intro a hfrom hbelow
      rw [length_upTo] at hbelow
      exact ⟨hfrom, hbelow⟩
    have hindex : m'.registers.i = m.registers.i := by
      obtain ⟨ram, rfl⟩ := eq_of_writeAtIndex hwrite
      rfl
    have hmoves : m.dialect.transferMovesIndex = true → (m.writeSet (.save x)).index := id
    exact hbytes.trans (.setIndexAfterTransfer hmoves hindex x)
  | restore x =>
    obtain ⟨data, hread, rfl⟩ := (orRefuse_eq_ok_iff _ _ _ _).1 h
    have hlen : data.length = x.val + 1 := length_of_access_read? hread
    have hfirst : WritesOnly (m.writeSet (.restore x)) m
        { m with registers := m.registers.setFirst data } := by
      refine .setFirst ?_
      intro r hr
      have hle : r ≤ x := Fin.le_def.2 (by omega)
      exact mem_registers_writeSet hle
    have hmoves : m.dialect.transferMovesIndex = true → (m.writeSet (.restore x)).index := id
    refine hfirst.trans (.setIndexAfterTransfer hmoves ?_ x)
    simp only [Registers.setFirst]
  | unknown word => contradiction

/-! ## Steps

A step adds the program counter and the marker, which are not looked at. -/

/-- One instruction is due at a time. -/
theorem Due.unique {m : Machine} {i i' : Instruction} (h : m.Due i) (h' : m.Due i') : i = i' := by
  obtain ⟨word, hfetch, rfl⟩ := h
  exact (h'.eq_decode hfetch).symm

/-- **A step that does not fault writes only what its instruction may**, and of the calls it opens
or closes one. -/
theorem writesOnly_step {m : Machine} (hfault : ∀ fault, m.step.outcome ≠ .faulted fault) :
    ∃ i, m.Due i ∧ WritesOnly (m.writeSet i) m m.step.machine ∧ m.CallEffect := by
  cases hword : m.memory.ram.word? m.registers.pc.toNat with
  | error range =>
    have houtcome := congrArg Step.outcome (step_of_fetch_error hword)
    exact absurd houtcome (hfault _)
  | ok word =>
    have hstep := step_of_fetches hword
    cases hperform : m.perform (Instruction.decode word) with
    | error refusal =>
      have houtcome := (execute_of_refusal hperform).1
      rw [← hstep] at houtcome
      exact absurd houtcome (hfault _)
    | ok e =>
      have hperformed := writesOnly_of_perform hperform
      have hdue : m.Due (Instruction.decode word) := ⟨word, hword, rfl⟩
      refine ⟨Instruction.decode word, hdue, ?_, callEffect_step m⟩
      obtain ⟨pc, idleAt, heq⟩ := machine_settle_eq m e
      rw [hstep, (execute_of_perform hperform).2, heq]
      -- the instruction has written its part, and the step has moved on
      exact hperformed.trans (.moveOn _ _ pc idleAt)

/-- `F155` at the index `300` stores two bytes there and nothing elsewhere. -/
theorem writesOnly_two_bytes :
    ∃ h : Config.standard.Valid,
      let m := { fresh Config.standard h (.ofSeed 0) [] with
        memory := ⟨Ram.zero.overwrite 0x200 [0xf1, 0x55], 0x200, 0x50, 2⟩
        registers := { Registers.start 0x200 with i := 0x300 } }
      (∀ fault, m.step.outcome ≠ .faulted fault) ∧
        (∀ a, a < 0x300 ∨ 0x302 ≤ a →
          m.step.machine.memory.ram.byteAt a = m.memory.ram.byteAt a) ∧
        ∀ r, m.step.machine.get r = m.get r := by
  refine ⟨(Config.check_eq_ok_iff _).1 rfl, ?_⟩
  intro m
  have hexecuted : m.step.outcome = .executed := by decide +kernel
  have hfault : ∀ fault, m.step.outcome ≠ .faulted fault := by
    intro fault heq
    rw [hexecuted] at heq
    contradiction
  obtain ⟨i, due, hwrites, -⟩ := writesOnly_step hfault
  have hsave : m.Due (.save 1) := ⟨0xf155, by decide +kernel, by decide⟩
  -- the instruction of the theorem is the one that lies there
  obtain rfl : i = .save 1 := due.unique hsave
  refine ⟨hfault, ?_, ?_⟩
  · intro a ha
    apply hwrites.bytes
    rintro ⟨hfrom, hbelow⟩
    have hfrom' : 0x300 ≤ a := hfrom
    have hbelow' : a < 0x300 + 2 := hbelow
    omega
  · intro r
    apply hwrites.registers
    rintro (hreceives | ⟨hsets, -⟩)
    · exact hreceives
    · contradiction

end Machine

end Cosmac
