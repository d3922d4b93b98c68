import Cosmac.Proofs.Machine.Faults

/-!
# Cosmac — program counter and index

Two registers hold addresses. Most instructions write neither: the program counter is moved by the
step, and the index by the few instructions that are for it.

Where a step can take the program is worth a type of its own. What stays near the program, what
returns from a call and what is recovered from are all statements about the places in `Goes`, and
with these listed once none of them has to go through the instructions. Each place comes with what
is known there: the instruction that was due, or that no word was left.

* `indexAfter` is the index after an instruction; `pc_and_index_of_perform` — that is what it
  leaves.
* `JumpsTo` lists what an instruction can name as the next address.
* `Goes` lists the places where a step can take the program; `goes_step` — there are no others.
  `index_step` is the same for the index.
* `registers_and_stack_of_act` — loads, time and keys leave the registers alone.
-/

namespace Cosmac

/-- Whether an action leaves registers and calls alone: it is about the program, time or keys. -/
def Action.sparesRegisters : Action → Bool
  | .step | .setRegisters _ | .reset => false
  | .load _ | .setDelay _ | .setSound _ | .tick | .setKey .. | .releaseKeys => true

namespace Machine

/-! ## Instructions

The program counter is not theirs to write. They answer with a `Flow`, and the step goes by that. -/

/-- The index after an instruction that is carried out. -/
def indexAfter (m : Machine) : Instruction → UInt16
  | .setIndex target => target
  | .addIndex x => m.dialect.indexOverflow.bound (m.registers.i.toNat + (m.get x).toNat)
  | .glyph x => m.memory.glyphAddr (m.get x)
  | .save x | .restore x => m.indexAfterTransfer x
  | _ => m.registers.i

theorem pc_and_index_setLogic (m : Machine) (x : Reg) (value : UInt8) :
    (m.setLogic x value).registers.pc = m.registers.pc ∧
      (m.setLogic x value).registers.i = m.registers.i := by
  unfold setLogic
  split
  · exact ⟨rfl, rfl⟩
  · exact ⟨rfl, rfl⟩

/-- An instruction leaves the program counter to the step, and the index where `indexAfter` says. -/
theorem pc_and_index_of_perform {m : Machine} {i : Instruction} {e : Effect}
    (h : m.perform i = .ok e) :
    e.machine.registers.pc = m.registers.pc ∧ e.machine.registers.i = m.indexAfter i := by
  cases i with
  | or x y | and x y | xor x y =>
    obtain rfl := Except.ok.inj h
    exact pc_and_index_setLogic m x _
  | decimal x | save x =>
    obtain ⟨m', hwrite, rfl⟩ := (orRefuse_eq_ok_iff _ _ _ _).1 h
    obtain ⟨ram, rfl⟩ := eq_of_writeAtIndex hwrite
    exact ⟨rfl, rfl⟩
  | draw x y rows | skipIfKey x | skipUnlessKey x | restore x =>
    obtain ⟨_, -, rfl⟩ := (orRefuse_eq_ok_iff _ _ _ _).1 h
    exact ⟨rfl, rfl⟩
  | leave | call target | waitKey x =>
    -- where these go on, they write the stack, a register or nothing
    simp only [perform, refuse] at h
    split at h
    all_goals
      first
        | contradiction
        | obtain rfl := Except.ok.inj h
          exact ⟨rfl, rfl⟩
  | unknown word => contradiction
  | _ =>
    obtain rfl := Except.ok.inj h
    exact ⟨rfl, rfl⟩

/-- Where an instruction can send the program, the places right behind it apart. -/
inductive JumpsTo (m : Machine) : Instruction → UInt16 → Prop
  | named {i : Instruction} {target : UInt16} (h : i.target? = some target) : JumpsTo m i target
  | offset (x : Reg) (target : UInt16) :
    JumpsTo m (.jumpOffset x target)
      (target + (m.get (m.dialect.jumpRegister.pick x)).toUInt16)
  | back {addr : UInt16} (h : addr ∈ m.stack.live) : JumpsTo m .leave addr

theorem Flow.skipIf_ne_jump (condition : Bool) (target : UInt16) :
    Flow.skipIf condition ≠ .jump target := by
  cases condition with
  | _ => nofun

/-- An instruction that jumps goes to one of the addresses that it can name. -/
theorem jumpsTo_of_perform {m : Machine} {i : Instruction} {e : Effect} (h : m.perform i = .ok e)
    {target : UInt16} (hflow : e.flow = .jump target) : m.JumpsTo i target := by
  cases i with
  | jump named =>
    obtain rfl := Except.ok.inj h
    -- a jump to itself parks
    simp only [Effect.goto] at hflow
    split at hflow
    · contradiction
    · obtain rfl := Flow.jump.inj hflow
      exact .named rfl
  | call named =>
    simp only [perform, refuse] at h
    split at h
    · obtain rfl := Except.ok.inj h
      obtain rfl := Flow.jump.inj hflow
      exact .named rfl
    · contradiction
  | leave =>
    simp only [perform, refuse] at h
    split at h
    · next addr stack hpop =>
      obtain rfl := Except.ok.inj h
      obtain rfl := Flow.jump.inj hflow
      -- the address that is given back was that of an open call
      have hlive := CallStack.live_of_pop? hpop
      exact .back (by rw [hlive]; exact List.mem_append_right _ List.mem_cons_self)
    · contradiction
  | jumpOffset x named =>
    obtain rfl := Except.ok.inj h
    obtain rfl := Flow.jump.inj hflow
    exact .offset x named
  | draw x y rows | decimal x | save x | restore x =>
    obtain ⟨_, -, rfl⟩ := (orRefuse_eq_ok_iff _ _ _ _).1 h
    contradiction
  | skipIfKey x | skipUnlessKey x =>
    obtain ⟨down, -, rfl⟩ := (orRefuse_eq_ok_iff _ _ _ _).1 h
    exact absurd hflow (Flow.skipIf_ne_jump _ _)
  | skipIf x nn | skipUnless x nn | skipIfSame x y | skipUnlessSame x y =>
    obtain rfl := Except.ok.inj h
    exact absurd hflow (Flow.skipIf_ne_jump _ _)
  | waitKey x =>
    simp only [perform] at h
    split at h
    all_goals
      obtain rfl := Except.ok.inj h
      contradiction
  | unknown word => contradiction
  | _ =>
    obtain rfl := Except.ok.inj h
    contradiction

/-! ## Steps

There is a word at the program counter up to `0xffe`. Past that the step goes around, and before it
the instruction decides. -/

/-- There is a word as long as two bytes are left. -/
theorem exists_fetches_iff (m : Machine) :
    (∃ word, m.Fetches word) ↔ m.registers.pc.toNat ≤ 0xffe := by
  unfold Fetches Ram.word?
  split
  · next h => simp; omega
  · next h => simp; omega

/-- So an instruction that is due lies there. -/
theorem Due.pc_le {m : Machine} {i : Instruction} (due : m.Due i) :
    m.registers.pc.toNat ≤ 0xffe := by
  obtain ⟨word, hfetch, -⟩ := due
  exact (exists_fetches_iff m).1 ⟨word, hfetch⟩

/-- Behind a word in memory the program counter has not come around. -/
theorem toNat_pc_add_two {m : Machine} (h : m.registers.pc.toNat ≤ 0xffe) :
    (m.registers.pc + 2).toNat = m.registers.pc.toNat + 2 := by
  rw [UInt16.toNat_add]
  show (m.registers.pc.toNat + 2) % 65536 = _
  omega

/-- Where a step can take the program. -/
inductive Goes (m : Machine) : UInt16 → Prop
  /-- From where no word is left, to the bottom of memory. -/
  | around (h : 0xffe < m.registers.pc.toNat) : Goes m ((m.registers.pc + 2) % 4096)
  | stay (h : m.registers.pc.toNat ≤ 0xffe) : Goes m m.registers.pc
  | next (h : m.registers.pc.toNat ≤ 0xffe) : Goes m (m.registers.pc + 2)
  | skip (h : m.registers.pc.toNat ≤ 0xffe) : Goes m (m.registers.pc + 2 + 2)
  | jump {i : Instruction} {target : UInt16} (due : m.Due i) (h : m.JumpsTo i target) :
    Goes m target

/-- An instruction that is carried out takes the program on, past the next, away, or nowhere. -/
theorem goes_of_settle {m : Machine} {i : Instruction} (due : m.Due i) {e : Effect}
    (h : m.perform i = .ok e) : m.Goes (m.settle e).machine.registers.pc := by
  have hpc := due.pc_le
  -- the effect leaves the program counter, so it is still that of the instruction
  have hkeep : e.machine.registers.pc = m.registers.pc := (pc_and_index_of_perform h).1
  unfold settle
  cases hflow : e.flow with
  | next =>
    show m.Goes (e.machine.registers.pc + 2)
    rw [hkeep]
    exact .next hpc
  | skip =>
    show m.Goes (e.machine.registers.pc + 2 + 2)
    rw [hkeep]
    exact .skip hpc
  | jump target => exact .jump due (jumpsTo_of_perform h hflow)
  | wait | park =>
    show m.Goes e.machine.registers.pc
    rw [hkeep]
    exact .stay hpc

/-- **Every step takes the program to one of these places.** -/
theorem goes_step (m : Machine) : m.Goes m.step.machine.registers.pc := by
  cases hword : m.memory.ram.word? m.registers.pc.toNat with
  | error range =>
    obtain ⟨hlt, -⟩ := (word?_error_iff _ _ _).1 hword
    rw [step_of_fetch_error hword]
    exact .around hlt
  | ok word =>
    have hpc : m.registers.pc.toNat ≤ 0xffe := (exists_fetches_iff m).1 ⟨word, hword⟩
    rw [step_of_fetches hword]
    cases hperform : m.perform (Instruction.decode word) with
    | ok e =>
      rw [(execute_of_perform hperform).2]
      exact goes_of_settle ⟨word, hword, rfl⟩ hperform
    | error refusal =>
      -- a fault is stepped over, or the program stays
      rw [(execute_of_refusal hperform).2]
      show m.Goes (if refusal.fault.staysPut then m.registers.pc else m.registers.pc + 2)
      split
      · exact .stay hpc
      · exact .next hpc

/-- A step moves the index as the instruction says that is due, or leaves it. -/
theorem index_step (m : Machine) :
    m.step.machine.registers.i = m.registers.i ∨
      ∃ i, m.Due i ∧ m.step.machine.registers.i = m.indexAfter i := by
  cases hword : m.memory.ram.word? m.registers.pc.toNat with
  | error range =>
    rw [step_of_fetch_error hword]
    exact .inl rfl
  | ok word =>
    rw [step_of_fetches hword]
    cases hperform : m.perform (Instruction.decode word) with
    | error refusal =>
      -- what is refused has not moved the index
      rw [(execute_of_refusal hperform).2]
      exact .inl rfl
    | ok e =>
      obtain ⟨pc, idleAt, heq⟩ := machine_settle_eq m e
      rw [(execute_of_perform hperform).2, heq]
      exact .inr ⟨_, ⟨word, hword, rfl⟩, (pc_and_index_of_perform hperform).2⟩

/-! ## Other actions

What is done to a machine between steps is seldom about its registers. -/

/-- What is not about the registers leaves them and the stack as they are. -/
theorem registers_and_stack_of_act {m : Machine} {a : Action} {r : Reaction}
    (hspares : a.sparesRegisters = true) (h : m.act a = .ok r) :
    r.machine.registers = m.registers ∧ r.machine.stack = m.stack := by
  cases a with
  | step | setRegisters registers | reset => contradiction
  | load source =>
    obtain ⟨memory, hmachine⟩ := exists_memory_of_act_load h
    rw [hmachine]
    exact ⟨rfl, rfl⟩
  | _ =>
    obtain rfl := Except.ok.inj h
    exact ⟨rfl, rfl⟩

/-- A reset starts at the program, with no call open. -/
theorem registers_and_stack_of_reset? {m m' : Machine} (h : m.reset? = .ok m') :
    m'.registers = .start m'.memory.programAddr ∧ m'.stack = m.stack.clear := by
  obtain ⟨memory, -, rfl⟩ := exists_memory_of_reset? h
  exact ⟨rfl, rfl⟩

end Machine

end Cosmac
