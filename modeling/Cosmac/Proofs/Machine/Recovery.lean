import Cosmac.Proofs.Machine.Addressing
import Cosmac.Proofs.Machine.Reset
import Cosmac.Proofs.Machine.Subroutine

/-!
# Cosmac — recovery from lost fetches

A program that is left to itself can run past the end of memory, but not far: by an instruction or
two, or by the offset of a jump. From there the next step takes it to the bottom of memory, where
there is a word to fetch.

How far it can get is a bound on the program counter, and that bound is not an invariant by itself:
a return goes to an address from the stack. Neither is a bound on those addresses, as a call puts
the program counter there. Together they are. Where a step can take the program is listed in `Goes`,
and each of the places there keeps the bound; what a step does to the stack is listed in
`CallEffect`, and likewise. An address that is returned to is at most the end of memory, since the
call before it was fetched, so returning never gets any further.

* `Near` is the invariant: bounds on the program counter and on the return addresses.
* `Near.act` — every action keeps it, unless it writes registers.
* `outcome_eq_fetchFault_iff` — which faults are lost fetches; `fetches_after_lost` — none follows
  another.
* `near_and_recovers` — so a step that finds no word is followed by one that does.
-/

namespace Cosmac

namespace Machine

/-! ## Staying near memory

The farthest place is behind a jump with an offset: `0xfff` and a byte. -/

/-- The program is in memory or not far behind it, and so will be all that it returns to. -/
structure Near (m : Machine) : Prop where
  pc_le : m.registers.pc.toNat ≤ 0x10fe
  returns_le : ∀ addr ∈ m.stack.live, addr.toNat ≤ 0x1000

/-- A jump leads into memory, or past its end by no more than a byte. -/
theorem JumpsTo.le {m : Machine} {word target : UInt16}
    (h : m.JumpsTo (Instruction.decode word) target)
    (hreturns : ∀ addr ∈ m.stack.live, addr.toNat ≤ 0x1000) : target.toNat ≤ 0x10fe := by
  generalize hi : Instruction.decode word = i at h
  cases h with
  | named htarget =>
    rw [← hi] at htarget
    have hle := Instruction.target_decode_le htarget
    omega
  -- twelve bits and eight: a byte past the last address at most
  | offset x named =>
    have hle : named.toNat ≤ 0xfff := Instruction.target_decode_le (by rw [hi]; rfl)
    have hbyte := (m.get (m.dialect.jumpRegister.pick x)).toNat_lt
    rw [UInt16.toNat_add, UInt8.toNat_toUInt16]
    omega
  | back hmem =>
    have hle := hreturns _ hmem
    omega

/-- Every place that a step can go to is near memory. -/
theorem Goes.le {m : Machine} {pc : UInt16} (h : m.Goes pc)
    (hreturns : ∀ addr ∈ m.stack.live, addr.toNat ≤ 0x1000) : pc.toNat ≤ 0x10fe := by
  cases h with
  -- a failed fetch takes the remainder, so it comes down into memory
  | around hlt =>
    rw [UInt16.toNat_mod]
    have hlow : (m.registers.pc + 2).toNat % (4096 : UInt16).toNat < 4096 :=
      Nat.mod_lt _ (by decide)
    omega
  | stay hpc => omega
  | next hpc =>
    rw [toNat_pc_add_two hpc]
    omega
  | skip hpc =>
    rw [UInt16.toNat_add, toNat_pc_add_two hpc]
    show (m.registers.pc.toNat + 2 + 2) % 65536 ≤ 0x10fe
    omega
  | jump due hjump =>
    obtain ⟨word, -, rfl⟩ := due
    exact hjump.le hreturns

/-- A step leaves return addresses inside memory or right behind it. -/
theorem returns_le_step {m : Machine} (hreturns : ∀ addr ∈ m.stack.live, addr.toNat ≤ 0x1000) :
    ∀ addr ∈ m.step.machine.stack.live, addr.toNat ≤ 0x1000 := by
  intro addr hmem
  cases callEffect_step m with
  | none same =>
    rw [same] at hmem
    exact hreturns addr hmem
  | call due pushed =>
    rw [pushed] at hmem
    rcases List.mem_append.1 hmem with hold | hnew
    · exact hreturns addr hold
    · -- the call itself was fetched, so the address behind it is at most the end of memory
      obtain rfl := List.mem_singleton.1 hnew
      have hpc := due.pc_le
      rw [toNat_pc_add_two hpc]
      omega
  | leave due executed popped returned =>
    refine hreturns addr ?_
    rw [popped]
    exact List.mem_append_left _ hmem

/-- A step keeps the program near memory. -/
theorem Near.step {m : Machine} (h : m.Near) : m.step.machine.Near :=
  ⟨(goes_step m).le h.returns_le, returns_le_step h.returns_le⟩

/-- A reset machine starts at its program, and has no calls open. -/
theorem near_of_reset? {config : Config} (hvalid : config.Valid) {m m' : Machine}
    (hbuilt : BuiltFrom config m) (h : m.reset? = .ok m') : m'.Near := by
  have hbuilt' : BuiltFrom config m' := hbuilt.of_layout (layout_of_reset? h)
  obtain ⟨hregisters, hstack⟩ := registers_and_stack_of_reset? h
  constructor
  · rw [hregisters, Registers.start, hbuilt'.programAddr]
    have hlt := hvalid.program_lt
    show config.programAddr.toNat ≤ 0x10fe
    omega
  · rw [hstack, CallStack.live_clear]
    nofun

/-- **Every action keeps the program near memory**, unless it writes registers. -/
theorem Near.act {config : Config} (hvalid : config.Valid) {m : Machine}
    (hbuilt : BuiltFrom config m) (h : m.Near) {a : Action}
    (hpoke : ∀ registers, a ≠ .setRegisters registers) {r : Reaction} (hact : m.act a = .ok r) :
    r.machine.Near := by
  -- what spares the registers spares the bound
  cases hspares : a.sparesRegisters with
  | true =>
    obtain ⟨hregisters, hstack⟩ := registers_and_stack_of_act hspares hact
    exact ⟨by rw [hregisters]; exact h.pc_le, by rw [hstack]; exact h.returns_le⟩
  | false =>
    cases a with
    | step =>
      obtain rfl := Except.ok.inj hact
      exact h.step
    | setRegisters registers => exact absurd rfl (hpoke registers)
    | reset => exact near_of_reset? hvalid hbuilt (reset?_of_act hact)
    | _ => contradiction

/-- A fresh machine starts at its program, with no call open. -/
theorem near_fresh (config : Config) (h : config.Valid) (generator : Generator)
    (image : List UInt8) : (fresh config h generator image).Near := by
  have hlt := h.program_lt
  constructor
  · show config.programAddr.toNat ≤ 0x10fe
    omega
  · show ∀ addr ∈ CallStack.empty.live, addr.toNat ≤ 0x1000
    rw [CallStack.live_empty]
    nofun

/-- So does every history that writes no registers. -/
theorem Near.acts {config : Config} (hvalid : config.Valid) {m : Machine}
    (hbuilt : BuiltFrom config m) (h : m.Near) {actions : List Action}
    (hpoke : ∀ a ∈ actions, ∀ registers, a ≠ .setRegisters registers) :
    ∃ m', m.acts actions = .ok m' ∧ BuiltFrom config m' ∧ m'.Near := by
  obtain ⟨m', hm', -⟩ := hbuilt.acts hvalid actions
  refine ⟨m', hm', of_acts (P := fun n => BuiltFrom config n ∧ n.Near) ?_ hpoke ⟨hbuilt, h⟩ hm'⟩
  rintro n a r hne ⟨hb, hn⟩ hact
  obtain ⟨r', hr', hb'⟩ := hb.act hvalid a
  obtain rfl := Except.ok.inj (hr'.symm.trans hact)
  exact ⟨hb', hn.act hvalid hb hne hact⟩

/-! ## Lost fetches

A fault of memory can be a lost fetch or an access of an instruction. They are told apart by where
the range starts, since an instruction lies where there is a word. -/

/-- What is reported where there is no word to fetch. -/
def fetchFault (m : Machine) : Fault :=
  .memoryOutOfBounds m.registers.pc ⟨m.registers.pc.toNat, 2⟩

/-- A step reports a lost fetch exactly where there is no word: an instruction that was fetched
never asks for the bytes that it lies in and does not get them. -/
theorem outcome_eq_fetchFault_iff (m : Machine) :
    m.step.outcome = .faulted m.fetchFault ↔ 0xffe < m.registers.pc.toNat := by
  constructor
  · intro h
    obtain ⟨pc, idle, hfaults⟩ := faults_of_faulted h
    generalize hfault : m.fetchFault = fault at hfaults
    cases hfaults with
    | fetch hlt => exact hlt
    -- an access on behalf of an instruction starts at the index, and is not of two bytes where the
    -- program is: there was a word there
    | draw due hlt | decimal due hlt | save due hlt | restore due hlt =>
      obtain ⟨-, hrange⟩ := Fault.memoryOutOfBounds.inj hfault
      obtain ⟨hstart, hlen⟩ := OutOfBounds.mk.inj hrange
      omega
    | _ => contradiction
  · intro h
    exact (Faults.fetch h).outcome_and_machine.1

/-- From near memory, the step after a lost fetch starts at the bottom. -/
theorem pc_step_of_lost {m : Machine} (h : m.Near) (hlost : 0xffe < m.registers.pc.toNat) :
    m.step.machine.registers.pc.toNat ≤ 0x100 := by
  have hpc := h.pc_le
  rw [(Faults.fetch hlost).outcome_and_machine.2]
  show ((m.registers.pc + 2) % 4096).toNat ≤ 0x100
  rw [UInt16.toNat_mod, UInt16.toNat_add]
  show (m.registers.pc.toNat + 2) % 65536 % 4096 ≤ 0x100
  omega

/-- So there is a word to fetch then, whatever is done to memory, time and keys in between. -/
theorem fetches_after_lost {m : Machine} (h : m.Near) (hlost : 0xffe < m.registers.pc.toNat)
    {meanwhile : List Action} (hspares : ∀ a ∈ meanwhile, a.sparesRegisters = true) {m' : Machine}
    (hm' : m.step.machine.acts meanwhile = .ok m') : m'.registers.pc.toNat ≤ 0xffe := by
  have hlow := pc_step_of_lost h hlost
  -- nothing that is done in between writes the registers
  have hkeep : m'.registers = m.step.machine.registers := by
    refine of_acts (P := fun n => n.registers = m.step.machine.registers) ?_ hspares rfl hm'
    intro n a r ha hn hact
    exact (registers_and_stack_of_act ha hact).1.trans hn
  rw [hkeep]
  omega

/-- **A program stays near memory and recovers.** In every state of a machine whose registers are
written by its program alone, the program counter is at most `0x10fe` and every return address at
most `0x1000`. If a step finds no word there, the next one finds one, whatever is loaded and
whichever keys and timers change between the two. -/
theorem near_and_recovers {config : Config} {entropy : ChaCha.Key} {start : Machine}
    (hnew : Machine.new config entropy = .ok start) {actions : List Action}
    (hpoke : ∀ a ∈ actions, ∀ registers, a ≠ .setRegisters registers) :
    ∃ m, start.acts actions = .ok m ∧ m.registers.pc.toNat ≤ 0x10fe ∧
      (∀ addr ∈ m.stack.live, addr.toNat ≤ 0x1000) ∧
      (m.step.outcome = .faulted m.fetchFault →
        ∀ meanwhile : List Action, (∀ a ∈ meanwhile, a.sparesRegisters = true) →
          ∃ m', m.step.machine.acts meanwhile = .ok m' ∧ (∃ word, m'.Fetches word) ∧
            m'.step.outcome ≠ .faulted m'.fetchFault) := by
  have hbuilt := builtFrom_of_new hnew
  obtain ⟨hvalid, rfl⟩ := eq_fresh_of_new hnew
  obtain ⟨m, hm, hbuilt, hnear⟩ := (near_fresh config hvalid _ []).acts hvalid hbuilt hpoke
  refine ⟨m, hm, hnear.pc_le, hnear.returns_le, ?_⟩
  intro hlost meanwhile hspares
  obtain ⟨m', hm', -⟩ := (hbuilt.of_layout (layout_step m)).acts hvalid meanwhile
  have hpc := fetches_after_lost hnear ((outcome_eq_fetchFault_iff m).1 hlost) hspares hm'
  refine ⟨m', hm', (exists_fetches_iff m').2 hpc, ?_⟩
  rw [ne_eq, outcome_eq_fetchFault_iff]
  omega

/-- `60FF BFFF` jumps as far as a jump can lead. There is no word there, and there is one again
after the next program has been loaded. -/
theorem near_at_farthest_jump :
    ∃ start m m', Machine.new Config.standard (Seed.key 0) = .ok start ∧
      start.acts [.load (.ofBytes [0x60, 0xff, 0xbf, 0xff]), .step, .step] = .ok m ∧
      m.registers.pc.toNat = 0x10fe ∧ m.step.outcome = .faulted m.fetchFault ∧
      m.step.machine.acts [.tick, .load (.ofBytes [0x12, 0x00]), .setKey 3 true] = .ok m' ∧
      (∃ word, m'.Fetches word) ∧ m'.step.outcome ≠ .faulted m'.fetchFault := by
  obtain ⟨start, m, hnew, hm, hpc⟩ : ∃ start m, Machine.new Config.standard (Seed.key 0) = .ok start ∧
      start.acts [.load (.ofBytes [0x60, 0xff, 0xbf, 0xff]), .step, .step] = .ok m ∧
      m.registers.pc.toNat = 0x10fe := exists_acts_of_view (by decide +kernel)
  obtain ⟨n, hn, -, -, hrecovers⟩ := near_and_recovers hnew
    (by simp : ∀ a ∈ [Action.load (.ofBytes [0x60, 0xff, 0xbf, 0xff]), .step, .step],
      ∀ registers, a ≠ .setRegisters registers)
  -- the machine of the theorem is the one that was computed
  obtain rfl := Except.ok.inj (hm.symm.trans hn)
  have hlost : m.step.outcome = .faulted m.fetchFault :=
    (outcome_eq_fetchFault_iff m).2 (by omega)
  obtain ⟨m', hm', hfetches, hfound⟩ := hrecovers hlost
    [.tick, .load (.ofBytes [0x12, 0x00]), .setKey 3 true] (by decide)
  exact ⟨start, m, m', hnew, hm, hpc, hlost, hm', hfetches, hfound⟩

end Machine

end Cosmac
