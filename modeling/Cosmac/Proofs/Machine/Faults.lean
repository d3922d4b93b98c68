import Cosmac.Proofs.Instruction.Form
import Cosmac.Proofs.Machine.Action

/-!
# Cosmac — faults of a step

Which steps fault, and what a fault leaves behind.

The causes are an inductive family, one constructor for each, with the fault, the program counter
and the marker that come of it. It is meant to be read as a table; nothing in it mentions how a step
is carried out. Each access has one lemma that says when it fails and with which fault. With those,
the instructions that are refused are found to be in the table, and the entries of the table to be
refused. Since an instruction that is refused has changed nothing, the machine after a fault is
known from the table as well.

* `Machine.Due` — the instruction that the next step carries out.
* `Machine.Faults` lists the causes, each with its fault, the place where the program goes on, and
  the marker of idle loops after it.
* `faults_of_faulted` and `Faults.outcome_and_machine` — a step that faults has one of the causes,
  and one that has one faults.
* `faulted_iff_and_machine` — a step faults for these causes and for no other, and changes nothing
  then but the program counter, the count of faults and the marker.
-/

namespace Cosmac

namespace Machine

/-! ## Causes

One is the failed fetch, and all others are for an instruction that is due. -/

/-- The word at the program counter. -/
def Fetches (m : Machine) (word : UInt16) : Prop :=
  m.memory.ram.word? m.registers.pc.toNat = .ok word

/-- The same, in a form that can be computed. -/
theorem fetches_iff (m : Machine) (word : UInt16) :
    m.Fetches word ↔ (m.memory.ram.word? m.registers.pc.toNat).toOption = some word := by
  unfold Fetches
  cases m.memory.ram.word? m.registers.pc.toNat with
  | error range => simp [Except.toOption]
  | ok w => simp [Except.toOption]

instance (m : Machine) (word : UInt16) : Decidable (m.Fetches word) :=
  decidable_of_iff _ (m.fetches_iff word).symm

/-- The instruction that the next step carries out. -/
def Due (m : Machine) (i : Instruction) : Prop :=
  ∃ word, m.Fetches word ∧ Instruction.decode word = i

/-- At most one instruction is due. -/
theorem Due.eq_decode {m : Machine} {i : Instruction} (due : m.Due i) {word : UInt16}
    (hfetch : m.Fetches word) : i = Instruction.decode word := by
  obtain ⟨word', hfetch', rfl⟩ := due
  rw [Except.ok.inj (hfetch'.symm.trans hfetch)]

/-- The causes of a fault, the program counter after it, and the marker of idle loops. -/
inductive Faults (m : Machine) : Fault → UInt16 → Option UInt16 → Prop
  /-- Two bytes are not left at the program counter. The program goes on at the bottom. -/
  | fetch (h : 0xffe < m.registers.pc.toNat) :
    Faults m (.memoryOutOfBounds m.registers.pc ⟨m.registers.pc.toNat, 2⟩)
      ((m.registers.pc + 2) % 4096) m.idleAt
  | draw {x y : Reg} {rows : UInt8} (due : m.Due (.draw x y rows))
    (h : 4096 < m.registers.i.toNat + rows.toNat) :
    Faults m (.memoryOutOfBounds m.registers.pc ⟨m.registers.i.toNat, rows.toNat⟩)
      (m.registers.pc + 2) none
  | decimal {x : Reg} (due : m.Due (.decimal x)) (h : 4096 < m.registers.i.toNat + 3) :
    Faults m (.memoryOutOfBounds m.registers.pc ⟨m.registers.i.toNat, 3⟩)
      (m.registers.pc + 2) none
  | save {x : Reg} (due : m.Due (.save x)) (h : 4096 < m.registers.i.toNat + (x.val + 1)) :
    Faults m (.memoryOutOfBounds m.registers.pc ⟨m.registers.i.toNat, x.val + 1⟩)
      (m.registers.pc + 2) none
  | restore {x : Reg} (due : m.Due (.restore x))
    (h : 4096 < m.registers.i.toNat + (x.val + 1)) :
    Faults m (.memoryOutOfBounds m.registers.pc ⟨m.registers.i.toNat, x.val + 1⟩)
      (m.registers.pc + 2) none
  | call {target : UInt16} (due : m.Due (.call target)) (h : m.stack.depth = 16) :
    Faults m (.stackOverflow m.registers.pc) (m.registers.pc + 2) none
  /-- A return has nowhere to go: the program stays on it. -/
  | leave (due : m.Due .leave) (h : m.stack.depth = 0) :
    Faults m (.stackUnderflow m.registers.pc) m.registers.pc none
  | skipIfKey {x : Reg} (due : m.Due (.skipIfKey x)) (h : 0xf < (m.get x).toNat) :
    Faults m (.keyOutOfRange m.registers.pc (m.get x)) (m.registers.pc + 2) none
  | skipUnlessKey {x : Reg} (due : m.Due (.skipUnlessKey x)) (h : 0xf < (m.get x).toNat) :
    Faults m (.keyOutOfRange m.registers.pc (m.get x)) (m.registers.pc + 2) none
  | unknown {word : UInt16} (fetched : m.Fetches word) (h : ¬ Instruction.Defined word) :
    Faults m (.unknownOpcode m.registers.pc word) (m.registers.pc + 2) none

/-! ## When an access fails

An access that fails says which fault, so each of these is an equivalence with the fault on both
sides. -/

/-- A range can be read unless it goes past the end of memory. -/
theorem access_read?_error_iff (m : Machine) (start len : Nat) (fault : Fault) :
    m.access (m.memory.ram.read? start len) = .error fault ↔
      4096 < start + len ∧ fault = .memoryOutOfBounds m.registers.pc ⟨start, len⟩ := by
  unfold access Ram.read?
  by_cases h : start + len ≤ Ram.size
  · have hle : ¬ 4096 < start + len := Nat.not_lt.2 h
    simp [if_pos h, hle]
  · have hlt : 4096 < start + len := Nat.lt_of_not_le h
    simp [if_neg h, hlt, eq_comm]

theorem writeAtIndex_error_iff (m : Machine) (data : List UInt8) (fault : Fault) :
    m.writeAtIndex data = .error fault ↔
      4096 < m.registers.i.toNat + data.length ∧
        fault = .memoryOutOfBounds m.registers.pc ⟨m.registers.i.toNat, data.length⟩ := by
  unfold writeAtIndex access Ram.write?
  by_cases h : m.registers.i.toNat + data.length ≤ Ram.size
  · have hle : ¬ 4096 < m.registers.i.toNat + data.length := Nat.not_lt.2 h
    simp [if_pos h, hle]
  · have hlt : 4096 < m.registers.i.toNat + data.length := Nat.lt_of_not_le h
    simp [if_neg h, hlt, eq_comm]

theorem testKey_error_iff (m : Machine) (key : UInt8) (fault : Fault) :
    m.testKey key = .error fault ↔
      0xf < key.toNat ∧ fault = .keyOutOfRange m.registers.pc key := by
  unfold testKey Keypad.isDown?
  by_cases h : key.toNat < 16
  · have hle : ¬ 0xf < key.toNat := by omega
    simp [Vector.getElem?_eq_getElem h, hle]
  · have hlt : 0xf < key.toNat := by omega
    simp [Vector.getElem?_eq_none (Nat.le_of_not_lt h), hlt, eq_comm]

/-- A word can be fetched up to the last pair of bytes. -/
theorem word?_error_iff (ram : Ram) (a : Nat) (range : OutOfBounds) :
    ram.word? a = .error range ↔ 0xffe < a ∧ range = ⟨a, 2⟩ := by
  unfold Ram.word?
  split
  · next h =>
    have hle : ¬ 0xffe < a := by omega
    simp [hle]
  · next h =>
    have hlt : 0xffe < a := by omega
    simp [hlt, eq_comm]

theorem pop?_eq_none_iff_depth (s : CallStack) : s.pop? = none ↔ s.depth = 0 := by
  rw [CallStack.pop?_eq_none_iff, ← List.length_eq_zero_iff, CallStack.length_live]

theorem push?_eq_none_iff_depth (s : CallStack) (addr : UInt16) :
    s.push? addr = none ↔ s.depth = 16 := by
  rw [CallStack.push?_eq_none_iff, CallStack.length_live]

/-! ## Instructions that are refused

From the refusal to the cause, and back. -/

/-- `V0` to `VX` are one register more than the number `X` says. -/
theorem length_upTo (r : Registers) (x : Reg) : (r.upTo x).length = x.val + 1 := by
  have hx : x.val < 16 := x.isLt
  simp only [Registers.upTo, List.length_take, Vector.length_toList]
  omega

/-- An instruction of memory that is refused has one of the causes. -/
theorem faults_of_perform {m : Machine} {word : UInt16} (hfetch : m.Fetches word) {r : Refusal}
    (h : m.perform (Instruction.decode word) = .error r) :
    m.Faults r.fault (if r.fault.staysPut then m.registers.pc else m.registers.pc + 2) none := by
  -- only what accesses memory, the stack or a key can be refused
  cases hdue : Instruction.decode word with
  | draw x y rows =>
    rw [hdue] at h
    obtain ⟨fault, hread, rfl⟩ := (orRefuse_eq_error_iff _ _ _ _).1 h
    obtain ⟨hlt, rfl⟩ := (access_read?_error_iff m _ _ _).1 hread
    exact .draw ⟨word, hfetch, hdue⟩ hlt
  | decimal x =>
    rw [hdue] at h
    obtain ⟨fault, hwrite, rfl⟩ := (orRefuse_eq_error_iff _ _ _ _).1 h
    obtain ⟨hlt, rfl⟩ := (writeAtIndex_error_iff m _ _).1 hwrite
    exact .decimal ⟨word, hfetch, hdue⟩ hlt
  | save x =>
    rw [hdue] at h
    obtain ⟨fault, hwrite, rfl⟩ := (orRefuse_eq_error_iff _ _ _ _).1 h
    obtain ⟨hlt, rfl⟩ := (writeAtIndex_error_iff m _ _).1 hwrite
    rw [length_upTo] at hlt ⊢
    exact .save ⟨word, hfetch, hdue⟩ hlt
  | restore x =>
    rw [hdue] at h
    obtain ⟨fault, hread, rfl⟩ := (orRefuse_eq_error_iff _ _ _ _).1 h
    obtain ⟨hlt, rfl⟩ := (access_read?_error_iff m _ _ _).1 hread
    exact .restore ⟨word, hfetch, hdue⟩ hlt
  | skipIfKey x =>
    rw [hdue] at h
    obtain ⟨fault, htest, rfl⟩ := (orRefuse_eq_error_iff _ _ _ _).1 h
    obtain ⟨hlt, rfl⟩ := (testKey_error_iff m _ _).1 htest
    exact .skipIfKey ⟨word, hfetch, hdue⟩ hlt
  | skipUnlessKey x =>
    rw [hdue] at h
    obtain ⟨fault, htest, rfl⟩ := (orRefuse_eq_error_iff _ _ _ _).1 h
    obtain ⟨hlt, rfl⟩ := (testKey_error_iff m _ _).1 htest
    exact .skipUnlessKey ⟨word, hfetch, hdue⟩ hlt
  | call target =>
    simp only [hdue, perform] at h
    split at h
    · contradiction
    · next hfull =>
      obtain rfl := Except.error.inj h
      exact .call ⟨word, hfetch, hdue⟩ ((push?_eq_none_iff_depth _ _).1 hfull)
  | leave =>
    simp only [hdue, perform] at h
    split at h
    · contradiction
    · next hempty =>
      obtain rfl := Except.error.inj h
      exact .leave ⟨word, hfetch, hdue⟩ ((pop?_eq_none_iff_depth _).1 hempty)
  | unknown w =>
    rw [hdue] at h
    obtain rfl := Except.error.inj h
    obtain ⟨rfl, hundefined⟩ := (Instruction.decode_eq_unknown_iff word w).1 hdue
    exact .unknown hfetch hundefined
  | waitKey x =>
    -- without a key it waits, which is no fault
    simp only [hdue, perform] at h
    split at h
    · contradiction
    · contradiction
  | _ =>
    rw [hdue] at h
    contradiction

/-- An instruction that is due is refused as a word. -/
theorem Due.refused {m : Machine} {i : Instruction} (due : m.Due i) {fault : Fault}
    (h : m.perform i = .error ⟨fault, m⟩) :
    ∃ word, m.Fetches word ∧ m.perform (Instruction.decode word) = .error ⟨fault, m⟩ := by
  obtain ⟨word, hfetch, rfl⟩ := due
  exact ⟨word, hfetch, h⟩

/-- Where there is a word, every cause is one for which its instruction is refused. -/
theorem perform_of_faults {m : Machine} {fault : Fault} {pc : UInt16} {idle : Option UInt16}
    (h : m.Faults fault pc idle) (hpc : m.registers.pc.toNat ≤ 0xffe) :
    (∃ word, m.Fetches word ∧ m.perform (Instruction.decode word) = .error ⟨fault, m⟩) ∧
      pc = (if fault.staysPut then m.registers.pc else m.registers.pc + 2) ∧ idle = none := by
  -- every other cause names an instruction, and its access fails on `m` itself
  cases h with
  | fetch hlt => exact absurd hlt (Nat.not_lt.2 hpc)
  | draw due hlt | restore due hlt =>
    have hread := (access_read?_error_iff m _ _ _).2 ⟨hlt, rfl⟩
    exact ⟨due.refused ((orRefuse_eq_error_iff _ _ _ _).2 ⟨_, hread, rfl⟩), rfl, rfl⟩
  | @decimal x due hlt =>
    have hwrite := (writeAtIndex_error_iff m (decimalDigits (m.get x)) _).2 ⟨hlt, rfl⟩
    exact ⟨due.refused ((orRefuse_eq_error_iff _ _ _ _).2 ⟨_, hwrite, rfl⟩), rfl, rfl⟩
  | @save x due hlt =>
    rw [← length_upTo m.registers x] at hlt ⊢
    have hwrite := (writeAtIndex_error_iff m (m.registers.upTo x) _).2 ⟨hlt, rfl⟩
    exact ⟨due.refused ((orRefuse_eq_error_iff _ _ _ _).2 ⟨_, hwrite, rfl⟩), rfl, rfl⟩
  | skipIfKey due hlt | skipUnlessKey due hlt =>
    have htest := (testKey_error_iff m _ _).2 ⟨hlt, rfl⟩
    exact ⟨due.refused ((orRefuse_eq_error_iff _ _ _ _).2 ⟨_, htest, rfl⟩), rfl, rfl⟩
  | @call target due hfull =>
    have hpush := (push?_eq_none_iff_depth m.stack (m.registers.pc + 2)).2 hfull
    have hrefused : m.perform (.call target) = .error ⟨.stackOverflow m.registers.pc, m⟩ := by
      simp only [perform, hpush, refuse]
    exact ⟨due.refused hrefused, rfl, rfl⟩
  | leave due hempty =>
    have hpop := (pop?_eq_none_iff_depth m.stack).2 hempty
    have hrefused : m.perform .leave = .error ⟨.stackUnderflow m.registers.pc, m⟩ := by
      simp only [perform, hpop, refuse]
    exact ⟨due.refused hrefused, rfl, rfl⟩
  | @unknown word hfetch hundefined =>
    have hdue : m.Due (.unknown word) :=
      ⟨word, hfetch, (Instruction.decode_eq_unknown_iff word word).2 ⟨rfl, hundefined⟩⟩
    exact ⟨hdue.refused rfl, rfl, rfl⟩

/-! ## Steps that fault

A step fails in one of two places, and which of them it is shows in whether a word could be fetched.
-/

/-- Where there is no word, the failed fetch is the one cause. -/
theorem Faults.of_no_word {m : Machine} {fault : Fault} {pc : UInt16} {idle : Option UInt16}
    (h : m.Faults fault pc idle) (hno : ∀ word, ¬ m.Fetches word) :
    fault = .memoryOutOfBounds m.registers.pc ⟨m.registers.pc.toNat, 2⟩ ∧
      pc = (m.registers.pc + 2) % 4096 ∧ idle = m.idleAt := by
  have hno' (i : Instruction) : ¬ m.Due i := by
    rintro ⟨word, hfetch, -⟩
    exact hno word hfetch
  cases h with
  | fetch => exact ⟨rfl, rfl, rfl⟩
  | unknown hfetch => exact absurd hfetch (hno _)
  | draw due | decimal due | save due | restore due | call due | leave due | skipIfKey due
  | skipUnlessKey due => exact absurd due (hno' _)

/-- An instruction that is carried out is no fault. -/
theorem settle_ne_faulted (m : Machine) (e : Effect) (fault : Fault) :
    (m.settle e).outcome ≠ .faulted fault := by
  unfold settle
  cases e.flow with
  | _ => nofun

theorem step_of_fetch_error {m : Machine} {range : OutOfBounds}
    (h : m.memory.ram.word? m.registers.pc.toNat = .error range) :
    m.step = ⟨.faulted (.memoryOutOfBounds m.registers.pc range),
      m.countFault.jumpTo ((m.registers.pc + 2) % 4096),
      [.faulted (.memoryOutOfBounds m.registers.pc range)]⟩ := by
  simp only [step, h]

theorem step_of_fetches {m : Machine} {word : UInt16} (h : m.Fetches word) :
    m.step = m.execute (Instruction.decode word) := by
  have hword : m.memory.ram.word? m.registers.pc.toNat = .ok word := h
  simp only [step, hword]

/-- A step carries out the instruction that is due. -/
theorem Due.step_eq {m : Machine} {i : Instruction} (due : m.Due i) : m.step = m.execute i := by
  obtain ⟨word, hfetch, rfl⟩ := due
  exact step_of_fetches hfetch

/-- Whatever faults has one of the causes. -/
theorem faults_of_faulted {m : Machine} {fault : Fault} (h : m.step.outcome = .faulted fault) :
    ∃ pc idle, m.Faults fault pc idle := by
  cases hword : m.memory.ram.word? m.registers.pc.toNat with
  | error range =>
    obtain ⟨hlt, rfl⟩ := (word?_error_iff _ _ _).1 hword
    rw [step_of_fetch_error hword] at h
    obtain rfl := Outcome.faulted.inj h
    exact ⟨_, _, .fetch hlt⟩
  -- an instruction was refused, and that is for one of the other causes
  | ok word =>
    rw [step_of_fetches hword] at h
    cases hperform : m.perform (Instruction.decode word) with
    | ok e =>
      rw [(execute_of_perform hperform).1] at h
      exact absurd h (settle_ne_faulted m e fault)
    | error r =>
      rw [(execute_of_refusal hperform).1] at h
      obtain rfl := Outcome.faulted.inj h
      exact ⟨_, _, faults_of_perform hword hperform⟩

/-- Every cause leads to its fault, and to nothing else than what is listed with it. -/
theorem Faults.outcome_and_machine {m : Machine} {fault : Fault} {pc : UInt16}
    {idle : Option UInt16} (h : m.Faults fault pc idle) :
    m.step.outcome = .faulted fault ∧ m.step.machine = { m with
      registers := { m.registers with pc }
      idleAt := idle
      faults := m.faults + 1 } := by
  cases hword : m.memory.ram.word? m.registers.pc.toNat with
  | error range =>
    -- no instruction is due, so no other cause applies
    have hno (word : UInt16) : ¬ m.Fetches word := by
      intro hfetch
      rw [Fetches, hword] at hfetch
      contradiction
    obtain ⟨-, rfl⟩ := (word?_error_iff _ _ _).1 hword
    obtain ⟨rfl, rfl, rfl⟩ := h.of_no_word hno
    rw [step_of_fetch_error hword]
    exact ⟨rfl, rfl⟩
  | ok word =>
    have hpc : m.registers.pc.toNat ≤ 0xffe := by
      refine Nat.le_of_not_lt ?_
      intro hlt
      rw [(word?_error_iff m.memory.ram _ ⟨m.registers.pc.toNat, 2⟩).2 ⟨hlt, rfl⟩] at hword
      contradiction
    obtain ⟨⟨word', hfetch, hrefused⟩, rfl, rfl⟩ := perform_of_faults h hpc
    rw [step_of_fetches hfetch]
    exact execute_of_refusal hrefused

/-- **A step faults exactly for the listed causes, and it is atomic then**: the program counter, the
count of faults and the idle marker apart, the machine is what it was. -/
theorem faulted_iff_and_machine (m : Machine) (fault : Fault) :
    (m.step.outcome = .faulted fault ↔ ∃ pc idle, m.Faults fault pc idle) ∧
      ∀ pc idle, m.Faults fault pc idle → m.step.machine = { m with
        registers := { m.registers with pc }
        idleAt := idle
        faults := m.faults + 1 } := by
  constructor
  · constructor
    · exact faults_of_faulted
    · rintro ⟨pc, idle, h⟩
      exact h.outcome_and_machine.1
  · intro pc idle h
    exact h.outcome_and_machine.2

/-- A sprite without rows faults at the index 4097, which is past the end of memory. -/
theorem faulted_by_empty_sprite :
    let m : Machine := {
      memory := ⟨⟨Vector.replicate 4096 0xd0⟩, 0x200, 0, 0⟩
      registers := { Registers.start 0x200 with i := 4097 }
      stack := .empty
      screen := ⟨.blank 64 32, by decide, by decide⟩
      timers := .idle
      keypad := .released
      dialect := Config.standard.dialect
      generator := .ofSeed 0
      idleAt := none
      faults := 0 }
    let fault := Fault.memoryOutOfBounds 0x200 ⟨4097, 0⟩
    m.Faults fault 0x202 none ∧ m.step.outcome = .faulted fault ∧
      m.step.machine = { m with
        registers := { m.registers with pc := 0x202 }
        faults := 1 } := by
  intro m fault
  have hfaults : m.Faults fault 0x202 none := by
    have hfetch : m.Fetches 0xd0d0 := by
      have hword : m.memory.ram.word? 0x200 = .ok (wordOfBytes 0xd0 0xd0) := by
        simp [m, Ram.word?]
      exact hword
    have due : m.Due (.draw 0 13 0) := ⟨0xd0d0, hfetch, by decide⟩
    exact .draw due (by decide)
  obtain ⟨hiff, hmachine⟩ := faulted_iff_and_machine m fault
  exact ⟨hfaults, hiff.2 ⟨_, _, hfaults⟩, hmachine _ _ hfaults⟩

end Machine

end Cosmac
