import Cosmac.Proofs.Machine.Faults
import Cosmac.Proofs.Machine.New

/-!
# Cosmac — parked programs

A step leaves the program where it is in three cases: the instruction jumps to itself, it returns
where no call is open, or it waits for a key and none is down. Time and keys go on meanwhile, and
nothing else does.

What keeps the program there is the instruction at the program counter, and that the step itself
leaves it alone. So the argument is the same for all three: everything that the program could have
changed stays, therefore the same instruction is due, therefore the next step leaves it alone too.
`Still` is what stays, with the number of faults, as one of the cases makes one at every step. The
run lemma is stated once, for a condition `P` under which a step leaves the program, which is that
no key is down for the third case and nothing for the others.

* `due_of_idle`, `due_of_stackUnderflow` — which instructions park a program for good.
* `Machine.Still` is what stays; `still_of_acts` — it stays along a history.
* `idle_after_acts`, `stackUnderflow_after_acts` and `waiting_after_acts` — the three cases.
* `parked_until_key` puts them together.
-/

namespace Cosmac

/-- Whether the host keeps its hands off the program: it takes steps, and sees to timers and keys.
-/
def Action.handsOff : Action → Bool
  | .step | .setDelay _ | .setSound _ | .tick | .setKey .. | .releaseKeys => true
  | .load _ | .setRegisters _ | .reset => false

theorem Action.ne_reset {a : Action} (h : a.handsOff = true) : a ≠ .reset := by
  rintro rfl
  contradiction

namespace Keypad

/-- Whether no key is down. -/
def NoneDown (k : Keypad) : Prop :=
  ∀ key : Fin 16, k.isDown? key.val = some false

/-- No key is the lowest one down exactly if none is down. -/
theorem first?_eq_none_iff_noneDown (k : Keypad) : k.first? = none ↔ k.NoneDown := by
  simp only [first?_eq_none_iff, NoneDown, isDown?_eq_some_iff]

end Keypad

theorem Flow.skipIf_ne_park (condition : Bool) : Flow.skipIf condition ≠ .park := by
  cases condition with
  | _ => nofun

namespace Machine

/-- Nothing that the program can have done tells the second machine from the first; there have been
`faults` faults since. -/
structure Still (m m' : Machine) (faults : Nat) : Prop where
  registers : m'.registers = m.registers
  memory : m'.memory = m.memory
  stack : m'.stack = m.stack
  screen : m'.screen = m.screen
  generator : m'.generator = m.generator
  dialect : m'.dialect = m.dialect
  faults : m'.faults = m.faults + faults

theorem Still.refl (m : Machine) : m.Still m 0 :=
  ⟨rfl, rfl, rfl, rfl, rfl, rfl, rfl⟩

/-- Two stretches make one, and their faults add up. -/
theorem Still.trans {m n p : Machine} {j k : Nat} (h : m.Still n j) (h' : n.Still p k) :
    m.Still p (j + k) where
  registers := h'.registers.trans h.registers
  memory := h'.memory.trans h.memory
  stack := h'.stack.trans h.stack
  screen := h'.screen.trans h.screen
  generator := h'.generator.trans h.generator
  dialect := h'.dialect.trans h.dialect
  faults := by rw [h'.faults, h.faults, Nat.add_assoc]

/-- The same instruction stays due. -/
theorem Still.due_iff {m n : Machine} {k : Nat} (h : m.Still n k) (i : Instruction) :
    n.Due i ↔ m.Due i := by
  simp only [Due, Fetches, h.memory, h.registers]

/-! ## Steps that park

First which instruction it was, from the outcome of the step; then what the step has done, from the
instruction. -/

/-- Only a jump can be to the instruction itself. -/
theorem eq_jump_of_park {m : Machine} {i : Instruction} {e : Effect} (h : m.perform i = .ok e)
    (hflow : e.flow = .park) : i = .jump m.registers.pc := by
  cases i with
  | jump target =>
    obtain rfl := Except.ok.inj h
    -- a jump elsewhere goes there
    by_cases htarget : target = m.registers.pc
    · rw [htarget]
    · rw [Effect.goto, if_neg htarget] at hflow
      contradiction
  | draw x y rows | decimal x | save x | restore x =>
    obtain ⟨_, -, rfl⟩ := (orRefuse_eq_ok_iff _ _ _ _).1 h
    contradiction
  | skipIfKey x | skipUnlessKey x =>
    obtain ⟨down, -, rfl⟩ := (orRefuse_eq_ok_iff _ _ _ _).1 h
    exact absurd hflow (Flow.skipIf_ne_park _)
  | skipIf x nn | skipUnless x nn | skipIfSame x y | skipUnlessSame x y =>
    obtain rfl := Except.ok.inj h
    exact absurd hflow (Flow.skipIf_ne_park _)
  | leave | call target | waitKey x =>
    simp only [perform, refuse] at h
    split at h
    all_goals
      first
        | contradiction
        | obtain rfl := Except.ok.inj h
          contradiction
  | unknown word => contradiction
  | _ =>
    obtain rfl := Except.ok.inj h
    contradiction

/-- A step is idle only where its instruction parks. -/
theorem flow_of_settle_idle {m : Machine} {e : Effect} (h : (m.settle e).outcome = .idle) :
    e.flow = .park := by
  unfold settle at h
  cases hflow : e.flow with
  | park => rfl
  | _ =>
    rw [hflow] at h
    contradiction

/-- A step is idle on a jump to itself, and on nothing else. -/
theorem due_of_idle {m : Machine} (h : m.step.outcome = .idle) :
    m.Due (.jump m.registers.pc) := by
  cases hword : m.memory.ram.word? m.registers.pc.toNat with
  | error range =>
    rw [step_of_fetch_error hword] at h
    contradiction
  | ok word =>
    rw [step_of_fetches hword] at h
    cases hperform : m.perform (Instruction.decode word) with
    | error refusal =>
      rw [(execute_of_refusal hperform).1] at h
      contradiction
    | ok e =>
      rw [(execute_of_perform hperform).1] at h
      -- only a jump to itself parks
      exact ⟨word, hword, eq_jump_of_park hperform (flow_of_settle_idle h)⟩

/-- A step finds no call to return from on a return, and on nothing else. -/
theorem due_of_stackUnderflow {m : Machine} {addr : UInt16}
    (h : m.step.outcome = .faulted (.stackUnderflow addr)) :
    m.registers.pc = addr ∧ m.Due .leave ∧ m.stack.depth = 0 := by
  obtain ⟨pc, idle, hfaults⟩ := faults_of_faulted h
  cases hfaults with
  | leave due hempty => exact ⟨rfl, due, hempty⟩

/-- A jump to itself sets the marker, and that is all. -/
theorem step_of_due_jump {m : Machine} (due : m.Due (.jump m.registers.pc)) :
    m.step.outcome = .idle ∧ m.step.machine = { m with idleAt := some m.registers.pc } := by
  have hperform : m.perform (.jump m.registers.pc) = .ok (.goto m .park) := by
    rw [perform, if_pos rfl]
  rw [due.step_eq, execute, hperform]
  exact ⟨rfl, rfl⟩

/-- A return with no call open is counted as a fault, and that is all. -/
theorem step_of_due_leave {m : Machine} (due : m.Due .leave) (hempty : m.stack.depth = 0) :
    m.step.outcome = .faulted (.stackUnderflow m.registers.pc) ∧
      m.step.machine = { m with idleAt := none, faults := m.faults + 1 } :=
  (Faults.leave due hempty).outcome_and_machine

/-- To wait for a key with none down takes the marker away, and that is all. -/
theorem step_of_noneDown {m : Machine} {x : Reg} (due : m.Due (.waitKey x))
    (hnone : m.keypad.NoneDown) :
    m.step.outcome = .waiting ∧ m.step.machine = { m with idleAt := none } := by
  have hperform : m.perform (.waitKey x) = .ok (.goto m .wait) := by
    simp only [perform, (Keypad.first?_eq_none_iff_noneDown _).2 hnone]
  rw [due.step_eq, execute, hperform]
  exact ⟨rfl, rfl⟩

/-- The lowest key that is down goes to the register, and the program goes on. -/
theorem step_of_key {m : Machine} {x : Reg} {key : Fin 16} (due : m.Due (.waitKey x))
    (hfirst : m.keypad.first? = some key) :
    m.step.outcome = .executed ∧ m.step.machine = { m with
      registers := { m.registers.set x (UInt8.ofNat key.val) with pc := m.registers.pc + 2 }
      idleAt := none } := by
  have hperform : m.perform (.waitKey x) = .ok (.next (m.setReg x (UInt8.ofNat key.val))) := by
    simp only [perform, hfirst]
  rw [due.step_eq, execute, hperform]
  exact ⟨rfl, rfl⟩

/-! ## Histories

By induction on the actions. Each step adds the same number of faults, which is one or none. -/

/-- What the host does to timers and keys is nothing to the program. -/
theorem still_of_act {m : Machine} {a : Action} {r : Reaction} (hstep : a ≠ .step)
    (hands : a.handsOff = true) (hact : m.act a = .ok r) : m.Still r.machine 0 := by
  cases a with
  | step => exact absurd rfl hstep
  | load source | setRegisters registers | reset => contradiction
  | _ =>
    obtain rfl := Except.ok.inj hact
    exact ⟨rfl, rfl, rfl, rfl, rfl, rfl, rfl⟩

/-- **A program that every step leaves where it is stays there**, if a step with `P` leaves it and
steps are taken with `P` alone. -/
theorem still_of_acts {m : Machine} {P : Machine → Prop} {k : Nat}
    (hstep : ∀ n j, m.Still n j → P n → n.Still n.step.machine k) {actions : List Action}
    (hands : ∀ a ∈ actions, a.handsOff = true) {n n' : Machine} {j : Nat} (hn : m.Still n j)
    (hP : n.AtSteps P actions) (hacts : n.acts actions = .ok n') :
    m.Still n' (j + k * actions.count .step) := by
  induction actions generalizing n j with
  | nil =>
    obtain rfl := Except.ok.inj hacts
    exact hn
  | cons a rest ih =>
    have hrest : ∀ b ∈ rest, b.handsOff = true := fun b hb => hands b (List.mem_cons_of_mem a hb)
    obtain ⟨r, hact⟩ := exists_act_of_ne_reset n (Action.ne_reset (hands a List.mem_cons_self))
    rw [acts_cons hact] at hacts
    -- a step leaves the program with its faults, and any other action with none
    by_cases ha : a = .step
    · subst ha
      have hhead : n.Still r.machine k := by
        obtain rfl := Except.ok.inj hact
        exact hstep n j hn (hP.1 rfl)
      have hall := ih hrest (hn.trans hhead) (hP.2 r hact) hacts
      rwa [List.count_cons_self, Nat.mul_succ, Nat.add_comm (k * _), ← Nat.add_assoc]
    · have hhead : n.Still r.machine 0 := still_of_act ha (hands a List.mem_cons_self) hact
      have hall := ih hrest (hn.trans hhead) (hP.2 r hact) hacts
      rwa [List.count_cons_of_ne ha]

/-- What always holds, holds wherever a step is taken. -/
theorem atSteps_of_forall {P : Machine → Prop} (h : ∀ n, P n) (m : Machine)
    (actions : List Action) : m.AtSteps P actions := by
  induction actions generalizing m with
  | nil => trivial
  | cons a rest ih => exact ⟨fun _ => h m, fun r _ => ih r.machine⟩

section

variable {m m' : Machine} {actions : List Action} (hands : ∀ a ∈ actions, a.handsOff = true)
  (hacts : m.acts actions = .ok m')

include hands hacts

/-- A program that is idle stays so. -/
theorem idle_after_acts (hidle : m.step.outcome = .idle) :
    m.Still m' 0 ∧ m'.step.outcome = .idle ∧
      m'.step.machine = { m' with idleAt := some m'.registers.pc } := by
  have due {n : Machine} {j : Nat} (hn : m.Still n j) : n.Due (.jump n.registers.pc) := by
    rw [hn.due_iff, hn.registers]
    exact due_of_idle hidle
  have hstill : m.Still m' (0 + 0 * actions.count .step) := by
    refine still_of_acts ?_ hands (.refl m) (atSteps_of_forall (fun _ => trivial) m actions) hacts
    intro n j hn _
    rw [(step_of_due_jump (due hn)).2]
    exact ⟨rfl, rfl, rfl, rfl, rfl, rfl, rfl⟩
  rw [Nat.zero_mul] at hstill
  exact ⟨hstill, step_of_due_jump (due hstill)⟩

/-- A program with no call to return from makes a fault at every step. -/
theorem stackUnderflow_after_acts {addr : UInt16}
    (hfault : m.step.outcome = .faulted (.stackUnderflow addr)) :
    m.Still m' (actions.count .step) ∧ m'.step.outcome = .faulted (.stackUnderflow addr) ∧
      m'.step.machine = { m' with idleAt := none, faults := m'.faults + 1 } := by
  obtain ⟨rfl, due, hempty⟩ := due_of_stackUnderflow hfault
  -- a machine that is still where it was makes the same fault again
  have hstep {n : Machine} {j : Nat} (hn : m.Still n j) :
      n.step.outcome = .faulted (.stackUnderflow m.registers.pc) ∧
        n.step.machine = { n with idleAt := none, faults := n.faults + 1 } := by
    rw [← hn.registers]
    exact step_of_due_leave ((hn.due_iff _).2 due) (by rw [hn.stack]; exact hempty)
  have hstill : m.Still m' (0 + 1 * actions.count .step) := by
    refine still_of_acts ?_ hands (.refl m) (atSteps_of_forall (fun _ => trivial) m actions) hacts
    intro n j hn _
    rw [(hstep hn).2]
    exact ⟨rfl, rfl, rfl, rfl, rfl, rfl, rfl⟩
  -- one fault for each step
  rw [Nat.zero_add, Nat.one_mul] at hstill
  exact ⟨hstill, hstep hstill⟩

/-- A program that waits for a key waits as long as no step finds one. -/
theorem waiting_after_acts {x : Reg} (due : m.Due (.waitKey x))
    (hkeys : m.AtSteps (fun n => n.keypad.NoneDown) actions) :
    m.Still m' 0 ∧ m'.Due (.waitKey x) := by
  have hstill : m.Still m' (0 + 0 * actions.count .step) := by
    refine still_of_acts ?_ hands (.refl m) hkeys hacts
    intro n j hn hnone
    rw [(step_of_noneDown ((hn.due_iff _).2 due) hnone).2]
    exact ⟨rfl, rfl, rfl, rfl, rfl, rfl, rfl⟩
  rw [Nat.zero_mul] at hstill
  exact ⟨hstill, (hstill.due_iff _).2 due⟩

end

/-- **Parked programs stay parked.** Let the host take steps, and see to timers and keys. A program
that is idle, or has no call to return from, has the same outcome at every step. A program that
waits for a key waits for as long as no step finds one down, and goes on with the lowest one at the
first step that does. Nothing that the program could have changed is changed meanwhile. -/
theorem parked_until_key (m : Machine) (actions : List Action)
    (hands : ∀ a ∈ actions, a.handsOff = true) :
    ∃ m', m.acts actions = .ok m' ∧
      (m.step.outcome = .idle →
        m.Still m' 0 ∧ m'.step.outcome = .idle ∧
          m'.step.machine = { m' with idleAt := some m'.registers.pc }) ∧
      (∀ addr, m.step.outcome = .faulted (.stackUnderflow addr) →
        m.Still m' (actions.count .step) ∧
          m'.step.outcome = .faulted (.stackUnderflow addr) ∧
          m'.step.machine = { m' with idleAt := none, faults := m'.faults + 1 }) ∧
      (∀ x, m.Due (.waitKey x) → m.AtSteps (fun n => n.keypad.NoneDown) actions →
        m.Still m' 0 ∧
          (m'.keypad.NoneDown →
            m'.step.outcome = .waiting ∧ m'.step.machine = { m' with idleAt := none }) ∧
          (¬ m'.keypad.NoneDown →
            ∃ key : Fin 16, m'.keypad.isDown? key.val = some true ∧
              (∀ lower < key, m'.keypad.isDown? lower.val = some false) ∧
              m'.step.outcome = .executed ∧ m'.step.machine = { m' with
                registers := { m'.registers.set x (UInt8.ofNat key.val) with
                  pc := m'.registers.pc + 2 }
                idleAt := none })) := by
  obtain ⟨m', hacts⟩ := exists_acts_of_ne_reset m fun a ha => Action.ne_reset (hands a ha)
  refine ⟨m', hacts, idle_after_acts hands hacts, ?_, ?_⟩
  · intro addr hfault
    exact stackUnderflow_after_acts hands hacts hfault
  · intro x due hkeys
    obtain ⟨hstill, hdue⟩ := waiting_after_acts hands hacts due hkeys
    refine ⟨hstill, step_of_noneDown hdue, ?_⟩
    intro hdown
    -- a key is down now, so one of them is the lowest
    cases hfirst : m'.keypad.first? with
    | none => exact absurd ((Keypad.first?_eq_none_iff_noneDown _).1 hfirst) hdown
    | some key =>
      obtain ⟨hkey, hlower⟩ := (Keypad.first?_eq_some_iff _ _).1 hfirst
      exact ⟨key, hkey, hlower, step_of_key hdue hfirst⟩

/-- `1200` is idle, `00EE` has no call to return from, and `F30A` waits until the keys 9 and 5 are
pressed. -/
theorem parked_programs :
    ∃ h : Config.standard.Valid,
      let program := Ram.zero.overwrite 0x200 [0x12, 0x00, 0x00, 0xee, 0xf3, 0x0a]
      let m (pc : UInt16) := { fresh Config.standard h (.ofSeed 0) [] with
        memory := ⟨program, 0x200, 0x50, 6⟩
        registers := .start pc }
      let actions := [Action.step, .tick, .step, .setKey 9 true, .setKey 5 true]
      (∀ a ∈ actions, a.handsOff = true) ∧
        (m 0x200).step.outcome = .idle ∧
        (∃ m', (m 0x200).acts actions = .ok m' ∧ (m 0x200).Still m' 0 ∧
          m'.step.outcome = .idle) ∧
        (m 0x202).step.outcome = .faulted (.stackUnderflow 0x202) ∧
        (∃ m', (m 0x202).acts actions = .ok m' ∧ (m 0x202).Still m' 2 ∧
          m'.step.outcome = .faulted (.stackUnderflow 0x202)) ∧
        (m 0x204).Due (.waitKey 3) ∧
        (m 0x204).AtSteps (fun n => n.keypad.NoneDown) actions ∧
        ∃ m', (m 0x204).acts actions = .ok m' ∧ ¬ m'.keypad.NoneDown ∧
          m'.step.outcome = .executed ∧ m'.step.machine = { m' with
            registers := { m'.registers.set 3 5 with pc := m'.registers.pc + 2 }
            idleAt := none } := by
  refine ⟨(Config.check_eq_ok_iff _).1 rfl, ?_⟩
  intro program m actions
  have hands : ∀ a ∈ actions, a.handsOff = true := by decide
  have hidle : (m 0x200).step.outcome = .idle := by decide +kernel
  have hfault : (m 0x202).step.outcome = .faulted (.stackUnderflow 0x202) := by decide +kernel
  have hwait : (m 0x204).Due (.waitKey 3) := ⟨0xf30a, by decide +kernel, by decide⟩
  -- no key is down at either of the two steps: the keys are pressed after them
  have hkeys : (m 0x204).AtSteps (fun n => n.keypad.NoneDown) actions := by
    have hnone : (m 0x204).keypad.NoneDown :=
      (Keypad.first?_eq_none_iff_noneDown _).1 (by decide +kernel)
    have hnone' : ((m 0x204).step.machine.tick 1).keypad.NoneDown :=
      (Keypad.first?_eq_none_iff_noneDown _).1 (by decide +kernel)
    refine ⟨fun _ => hnone, ?_⟩
    rintro r hr
    obtain rfl := Except.ok.inj hr
    refine ⟨nofun, ?_⟩
    rintro r hr
    obtain rfl := Except.ok.inj hr
    exact ⟨fun _ => hnone', fun _ _ => ⟨nofun, fun _ _ => ⟨nofun, fun _ _ => trivial⟩⟩⟩
  obtain ⟨m₁, hacts₁, hparked₁, -⟩ := parked_until_key (m 0x200) actions hands
  obtain ⟨m₂, hacts₂, -, hparked₂, -⟩ := parked_until_key (m 0x202) actions hands
  obtain ⟨m₃, hacts₃, -, -, hparked₃⟩ := parked_until_key (m 0x204) actions hands
  obtain ⟨hstill₁, houtcome₁, -⟩ := hparked₁ hidle
  obtain ⟨hstill₂, houtcome₂, -⟩ := hparked₂ _ hfault
  obtain ⟨-, -, hexecuted⟩ := hparked₃ 3 hwait hkeys
  -- of the two keys that are down at the end, the lower one
  have hfirst : m₃.keypad.first? = some 5 := by
    obtain rfl := Except.ok.inj hacts₃
    decide +kernel
  have hdown : ¬ m₃.keypad.NoneDown := by
    rw [← Keypad.first?_eq_none_iff_noneDown, hfirst]
    nofun
  obtain ⟨key, hkey, hlower, houtcome₃, hmachine⟩ := hexecuted hdown
  have hfive : some key = some 5 :=
    ((Keypad.first?_eq_some_iff _ _).2 ⟨hkey, hlower⟩).symm.trans hfirst
  obtain rfl := Option.some.inj hfive
  exact ⟨hands, hidle, ⟨m₁, hacts₁, hstill₁, houtcome₁⟩, hfault, ⟨m₂, hacts₂, hstill₂, houtcome₂⟩,
    hwait, hkeys, m₃, hacts₃, hdown, houtcome₃, hmachine⟩

end Machine

end Cosmac
