import Cosmac.Machine.Step

/-!
# Cosmac — actions on a machine

Everything that the surroundings of a machine can do to it, as data: load a program, let it take a
step, write its registers and timers, let time pass, press and lift keys, reset it. `Machine.act`
carries out one action and `Machine.acts` a history of them.

Most of what is said about machines is said of every history, so `of_acts` is the induction that the
other modules use: what all allowed actions keep, a history of them keeps. What an action does apart
from steps is small, and is described here by the fields that it can change. A step is described by
what becomes of an instruction that is carried out and of one that is refused.

* `of_acts` — an invariant of the actions is an invariant of histories.
* `exists_of_act` and `exists_memory_of_reset?` — the fields that the other actions change.
* `machine_of_refusal` — an instruction that faults has changed nothing; `execute_of_refusal` is
  what becomes of it.
* `layout_step` — a step leaves alone what was fixed when the machine was built and loaded: the
  dialect, the size of the screen, where glyphs and program lie, and the program's length.
* `layout_of_acts` — so does every history without a load.
-/

namespace Cosmac

/-- What the surroundings of a machine can do to it. -/
inductive Action
  /-- Load a program from a source, which may fail. -/
  | load (source : Source)
  /-- Fetch, decode and carry out one instruction. -/
  | step
  /-- Write any values into the registers, the index and the program counter. -/
  | setRegisters (registers : Registers)
  | setDelay (value : UInt8)
  | setSound (value : UInt8)
  /-- Let one timer interval pass. -/
  | tick
  | setKey (key : Nat) (down : Bool)
  | releaseKeys
  | reset
  deriving DecidableEq

/-- What an action answers. -/
inductive Reply
  | quiet
  | loaded (result : Except Failure Nat)
  | stepped (outcome : Outcome)

/-- A finished action: the machine after it, its answer, and what was reported. -/
structure Reaction where
  machine : Machine
  reply : Reply
  log : List Event

namespace Machine

/-- Carries out an action. A load that fails changes nothing. -/
def act (m : Machine) : Action → Except Crash Reaction
  | .load source =>
    match m.load source with
    | .error e => .ok ⟨m, .loaded (.error e), []⟩
    | .ok (len, m', loaded) => .ok ⟨m', .loaded (.ok len), [loaded]⟩
  | .step => .ok ⟨m.step.machine, .stepped m.step.outcome, m.step.log⟩
  | .setRegisters registers => .ok ⟨{ m with registers }, .quiet, []⟩
  | .setDelay value => .ok ⟨m.setDelay value, .quiet, []⟩
  | .setSound value => .ok ⟨m.setSound value, .quiet, []⟩
  | .tick => .ok ⟨m.tick 1, .quiet, []⟩
  | .setKey key down => .ok ⟨m.setKey key down, .quiet, []⟩
  | .releaseKeys => .ok ⟨m.releaseKeys, .quiet, []⟩
  | .reset =>
    match m.reset? with
    | .error crash => .error crash
    | .ok m' => .ok ⟨m', .quiet, []⟩

/-- The machine after a history of actions. -/
def acts (m : Machine) : List Action → Except Crash Machine
  | [] => .ok m
  | a :: rest =>
    match m.act a with
    | .error crash => .error crash
    | .ok reaction => reaction.machine.acts rest

theorem acts_cons {m : Machine} {a : Action} {r : Reaction} (h : m.act a = .ok r)
    (rest : List Action) : m.acts (a :: rest) = r.machine.acts rest := by
  simp only [acts, h]

theorem acts_cons_eq_ok_iff (m m' : Machine) (a : Action) (rest : List Action) :
    m.acts (a :: rest) = .ok m' ↔ ∃ r, m.act a = .ok r ∧ r.machine.acts rest = .ok m' := by
  cases hact : m.act a with
  | error crash => simp only [acts, hact, reduceCtorEq, false_and, exists_false]
  | ok r => simp only [acts_cons hact, Except.ok.injEq, exists_eq_left']

/-- **What every action keeps, a history keeps**: `P`, if it is kept by the actions that are
allowed. -/
theorem of_acts {P : Machine → Prop} {allowed : Action → Prop}
    (hact : ∀ {m : Machine} {a : Action} {r : Reaction},
      allowed a → P m → m.act a = .ok r → P r.machine)
    {actions : List Action} (hallowed : ∀ a ∈ actions, allowed a) {m m' : Machine} (hP : P m)
    (h : m.acts actions = .ok m') : P m' := by
  induction actions generalizing m with
  | nil =>
    obtain rfl := Except.ok.inj h
    exact hP
  | cons a rest ih =>
    obtain ⟨r, hr, hrest⟩ := (acts_cons_eq_ok_iff _ _ _ _).1 h
    -- the first action keeps it, and the others from there
    have hhead : P r.machine := hact (hallowed a List.mem_cons_self) hP hr
    exact ih (fun b hb => hallowed b (List.mem_cons_of_mem a hb)) hhead hrest

/-- A load concerns memory alone, whether it succeeds or not. -/
theorem exists_memory_of_act_load {m : Machine} {source : Source} {r : Reaction}
    (h : m.act (.load source) = .ok r) : ∃ memory, r.machine = { m with memory } := by
  simp only [act] at h
  split at h
  · obtain rfl := Except.ok.inj h
    exact ⟨m.memory, rfl⟩
  · next hload =>
    obtain rfl := Except.ok.inj h
    obtain ⟨memory, -, rfl⟩ := (load_eq_ok_iff _ _ _ _ _).1 hload
    exact ⟨memory, rfl⟩

/-- What is neither a step nor a reset concerns memory, registers, timers and keys. -/
theorem exists_of_act {m : Machine} {a : Action} (hstep : a ≠ .step) (hreset : a ≠ .reset)
    {r : Reaction} (h : m.act a = .ok r) :
    ∃ memory registers timers keypad,
      r.machine = { m with memory, registers, timers, keypad } := by
  cases a with
  | step => exact absurd rfl hstep
  | reset => exact absurd rfl hreset
  | load source =>
    obtain ⟨memory, hmachine⟩ := exists_memory_of_act_load h
    exact ⟨memory, m.registers, m.timers, m.keypad, hmachine⟩
  | _ =>
    obtain rfl := Except.ok.inj h
    exact ⟨_, _, _, _, rfl⟩

/-- What a reset leaves: its memory, the start of everything else, dialect and generator as they
were. -/
theorem exists_memory_of_reset? {m m' : Machine} (h : m.reset? = .ok m') :
    ∃ memory, m.memory.reset? = .ok memory ∧ m' = { m with
      memory
      registers := .start memory.programAddr
      stack := m.stack.clear
      screen := m.screen.clear
      timers := .idle
      keypad := .released
      idleAt := none
      faults := 0 } := by
  unfold reset? at h
  cases hmemory : m.memory.reset? with
  | error crash =>
    rw [hmemory] at h
    contradiction
  | ok memory =>
    rw [hmemory] at h
    exact ⟨memory, rfl, (Except.ok.inj h).symm⟩

theorem reset?_of_act {m : Machine} {r : Reaction} (h : m.act .reset = .ok r) :
    m.reset? = .ok r.machine := by
  simp only [act] at h
  split at h
  · contradiction
  · next hreset =>
    obtain rfl := Except.ok.inj h
    exact hreset

/-- Only a reset can crash. -/
theorem exists_act_of_ne_reset (m : Machine) {a : Action} (hreset : a ≠ .reset) :
    ∃ r, m.act a = .ok r := by
  cases a with
  | reset => exact absurd rfl hreset
  | load source =>
    simp only [act]
    split
    · exact ⟨_, rfl⟩
    · exact ⟨_, rfl⟩
  | _ => exact ⟨_, rfl⟩

/-- So a history without a reset goes through from any machine. -/
theorem exists_acts_of_ne_reset (m : Machine) {actions : List Action}
    (hreset : ∀ a ∈ actions, a ≠ .reset) : ∃ m', m.acts actions = .ok m' := by
  induction actions generalizing m with
  | nil => exact ⟨m, rfl⟩
  | cons a rest ih =>
    obtain ⟨r, hact⟩ := exists_act_of_ne_reset m (hreset a List.mem_cons_self)
    obtain ⟨m', hm'⟩ := ih r.machine fun b hb => hreset b (List.mem_cons_of_mem a hb)
    refine ⟨m', ?_⟩
    rw [acts_cons hact]
    exact hm'

/-- Whether `P` holds of the machine wherever a history takes a step. -/
def AtSteps (P : Machine → Prop) : Machine → List Action → Prop
  | _, [] => True
  | m, a :: rest => (a = .step → P m) ∧ ∀ r, m.act a = .ok r → AtSteps P r.machine rest

/-- Whether `P` holds of the machine before a history, between its actions and after it. -/
def Throughout (P : Machine → Prop) : Machine → List Action → Prop
  | m, [] => P m
  | m, a :: rest => P m ∧ ∀ r, m.act a = .ok r → Throughout P r.machine rest

section

variable {P : Machine → Prop} {m : Machine} {a : Action} {rest : List Action} {r : Reaction}

theorem atSteps_cons_iff (h : m.act a = .ok r) :
    AtSteps P m (a :: rest) ↔ (a = .step → P m) ∧ AtSteps P r.machine rest := by
  simp only [AtSteps, h, Except.ok.injEq, forall_eq']

theorem throughout_cons_iff (h : m.act a = .ok r) :
    Throughout P m (a :: rest) ↔ P m ∧ Throughout P r.machine rest := by
  simp only [Throughout, h, Except.ok.injEq, forall_eq']

/-- What holds throughout a history holds before it. -/
theorem Throughout.start {actions : List Action} (h : Throughout P m actions) : P m := by
  cases actions with
  | nil => exact h
  | cons a rest => exact h.1

/-- It holds after it as well. -/
theorem Throughout.of_acts {actions : List Action} (h : Throughout P m actions) {m' : Machine}
    (hm' : m.acts actions = .ok m') : P m' := by
  induction actions generalizing m with
  | nil =>
    obtain rfl := Except.ok.inj hm'
    exact h
  | cons a rest ih =>
    obtain ⟨r, hact, hrest⟩ := (acts_cons_eq_ok_iff _ _ _ _).1 hm'
    exact ih (h.2 r hact) hrest

end

/-! ## What a fault leaves alone

An instruction can fault in the middle of its work only if it has written something before. None
has: the one access of each comes first. -/

theorem machine_of_refuse {m : Machine} {fault : Fault} {r : Refusal}
    (h : m.refuse fault = .error r) : r.machine = m := by
  obtain rfl := Except.error.inj h
  rfl

theorem machine_of_orRefuse {α : Type} {m : Machine} {result : Except Fault α} {go : α → Effect}
    {r : Refusal} (h : m.orRefuse result go = .error r) : r.machine = m := by
  obtain ⟨fault, -, rfl⟩ := (orRefuse_eq_error_iff m result go r).1 h
  rfl

/-- **An instruction that faults has changed nothing**: whatever can fault does so before its first
write. -/
theorem machine_of_refusal {m : Machine} {i : Instruction} {r : Refusal}
    (h : m.perform i = .error r) : r.machine = m := by
  cases i with
  | draw x y rows | skipIfKey x | skipUnlessKey x | decimal x | save x | restore x =>
    exact machine_of_orRefuse h
  | leave | call target | waitKey x =>
    -- one of the two cases goes on, which is no refusal
    simp only [perform] at h
    split at h
    all_goals
      first
        | contradiction
        | exact machine_of_refuse h
  | unknown word => exact machine_of_refuse h
  | _ => contradiction

/-- After an instruction that is carried out, its effect is settled. -/
theorem execute_of_perform {m : Machine} {i : Instruction} {e : Effect}
    (h : m.perform i = .ok e) :
    (m.execute i).outcome = (m.settle e).outcome ∧
      (m.execute i).machine = (m.settle e).machine := by
  simp only [execute, h, true_and]

/-- After a refused instruction the fault is counted, and the program goes past it unless it has
nowhere to go. -/
theorem execute_of_refusal {m : Machine} {i : Instruction} {r : Refusal}
    (h : m.perform i = .error r) :
    (m.execute i).outcome = .faulted r.fault ∧
      (m.execute i).machine = { m with
        registers := { m.registers with
          pc := if r.fault.staysPut then m.registers.pc else m.registers.pc + 2 }
        idleAt := none
        faults := m.faults + 1 } := by
  simp only [execute, h, recover, machine_of_refusal h, true_and]
  cases r.fault.staysPut with
  | true => rfl
  | false => rfl

/-! ## What the parts of a step write

Instructions write by a few functions, and each of these has its own fields. -/

theorem setLogic_eq (m : Machine) (x : Reg) (value : UInt8) :
    m.setLogic x value = { m with registers := (m.setLogic x value).registers } := by
  unfold setLogic
  split
  · rfl
  · rfl

/-- Writing at the index concerns the bytes of memory. -/
theorem eq_of_writeAtIndex {m m' : Machine} {data : List UInt8}
    (h : m.writeAtIndex data = .ok m') :
    ∃ ram, m' = { m with memory := { m.memory with ram } } := by
  unfold writeAtIndex at h
  split at h
  · contradiction
  · obtain rfl := Except.ok.inj h
    exact ⟨_, rfl⟩

/-- What is read is as long as what was asked for. -/
theorem length_of_access_read? {m : Machine} {start len : Nat} {data : List UInt8}
    (h : m.access (m.memory.ram.read? start len) = .ok data) : data.length = len := by
  unfold access at h
  split at h
  · next hread =>
    obtain rfl := Except.ok.inj h
    exact Ram.length_of_read? hread
  · contradiction

/-- What is left to do after an instruction took effect is to the program counter and the idle
marker. -/
theorem machine_settle_eq (m : Machine) (e : Effect) :
    ∃ pc idleAt, (m.settle e).machine =
      { e.machine with registers := { e.machine.registers with pc }, idleAt } := by
  unfold settle
  cases e.flow with
  | _ => exact ⟨_, _, rfl⟩

/-! ## What instructions leave alone

Instructions write bytes, registers, pixels and timers. What was fixed when the machine was built
and loaded is not theirs to change. -/

/-- What is fixed when a machine is built and loaded. -/
structure Layout where
  dialect : Dialect
  width : Nat
  height : Nat
  programAddr : UInt16
  fontAddr : UInt16
  programLen : Nat
  deriving DecidableEq

def layout (m : Machine) : Layout where
  dialect := m.dialect
  width := m.screen.frame.width
  height := m.screen.frame.height
  programAddr := m.memory.programAddr
  fontAddr := m.memory.fontAddr
  programLen := m.memory.programLen

/-- Drawing keeps the size of the screen. -/
theorem layout_draw (m : Machine) (x y : Reg) (rows : UInt8) (sprite : List UInt8) :
    (m.draw x y rows sprite).machine.layout = m.layout := by
  -- the sprite goes into the pixels; the rectangle stays
  show Layout.mk _ (m.screen.draw _ _ _ _).1.frame.width (m.screen.draw _ _ _ _).1.frame.height
    _ _ _ = m.layout
  simp only [Screen.draw, Frame.width_imprint, Frame.height_imprint]
  rfl

/-- No instruction changes the layout. -/
theorem layout_of_perform {m : Machine} {i : Instruction} {e : Effect}
    (h : m.perform i = .ok e) : e.machine.layout = m.layout := by
  cases i with
  | draw x y rows =>
    obtain ⟨sprite, -, rfl⟩ := (orRefuse_eq_ok_iff _ _ _ _).1 h
    exact layout_draw m x y rows sprite
  | or x y | and x y | xor x y =>
    obtain rfl := Except.ok.inj h
    show (m.setLogic x _).layout = m.layout
    rw [setLogic_eq]
    rfl
  | decimal x | save x =>
    obtain ⟨m', hwrite, rfl⟩ := (orRefuse_eq_ok_iff _ _ _ _).1 h
    obtain ⟨ram, rfl⟩ := eq_of_writeAtIndex hwrite
    rfl
  | skipIfKey x | skipUnlessKey x =>
    obtain ⟨_, -, rfl⟩ := (orRefuse_eq_ok_iff _ _ _ _).1 h
    rfl
  | restore x =>
    obtain ⟨_, -, rfl⟩ := (orRefuse_eq_ok_iff _ _ _ _).1 h
    simp only [Effect.next, setIndex, layout]
  | leave | call target | waitKey x =>
    -- each has two cases; those that go on write the stack, a register or nothing
    simp only [perform, refuse] at h
    split at h
    all_goals
      first
        | contradiction
        | obtain rfl := Except.ok.inj h
          rfl
  | unknown word => contradiction
  | _ =>
    obtain rfl := Except.ok.inj h
    rfl

/-- Neither does what becomes of it. -/
theorem layout_execute (m : Machine) (i : Instruction) :
    (m.execute i).machine.layout = m.layout := by
  cases h : m.perform i with
  | ok e =>
    obtain ⟨pc, idleAt, heq⟩ := machine_settle_eq m e
    rw [(execute_of_perform h).2, heq]
    exact layout_of_perform h
  | error refusal =>
    rw [(execute_of_refusal h).2]
    rfl

/-- **A step keeps the layout**, also one that faults or cannot be fetched. -/
theorem layout_step (m : Machine) : m.step.machine.layout = m.layout := by
  unfold step
  cases h : m.memory.ram.word? m.registers.pc.toNat with
  | ok word =>
    simp only [h]
    exact layout_execute m (Instruction.decode word)
  | error range =>
    simp only [h]
    rfl

/-! ## Histories without a load

A load lays down a program of another length, possibly, and is the only action that changes the
layout. -/

/-- A reset keeps the layout. -/
theorem layout_of_reset? {m m' : Machine} (h : m.reset? = .ok m') : m'.layout = m.layout := by
  -- the program is laid down where it was
  obtain ⟨memory, hmem, rfl⟩ := exists_memory_of_reset? h
  unfold Memory.reset? at hmem
  split at hmem
  · contradiction
  · obtain rfl := Except.ok.inj hmem
    rfl

/-- So does everything but a load. -/
theorem layout_of_act {m : Machine} {a : Action} {r : Reaction}
    (hload : ∀ source, a ≠ .load source) (h : m.act a = .ok r) :
    r.machine.layout = m.layout := by
  cases a with
  | load source => exact absurd rfl (hload source)
  | step =>
    obtain rfl := Except.ok.inj h
    exact layout_step m
  | reset => exact layout_of_reset? (reset?_of_act h)
  | _ =>
    obtain rfl := Except.ok.inj h
    rfl

/-- So does a history without a load. -/
theorem layout_of_acts {m m' : Machine} {actions : List Action}
    (hload : ∀ a ∈ actions, ∀ source, a ≠ .load source) (h : m.acts actions = .ok m') :
    m'.layout = m.layout :=
  of_acts (fun hne hm hact => (layout_of_act hne hact).trans hm) hload rfl h

end Machine

end Cosmac
