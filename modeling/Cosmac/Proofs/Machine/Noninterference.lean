import Cosmac.Proofs.Machine.Faults
import Cosmac.Proofs.Machine.New

/-!
# Cosmac — time and keys from outside

A program learns of its surroundings in two ways: how much time has passed, through the delay timer,
and which keys are down. Few instructions ask for either. To a program that does not ask, two
machines are the same if they differ in nothing else.

Taking the sense out of a machine is a function that can be applied again without effect, and to be
the same but for the sense is to be equal after it. So a single machine is compared with itself
without the sense: whatever does not ask commutes with taking it out. Two machines and two histories
are then compared through a third run, on the machine without the sense and along the history
without the actions that are about it.

* `Machine.without` takes a sense out of a machine: what is left is what a program without it can
  tell.
* `perform_without` and `step_without` — an instruction that does not ask does the same with and
  without the sense, and so does its step.
* `act_of_stirs` — an action about the sense changes nothing else and shows nothing.
* `senses_apart` — so two histories with different times, or different keys, come to the same in
  everything else.
-/

namespace Cosmac

/-- What a program can ask about its surroundings. -/
inductive Sense
  | time
  | keys
  deriving DecidableEq

/-- Whether an action is about what a sense tells. -/
def Action.stirs : Sense → Action → Bool
  | .time, .tick | .time, .setDelay _ | .time, .setSound _ => true
  | .keys, .setKey .. | .keys, .releaseKeys => true
  | _, _ => false

/-- Whether an instruction asks for what a sense tells. -/
def Instruction.asks : Sense → Instruction → Bool
  | .time, .readDelay _ => true
  | .keys, .skipIfKey _ | .keys, .skipUnlessKey _ | .keys, .waitKey _ => true
  | _, _ => false

/-- The machine with its timers stopped, or its keys released. -/
def Machine.without (s : Sense) (m : Machine) : Machine :=
  match s with
  | .time => { m with timers := .idle }
  | .keys => { m with keypad := .released }

/-- What an instruction leaves, without a sense. -/
def Effect.without (s : Sense) (e : Effect) : Effect :=
  { e with machine := e.machine.without s }

/-- What a step leaves, without a sense. -/
def Step.without (s : Sense) (step : Step) : Step :=
  { step with machine := step.machine.without s }

/-- What came of an instruction, without a sense. -/
def Sense.remainder (s : Sense) : Except Refusal Effect → Except Refusal Effect
  | .ok e => .ok (e.without s)
  | .error r => .error { r with machine := r.machine.without s }

/-- The outcome and the reports of a step; no other action has any. -/
def Reaction.shown (r : Reaction) : List (Outcome × List Event) :=
  match r.reply with
  | .stepped outcome => [(outcome, r.log)]
  | .quiet | .loaded _ => []

namespace Machine

/-- Whether the next step does without a sense. -/
def Deaf (s : Sense) (m : Machine) : Prop :=
  ∀ i, m.Due i → i.asks s = false

/-- What the steps of a history show, one after the other. -/
def transcript (m : Machine) : List Action → List (Outcome × List Event)
  | [] => []
  | a :: rest =>
    match m.act a with
    | .error _ => []
    | .ok r => r.shown ++ r.machine.transcript rest

theorem transcript_cons {m : Machine} {a : Action} {r : Reaction} (h : m.act a = .ok r)
    (rest : List Action) : m.transcript (a :: rest) = r.shown ++ r.machine.transcript rest := by
  simp only [transcript, h]

/-! ## One instruction

What instructions read is memory, registers, stack and screen. These are the same with and without a
sense, and so is all that is made of them. -/

variable {s : Sense} {m m' : Machine}

/-- A sense can be taken out only once. -/
theorem without_without (s : Sense) (m : Machine) : (m.without s).without s = m.without s := by
  cases s with
  | _ => rfl

/-- Memory is left as it is. -/
theorem memory_without (s : Sense) (m : Machine) : (m.without s).memory = m.memory := by
  cases s with
  | _ => rfl

theorem registers_without (s : Sense) (m : Machine) : (m.without s).registers = m.registers := by
  cases s with
  | _ => rfl

theorem due_without (i : Instruction) : (m.without s).Due i ↔ m.Due i := by
  simp only [Due, Fetches, memory_without, registers_without]

/-- A bitwise operation does not touch the senses. -/
theorem setLogic_without (s : Sense) (m : Machine) (x : Reg) (value : UInt8) :
    (m.without s).setLogic x value = (m.setLogic x value).without s := by
  unfold setLogic
  cases s with
  | _ =>
    show (if m.dialect.logicClearsFlag then _ else _) = _
    split
    · rfl
    · rfl

/-- **An instruction that does not ask does the same without the sense.** -/
theorem perform_without {i : Instruction} (h : i.asks s = false) (m : Machine) :
    s.remainder ((m.without s).perform i) = s.remainder (m.perform i) := by
  cases i with
  -- four instructions ask for one of the senses, and are without it for the other
  | readDelay x =>
    cases s with
    | time => contradiction
    | keys => rfl
  | skipIfKey x | skipUnlessKey x =>
    cases s with
    | keys => contradiction
    | time =>
      show Sense.time.remainder (orRefuse _ (m.testKey (m.get x)) _) =
        Sense.time.remainder (m.orRefuse (m.testKey (m.get x)) _)
      cases m.testKey (m.get x) with
      | _ => rfl
  | waitKey x =>
    cases s with
    | keys => contradiction
    | time =>
      simp only [perform, without]
      cases m.keypad.first? with
      | _ => rfl
  -- the others look at parts that both machines have in common
  | leave =>
    cases s with
    | _ =>
      simp only [perform, without]
      cases m.stack.pop? with
      | _ => rfl
  | call target =>
    cases s with
    | _ =>
      simp only [perform, without]
      cases m.stack.push? (m.registers.pc + 2) with
      | _ => rfl
  | or x y | and x y | xor x y =>
    cases s with
    | _ =>
      simp only [perform, setLogic_without]
      rfl
  | draw x y rows =>
    cases s with
    | _ =>
      simp only [perform, access, without]
      cases m.memory.ram.read? m.registers.i.toNat rows.toNat with
      | _ => rfl
  | decimal x =>
    cases s with
    | _ =>
      simp only [perform, writeAtIndex, access, without, get]
      cases m.memory.ram.write? m.registers.i.toNat (decimalDigits (m.registers.get x)) with
      | _ => rfl
  | save x =>
    cases s with
    | _ =>
      simp only [perform, writeAtIndex, access, without]
      cases m.memory.ram.write? m.registers.i.toNat (m.registers.upTo x) with
      | _ => rfl
  | restore x =>
    cases s with
    | _ =>
      simp only [perform, access, without]
      cases m.memory.ram.read? m.registers.i.toNat (x.val + 1) with
      | _ => rfl
  | _ =>
    cases s with
    | _ => rfl

/-! ## One step

What follows an instruction has no business with the senses either. -/

/-- What follows an instruction, apart from its trace. -/
def finish (m : Machine) : Except Refusal Effect → Step
  | .ok e => m.settle e
  | .error r => r.machine.recover r.fault

/-- An instruction is carried out, traced, and finished. -/
theorem execute_eq_finish (m : Machine) (i : Instruction) :
    m.execute i = { m.finish (m.perform i) with
      log := .executing i m.dialect.jumpRegister m.registers.pc ::
        (m.finish (m.perform i)).log } := by
  unfold execute finish
  cases m.perform i with
  | _ => rfl

/-- An effect is settled alike. -/
theorem settle_without (s : Sense) (m : Machine) (e : Effect) :
    ((m.without s).settle (e.without s)).without s = (m.settle e).without s := by
  obtain ⟨machine, flow, log⟩ := e
  cases s with
  | _ => cases flow with
    | _ => rfl

/-- So is a fault. -/
theorem recover_without (s : Sense) (m : Machine) (fault : Fault) :
    ((m.without s).recover fault).without s = (m.recover fault).without s := by
  unfold recover
  cases fault.staysPut with
  | _ => cases s with
    | _ => rfl

theorem finish_without (m : Machine) (result : Except Refusal Effect) :
    ((m.without s).finish (s.remainder result)).without s = (m.finish result).without s := by
  cases result with
  | ok e => exact settle_without s m e
  | error r => exact recover_without s r.machine r.fault

/-- An instruction that does not ask is carried out alike. -/
theorem execute_without {i : Instruction} (h : i.asks s = false) (m : Machine) :
    ((m.without s).execute i).without s = (m.execute i).without s := by
  have hfinish : ((m.without s).finish ((m.without s).perform i)).without s =
      (m.finish (m.perform i)).without s :=
    -- the sense is taken out once more, so that the facts about finishing and performing meet
    calc ((m.without s).finish ((m.without s).perform i)).without s
      _ = (((m.without s).without s).finish
          (s.remainder ((m.without s).perform i))).without s := (finish_without _ _).symm
      _ = ((m.without s).finish (s.remainder (m.perform i))).without s := by
        rw [without_without, perform_without h]
      _ = (m.finish (m.perform i)).without s := finish_without _ _
  have htrace : Event.executing i (m.without s).dialect.jumpRegister (m.without s).registers.pc =
      .executing i m.dialect.jumpRegister m.registers.pc := by
    cases s with
    | _ => rfl
  rw [execute_eq_finish, execute_eq_finish, htrace]
  exact congrArg (fun step : Step => { step with
    log := .executing i m.dialect.jumpRegister m.registers.pc :: step.log }) hfinish

/-- **A step whose instruction does not ask does the same without the sense.** -/
theorem step_without (h : m.Deaf s) : (m.without s).step.without s = m.step.without s := by
  cases hword : m.memory.ram.word? m.registers.pc.toNat with
  | error range =>
    -- memory and program counter are not part of a sense
    have hword' : (m.without s).memory.ram.word? (m.without s).registers.pc.toNat =
        .error range := by
      rw [memory_without, registers_without]
      exact hword
    rw [step_of_fetch_error hword, step_of_fetch_error hword']
    cases s with
    | _ => rfl
  | ok word =>
    have hdue : m.Due (Instruction.decode word) := ⟨word, hword, rfl⟩
    rw [hdue.step_eq, ((due_without _).2 hdue).step_eq]
    exact execute_without (h _ hdue) m

/-! ## One action

Actions are about the sense or they are not. Those that are not come to the same on both machines.
-/

/-- An action that is not about the sense does the same without it. -/
theorem act_without {a : Action} (hstirs : a.stirs s = false) (hreset : a ≠ .reset)
    (hdeaf : a = .step → m.Deaf s) {r : Reaction} (hact : m.act a = .ok r) :
    ∃ r', (m.without s).act a = .ok r' ∧ r'.shown = r.shown ∧
      r'.machine.without s = r.machine.without s := by
  cases a with
  | reset => exact absurd rfl hreset
  | step =>
    obtain rfl := Except.ok.inj hact
    have hstep := step_without (hdeaf rfl)
    refine ⟨_, rfl, ?_, congrArg Step.machine hstep⟩
    show [(((m.without s).step.without s).outcome, ((m.without s).step.without s).log)] = _
    rw [hstep]
    rfl
  | load source =>
    simp only [act, load, memory_without] at hact ⊢
    cases hload : m.memory.load source with
    | _ =>
      simp only [hload] at hact ⊢
      obtain rfl := Except.ok.inj hact
      refine ⟨_, rfl, rfl, ?_⟩
      cases s with
      | _ => rfl
  | _ =>
    -- of the others, those about the other sense leave this one alone
    obtain rfl := Except.ok.inj hact
    cases s with
    | _ =>
      first
        | contradiction
        | exact ⟨_, rfl, rfl, rfl⟩

/-- An action that is about the sense shows nothing and changes nothing else. -/
theorem act_of_stirs {a : Action} (hstirs : a.stirs s = true) (m : Machine) :
    ∃ r, m.act a = .ok r ∧ r.shown = [] ∧ r.machine.without s = m.without s := by
  cases s with
  | _ =>
    cases a with
    | _ =>
      first
        | contradiction
        | exact ⟨_, rfl, rfl, rfl⟩

/-- Whether the next step asks does not depend on the sense. -/
theorem deaf_of_without_eq (h : m'.without s = m.without s) (hdeaf : m.Deaf s) : m'.Deaf s := by
  intro i due
  rw [← due_without (s := s), h, due_without] at due
  exact hdeaf i due

/-- On machines that only a sense tells apart, an action that is not about it comes to the same. -/
theorem act_of_without_eq (h : m'.without s = m.without s) {a : Action}
    (hstirs : a.stirs s = false) (hreset : a ≠ .reset) (hdeaf : a = .step → m.Deaf s)
    {r : Reaction} (hact : m.act a = .ok r) :
    ∃ r', m'.act a = .ok r' ∧ r'.shown = r.shown ∧ r'.machine.without s = r.machine.without s := by
  have hdeaf' : a = .step → m'.Deaf s := fun hstep => deaf_of_without_eq h (hdeaf hstep)
  obtain ⟨r', hact'⟩ := exists_act_of_ne_reset m' hreset
  obtain ⟨w, hw, hshown, hmachine⟩ := act_without hstirs hreset hdeaf hact
  obtain ⟨w', hw', hshown', hmachine'⟩ := act_without hstirs hreset hdeaf' hact'
  -- both are compared with the machine that has the sense taken out
  rw [h, hw] at hw'
  obtain rfl := Except.ok.inj hw'
  exact ⟨r', hact', hshown'.symm.trans hshown, hmachine'.symm.trans hmachine⟩

end Machine

/-! ## Histories

The actions about the sense are left out of a history. What is left is the same for both histories,
and each comes to what that comes to. -/

/-- What is left of a history without the actions that are about a sense. -/
def Action.apartFrom (s : Sense) (actions : List Action) : List Action :=
  actions.filter fun a => !a.stirs s

theorem Action.apartFrom_cons_of_stirs {s : Sense} {a : Action} (h : a.stirs s = true)
    (rest : List Action) : apartFrom s (a :: rest) = apartFrom s rest := by
  simp only [apartFrom, List.filter_cons, h, Bool.not_true, Bool.false_eq_true, if_false]

theorem Action.apartFrom_cons {s : Sense} {a : Action} (h : a.stirs s = false)
    (rest : List Action) : apartFrom s (a :: rest) = a :: apartFrom s rest := by
  simp only [apartFrom, List.filter_cons, h, Bool.not_false, if_true]

namespace Machine

variable {s : Sense}

/-- A history that does without a sense still does when the actions about it are left out. -/
theorem atSteps_apartFrom {m m' : Machine} (h : m'.without s = m.without s)
    {actions : List Action} (hreset : ∀ a ∈ actions, a ≠ .reset)
    (hdeaf : m'.AtSteps (Deaf s) actions) : m.AtSteps (Deaf s) (Action.apartFrom s actions) := by
  induction actions generalizing m m' with
  | nil => trivial
  | cons a rest ih =>
    have hrest : ∀ b ∈ rest, b ≠ .reset := fun b hb => hreset b (List.mem_cons_of_mem a hb)
    cases hstirs : a.stirs s with
    | true =>
      -- the action is left out, and the machines still differ in the sense alone
      obtain ⟨r, hact, -, hmachine⟩ := act_of_stirs hstirs m'
      rw [Action.apartFrom_cons_of_stirs hstirs]
      exact ih (hmachine.trans h) hrest (hdeaf.2 r hact)
    | false =>
      obtain ⟨r, hact⟩ := exists_act_of_ne_reset m' (hreset a List.mem_cons_self)
      have hstep : a = .step → m.Deaf s := fun heq => deaf_of_without_eq h.symm (hdeaf.1 heq)
      obtain ⟨r', hact', -, hmachine⟩ :=
        act_of_without_eq h.symm hstirs (hreset a List.mem_cons_self) hdeaf.1 hact
      rw [Action.apartFrom_cons hstirs, atSteps_cons_iff hact']
      exact ⟨hstep, ih hmachine.symm hrest (hdeaf.2 r hact)⟩

/-- A history comes to what it comes to when the actions about a sense are left out. -/
theorem acts_apartFrom {m m' : Machine} (h : m'.without s = m.without s)
    {actions : List Action} (hreset : ∀ a ∈ actions, a ≠ .reset)
    (hdeaf : m.AtSteps (Deaf s) (Action.apartFrom s actions)) :
    ∃ n n', m.acts (Action.apartFrom s actions) = .ok n ∧ m'.acts actions = .ok n' ∧
      m'.transcript actions = m.transcript (Action.apartFrom s actions) ∧
      n'.without s = n.without s := by
  induction actions generalizing m m' with
  | nil => exact ⟨m, m', rfl, rfl, rfl, h⟩
  | cons a rest ih =>
    have hrest : ∀ b ∈ rest, b ≠ .reset := fun b hb => hreset b (List.mem_cons_of_mem a hb)
    cases hstirs : a.stirs s with
    | true =>
      -- only the second machine does this one
      rw [Action.apartFrom_cons_of_stirs hstirs] at hdeaf ⊢
      obtain ⟨r, hact, hshown, hmachine⟩ := act_of_stirs hstirs m'
      obtain ⟨n, n', hn, hn', htranscript, hwithout⟩ := ih (hmachine.trans h) hrest hdeaf
      refine ⟨n, n', hn, ?_, ?_, hwithout⟩
      · rw [acts_cons hact, hn']
      · rw [transcript_cons hact, hshown, List.nil_append, htranscript]
    | false =>
      rw [Action.apartFrom_cons hstirs] at hdeaf ⊢
      obtain ⟨r, hact⟩ := exists_act_of_ne_reset m (hreset a List.mem_cons_self)
      obtain ⟨r', hact', hshown, hmachine⟩ :=
        act_of_without_eq h hstirs (hreset a List.mem_cons_self) hdeaf.1 hact
      obtain ⟨n, n', hn, hn', htranscript, hwithout⟩ := ih hmachine hrest (hdeaf.2 r hact)
      refine ⟨n, n', ?_, ?_, ?_, hwithout⟩
      · rw [acts_cons hact, hn]
      · rw [acts_cons hact', hn']
      · rw [transcript_cons hact, transcript_cons hact', hshown, htranscript]

/-- **What a program does not ask for does not reach it.** Two machines that only a sense tells
apart, on two histories that differ in nothing but the actions about that sense: as long as no
instruction of the first run asks, all steps have the same outcomes and report the same, and in the
end it is still only the sense that tells the machines apart. -/
theorem senses_apart {m m' : Machine} (h : m'.without s = m.without s)
    {actions actions' : List Action}
    (hsame : Action.apartFrom s actions' = Action.apartFrom s actions)
    (hreset : ∀ a ∈ actions, a ≠ .reset) (hreset' : ∀ a ∈ actions', a ≠ .reset)
    (hdeaf : m.AtSteps (Deaf s) actions) :
    ∃ n n', m.acts actions = .ok n ∧ m'.acts actions' = .ok n' ∧
      m'.transcript actions' = m.transcript actions ∧ n'.without s = n.without s := by
  have hapart := atSteps_apartFrom rfl hreset hdeaf
  obtain ⟨p, n, hp, hn, htranscript, hwithout⟩ := acts_apartFrom rfl hreset hapart
  rw [← hsame] at hapart hp htranscript
  obtain ⟨p', n', hp', hn', htranscript', hwithout'⟩ := acts_apartFrom h hreset' hapart
  -- both histories come to what the part without the sense comes to
  rw [hp] at hp'
  obtain rfl := Except.ok.inj hp'
  exact ⟨n, n', hn, hn', htranscript'.trans htranscript.symm, hwithout'.trans hwithout.symm⟩

/-- `C0FF F018` draws a random byte and starts the buzzer, and never asks for the time. -/
theorem senses_apart_in_time :
    ∃ h : Config.standard.Valid,
      let m := { fresh Config.standard h (.ofSeed 0) [] with
        memory := ⟨Ram.zero.overwrite 0x200 [0xc0, 0xff, 0xf0, 0x18], 0x200, 0x50, 4⟩ }
      let actions : List Action := [.step, .setKey 3 true, .step]
      let actions' : List Action := [.tick, .step, .setDelay 7, .setKey 3 true, .tick, .step, .tick]
      ((m.setSound 9).without .time = m.without .time) ∧
        Action.apartFrom .time actions' = Action.apartFrom .time actions ∧
        (∀ a ∈ actions, a ≠ .reset) ∧ (∀ a ∈ actions', a ≠ .reset) ∧
        m.AtSteps (Deaf .time) actions ∧
        ∃ n n', m.acts actions = .ok n ∧ (m.setSound 9).acts actions' = .ok n' ∧
          (m.setSound 9).transcript actions' = m.transcript actions ∧
          n'.without .time = n.without .time := by
  refine ⟨(Config.check_eq_ok_iff _).1 rfl, ?_⟩
  intro m actions actions'
  have hsame : Action.apartFrom .time actions' = Action.apartFrom .time actions := rfl
  have hreset : ∀ a ∈ actions, a ≠ .reset := by decide
  have hreset' : ∀ a ∈ actions', a ≠ .reset := by decide
  have hrandom : m.Fetches 0xc0ff := by decide +kernel
  have hbuzz : (m.step.machine.setKey 3 true).Fetches 0xf018 := by decide +kernel
  -- only the two steps have an instruction, and neither of them asks
  have hdeaf : m.AtSteps (Deaf .time) actions := by
    refine ⟨?_, ?_⟩
    · rintro - i due
      rw [due.eq_decode hrandom]
      rfl
    · intro r hr
      obtain rfl := Except.ok.inj hr
      refine ⟨nofun, ?_⟩
      intro r hr
      obtain rfl := Except.ok.inj hr
      refine ⟨?_, fun _ _ => trivial⟩
      rintro - i due
      rw [due.eq_decode hbuzz]
      rfl
  have hwithout : (m.setSound 9).without .time = m.without .time := rfl
  have hapart := senses_apart hwithout hsame hreset hreset' hdeaf
  exact ⟨hwithout, hsame, hreset, hreset', hdeaf, hapart⟩

end Machine

end Cosmac
