import Cosmac.Proofs.Machine.Index
import Cosmac.Proofs.Machine.Reset

/-!
# Cosmac — what a reset forgets

A reset clears the stack by closing its calls; the addresses stay in the slots. So two machines that
were reset with the same program need not be equal. They are twins: nothing that is done to them
from then on tells one from the other.

Twins are a bisimulation, and it is proved layer by layer as a step is made: the two requests to a
stack, an instruction, what is left to do after it, a step, an action. Every layer but the first
comes down to the fact that only calls and returns look at the stack at all. What a reset leaves is
known exactly, which gives the twins to start from.

* `Twins` are equal but for the free slots of their stacks.
* `Twins.perform`, `Twins.step`, `Twins.act` and `Twins.acts` — twins do the same and stay twins,
  whatever is done to them; `Twins.sameView` — and nothing that can be told apart differs.
* `reset?_eq_fresh` — a reset keeps the image and the generator, and what lies in the free slots.
* `reset_forgets` — so where image and generator are the same, so is all that follows.
-/

namespace Cosmac

namespace CallStack

variable {s s' : CallStack}

/-- A call is refused by both stacks or by neither, and its slot does not show. -/
theorem push?_of_live_eq (h : s'.live = s.live) (addr : UInt16) :
    (s.push? addr = none ∧ s'.push? addr = none) ∨
      ∃ t t', s.push? addr = some t ∧ s'.push? addr = some t' ∧ t'.live = t.live := by
  -- whether there is room can be told from the view
  cases hpush : s.push? addr with
  | none =>
    rw [push?_eq_none_iff, ← h, ← push?_eq_none_iff s' addr] at hpush
    exact .inl ⟨rfl, hpush⟩
  | some t =>
    cases hpush' : s'.push? addr with
    | none =>
      rw [push?_eq_none_iff, h, ← push?_eq_none_iff s addr, hpush] at hpush'
      contradiction
    | some t' =>
      refine .inr ⟨t, t', rfl, rfl, ?_⟩
      rw [live_of_push? hpush, live_of_push? hpush', h]

/-- A return is refused by both stacks or goes to the same address from both. -/
theorem pop?_of_live_eq (h : s'.live = s.live) :
    (s.pop? = none ∧ s'.pop? = none) ∨
      ∃ addr t t', s.pop? = some (addr, t) ∧ s'.pop? = some (addr, t') ∧ t'.live = t.live := by
  cases hpop : s.pop? with
  | none =>
    rw [pop?_eq_none_iff, ← h, ← pop?_eq_none_iff] at hpop
    exact .inl ⟨rfl, hpop⟩
  | some popped =>
    obtain ⟨addr, t⟩ := popped
    cases hpop' : s'.pop? with
    | none =>
      rw [pop?_eq_none_iff, h, ← pop?_eq_none_iff, hpop] at hpop'
      contradiction
    | some popped' =>
      obtain ⟨addr', t'⟩ := popped'
      -- the latest of the same calls is the same call
      have hlive : t'.live ++ [addr'] = t.live ++ [addr] := by
        rw [← live_of_pop? hpop, ← live_of_pop? hpop', h]
      obtain ⟨hlive', haddr⟩ := List.append_inj' hlive rfl
      obtain rfl := List.singleton_inj.1 haddr
      exact .inr ⟨addr', t, t', rfl, rfl, hlive'⟩

end CallStack

namespace Machine

variable {m m' : Machine}

/-- Two machines that are equal but for what is left in the free slots of their stacks. -/
structure Twins (m m' : Machine) : Prop where
  calls : m'.stack.live = m.stack.live
  rest : m' = { m with stack := m'.stack }

/-- The twin of a machine is that machine with another stack. -/
theorem Twins.exists_stack (h : Twins m m') :
    ∃ stack, stack.live = m.stack.live ∧ m' = { m with stack } :=
  ⟨m'.stack, h.calls, h.rest⟩

/-- Nothing that can be told apart differs. -/
theorem Twins.sameView (h : Twins m m') : SameView m m' := by
  obtain ⟨stack, hlive, rfl⟩ := h.exists_stack
  exact ⟨fun _ => rfl, rfl, rfl, hlive.symm, rfl, rfl, rfl, rfl, rfl, rfl⟩

/-- What comes of an instruction on twins. -/
inductive TwinEffects : Except Refusal Effect → Except Refusal Effect → Prop
  | done {n n' : Machine} (h : Twins n n') (flow : Flow) (log : List Event) :
    TwinEffects (.ok ⟨n, flow, log⟩) (.ok ⟨n', flow, log⟩)
  | refused {n n' : Machine} (h : Twins n n') (fault : Fault) :
    TwinEffects (.error ⟨fault, n⟩) (.error ⟨fault, n'⟩)

/-! ## One instruction

The two instructions that ask the stack get the same answer. All others leave it as it is, and for
them the twins differ in a field that is not looked at. -/

/-- **An instruction does the same to twins.** Only calls and returns look at the stack. -/
theorem Twins.perform (h : Twins m m') (i : Instruction) :
    TwinEffects (m.perform i) (m'.perform i) := by
  obtain ⟨stack, hlive, rfl⟩ := h.exists_stack
  cases i with
  -- the two instructions that look at the stack
  | call target =>
    rcases CallStack.push?_of_live_eq hlive (m.registers.pc + 2) with
      ⟨hpush, hpush'⟩ | ⟨t, t', hpush, hpush', ht⟩
    · simp only [Machine.perform, hpush, hpush']
      exact .refused ⟨hlive, rfl⟩ _
    · simp only [Machine.perform, hpush, hpush']
      exact .done ⟨ht, rfl⟩ _ _
  | leave =>
    rcases CallStack.pop?_of_live_eq hlive with
      ⟨hpop, hpop'⟩ | ⟨addr, t, t', hpop, hpop', ht⟩
    · simp only [Machine.perform, hpop, hpop']
      exact .refused ⟨hlive, rfl⟩ _
    · simp only [Machine.perform, hpop, hpop']
      exact .done ⟨ht, rfl⟩ _ _
  -- all others do to a machine with another stack what they do to this one
  | or x y | and x y | xor x y =>
    simp only [Machine.perform, setLogic]
    cases m.dialect.logicClearsFlag with
    | _ => exact .done ⟨hlive, rfl⟩ _ _
  | draw x y rows =>
    simp only [Machine.perform, access]
    cases m.memory.ram.read? m.registers.i.toNat rows.toNat with
    | ok sprite => exact .done ⟨hlive, rfl⟩ _ _
    | error range => exact .refused ⟨hlive, rfl⟩ _
  | skipIfKey x | skipUnlessKey x =>
    simp only [Machine.perform, testKey, get]
    cases m.keypad.isDown? (m.registers.get x).toNat with
    | some down => exact .done ⟨hlive, rfl⟩ _ _
    | none => exact .refused ⟨hlive, rfl⟩ _
  | waitKey x =>
    simp only [Machine.perform]
    cases m.keypad.first? with
    | _ => exact .done ⟨hlive, rfl⟩ _ _
  | decimal x =>
    simp only [Machine.perform, writeAtIndex, access, get]
    cases m.memory.ram.write? m.registers.i.toNat (decimalDigits (m.registers.get x)) with
    | ok ram => exact .done ⟨hlive, rfl⟩ _ _
    | error range => exact .refused ⟨hlive, rfl⟩ _
  | save x =>
    simp only [Machine.perform, writeAtIndex, access]
    cases m.memory.ram.write? m.registers.i.toNat (m.registers.upTo x) with
    | ok ram => exact .done ⟨hlive, rfl⟩ _ _
    | error range => exact .refused ⟨hlive, rfl⟩ _
  | restore x =>
    simp only [Machine.perform, access]
    cases m.memory.ram.read? m.registers.i.toNat (x.val + 1) with
    | ok data => exact .done ⟨hlive, rfl⟩ _ _
    | error range => exact .refused ⟨hlive, rfl⟩ _
  | unknown word => exact .refused ⟨hlive, rfl⟩ _
  | _ => exact .done ⟨hlive, rfl⟩ _ _

/-! ## Steps and other actions

A step adds the program counter, the marker, the count and the log, which do not depend on the
stack. -/

/-- Two steps that end in the same way and report the same, and leave twins. -/
structure TwinSteps (s s' : Step) : Prop where
  outcome : s'.outcome = s.outcome
  log : s'.log = s.log
  machine : Twins s.machine s'.machine

/-- After an instruction that was carried out, twins go on alike. -/
theorem Twins.settle (h : Twins m m') {n n' : Machine} (hafter : Twins n n') (flow : Flow)
    (log : List Event) : TwinSteps (m.settle ⟨n, flow, log⟩) (m'.settle ⟨n', flow, log⟩) := by
  obtain ⟨stack, hlive, rfl⟩ := h.exists_stack
  obtain ⟨stack', hlive', rfl⟩ := hafter.exists_stack
  cases flow with
  | _ => exact ⟨rfl, rfl, ⟨hlive', rfl⟩⟩

/-- After a fault they go on alike as well. -/
theorem Twins.recover (h : Twins m m') (fault : Fault) :
    TwinSteps (m.recover fault) (m'.recover fault) := by
  obtain ⟨stack, hlive, rfl⟩ := h.exists_stack
  unfold Machine.recover
  cases fault.staysPut with
  | _ => exact ⟨rfl, rfl, ⟨hlive, rfl⟩⟩

/-- So an instruction ends in the same way for both, and is traced and reported alike. -/
theorem Twins.execute (h : Twins m m') (i : Instruction) :
    TwinSteps (m.execute i) (m'.execute i) := by
  have htrace : Event.executing i m'.dialect.jumpRegister m'.registers.pc =
      .executing i m.dialect.jumpRegister m.registers.pc := by rw [h.rest]
  have heffects := h.perform i
  unfold Machine.execute
  rw [htrace]
  -- what has come of it is twin effects, so both are carried out or both are refused
  generalize m.perform i = result at heffects ⊢
  generalize m'.perform i = result' at heffects ⊢
  cases heffects with
  | done hafter flow log =>
    obtain ⟨houtcome, hlog, hmachine⟩ := h.settle hafter flow log
    exact ⟨houtcome, congrArg (List.cons _) hlog, hmachine⟩
  | refused hafter fault =>
    obtain ⟨houtcome, hlog, hmachine⟩ := hafter.recover fault
    exact ⟨houtcome, congrArg (List.cons _) hlog, hmachine⟩

/-- A step fetches the same word for both. -/
theorem Twins.step (h : Twins m m') : TwinSteps m.step m'.step := by
  have hfetch : m'.memory.ram.word? m'.registers.pc.toNat =
      m.memory.ram.word? m.registers.pc.toNat := by rw [h.rest]
  simp only [Machine.step, hfetch]
  cases m.memory.ram.word? m.registers.pc.toNat with
  | ok word => exact h.execute _
  | error range =>
    obtain ⟨stack, hlive, rfl⟩ := h.exists_stack
    exact ⟨rfl, rfl, ⟨hlive, rfl⟩⟩

/-- **Whatever is done to twins has the same answer and the same reports, and leaves twins.** -/
theorem Twins.act (h : Twins m m') {a : Action} {r : Reaction} (hact : m.act a = .ok r) :
    ∃ r', m'.act a = .ok r' ∧ r'.reply = r.reply ∧ r'.log = r.log ∧
      Twins r.machine r'.machine := by
  cases a with
  | step =>
    obtain rfl := Except.ok.inj hact
    obtain ⟨houtcome, hlog, hmachine⟩ := h.step
    exact ⟨_, rfl, congrArg Reply.stepped houtcome, hlog, hmachine⟩
  | load source =>
    obtain ⟨stack, hlive, rfl⟩ := h.exists_stack
    simp only [Machine.act, load] at hact ⊢
    cases hload : m.memory.load source with
    | error e =>
      simp only [hload] at hact ⊢
      obtain rfl := Except.ok.inj hact
      exact ⟨_, rfl, rfl, rfl, ⟨hlive, rfl⟩⟩
    | ok placed =>
      simp only [hload] at hact ⊢
      obtain rfl := Except.ok.inj hact
      exact ⟨_, rfl, rfl, rfl, ⟨hlive, rfl⟩⟩
  | reset =>
    obtain ⟨stack, hlive, rfl⟩ := h.exists_stack
    simp only [Machine.act, reset?] at hact ⊢
    cases hreset : m.memory.reset? with
    | error crash =>
      simp only [hreset] at hact
      contradiction
    | ok memory =>
      simp only [hreset] at hact ⊢
      obtain rfl := Except.ok.inj hact
      -- neither has an open call left
      exact ⟨_, rfl, rfl, rfl, ⟨by simp only [CallStack.live_clear], rfl⟩⟩
  | _ =>
    obtain rfl := Except.ok.inj hact
    obtain ⟨stack, hlive, rfl⟩ := h.exists_stack
    exact ⟨_, rfl, rfl, rfl, ⟨hlive, rfl⟩⟩

/-! ## Histories

By induction on the actions, with the answers compared one by one. -/

/-- What the actions of a history answer and report, one after the other. -/
def answers (m : Machine) : List Action → List (Reply × List Event)
  | [] => []
  | a :: rest =>
    match m.act a with
    | .error _ => []
    | .ok r => (r.reply, r.log) :: r.machine.answers rest

theorem answers_cons {a : Action} {r : Reaction} (h : m.act a = .ok r) (rest : List Action) :
    m.answers (a :: rest) = (r.reply, r.log) :: r.machine.answers rest := by
  simp only [answers, h]

/-- Twins answer any history alike, and are twins after it. -/
theorem Twins.acts (h : Twins m m') {actions : List Action} {n : Machine}
    (hacts : m.acts actions = .ok n) :
    m'.answers actions = m.answers actions ∧ ∃ n', m'.acts actions = .ok n' ∧ Twins n n' := by
  induction actions generalizing m m' with
  | nil =>
    obtain rfl := Except.ok.inj hacts
    exact ⟨rfl, m', rfl, h⟩
  | cons a rest ih =>
    obtain ⟨r, hact, hrest⟩ := (acts_cons_eq_ok_iff _ _ _ _).1 hacts
    obtain ⟨r', hact', hreply, hlog, hmachine⟩ := h.act hact
    obtain ⟨hanswers, hend⟩ := ih hmachine hrest
    rw [answers_cons hact, answers_cons hact', acts_cons hact', hreply, hlog, hanswers]
    exact ⟨rfl, hend⟩

/-! ## Resets

What a machine was built with comes from its configuration, so a reset leaves a fresh machine in all
but what it keeps on purpose, and the free slots. -/

/-- A reset leaves a fresh machine with the image, but for the generator and the free slots. -/
theorem reset?_eq_fresh {config : Config} (hvalid : config.Valid) (hbuilt : BuiltFrom config m)
    (hdialect : m.dialect = config.dialect) {image : List UInt8}
    (himage : m.memory.program? = .ok image) :
    m.reset? = .ok { fresh config hvalid m.generator image with stack := m.stack.clear } := by
  obtain ⟨image', hlen, himage', -⟩ := Guarded.program_eq hbuilt.program_le
  obtain rfl := Except.ok.inj (himage'.symm.trans himage)
  -- glyphs and image are laid down where the configuration has put them
  have hmem := Memory.reset?_eq himage hlen
  rw [hbuilt.programAddr, hbuilt.fontAddr] at hmem
  have hscreen : m.screen.clear =
      ⟨.blank config.width config.height, hvalid.width_pos, hvalid.height_pos⟩ := by
    apply Screen.ext
    show Frame.blank m.screen.frame.width m.screen.frame.height = _
    rw [hbuilt.width, hbuilt.height]
  simp only [reset?, hmem, hscreen, hdialect]
  rfl

/-- A history keeps what a machine was built with. -/
theorem built_of_acts {config : Config} {entropy : ChaCha.Key} {start : Machine}
    (hnew : Machine.new config entropy = .ok start) {earlier : List Action}
    (hacts : start.acts earlier = .ok m) : BuiltFrom config m ∧ m.dialect = config.dialect := by
  have hbuilt := builtFrom_of_new hnew
  obtain ⟨hvalid, rfl⟩ := eq_fresh_of_new hnew
  obtain ⟨m₁, hm₁, hbuilt₁⟩ := hbuilt.acts hvalid earlier
  obtain rfl := Except.ok.inj (hm₁.symm.trans hacts)
  exact ⟨hbuilt₁, dialect_of_acts hacts⟩

/-- **A reset forgets what was before it.** Two machines of one configuration, each after a history
of its own, have the same program in memory and the same random numbers ahead. After a reset of
both, every further history has the same answers and the same reports from both, and leaves twins:
nothing differs but free slots, and so nothing that shows. -/
theorem reset_forgets {config : Config} {entropy entropy' : ChaCha.Key} {start start' : Machine}
    (hnew : Machine.new config entropy = .ok start)
    (hnew' : Machine.new config entropy' = .ok start') {earlier earlier' : List Action}
    (hm : start.acts earlier = .ok m) (hm' : start'.acts earlier' = .ok m')
    (hprogram : m.memory.program? = m'.memory.program?) (hgenerator : m.generator = m'.generator) :
    ∃ r r', m.reset? = .ok r ∧ m'.reset? = .ok r' ∧ ∀ later : List Action,
      r'.answers later = r.answers later ∧
        ∃ n n', r.acts later = .ok n ∧ r'.acts later = .ok n' ∧ Twins n n' ∧ SameView n n' := by
  have hvalid := (valid_of_new hnew).1
  obtain ⟨hbuilt, hdialect⟩ := built_of_acts hnew hm
  obtain ⟨hbuilt', hdialect'⟩ := built_of_acts hnew' hm'
  obtain ⟨image, -, himage, -⟩ := Guarded.program_eq hbuilt.program_le
  have hreset := reset?_eq_fresh hvalid hbuilt hdialect himage
  have hreset' := reset?_eq_fresh hvalid hbuilt' hdialect' (hprogram.symm.trans himage)
  refine ⟨_, _, hreset, hreset', ?_⟩
  intro later
  -- both have closed their calls, and the free slots are where they differ
  have htwins : Twins { fresh config hvalid m.generator image with stack := m.stack.clear }
      { fresh config hvalid m'.generator image with stack := m'.stack.clear } := by
    refine ⟨?_, ?_⟩
    · rw [CallStack.live_clear, CallStack.live_clear]
    · rw [hgenerator]
  obtain ⟨r, hact, hbuilt₁⟩ := hbuilt.act hvalid .reset
  obtain ⟨n, hn, -⟩ := hbuilt₁.acts hvalid later
  rw [Except.ok.inj ((reset?_of_act hact).symm.trans hreset)] at hn
  obtain ⟨hanswers, n', hn', hend⟩ := htwins.acts hn
  exact ⟨hanswers, n, n', hn, hn', hend, hend.sameView⟩

/-- `2200` calls itself without end. One machine has done so four times, with keys and timers,
before it was loaded once more; the other has only been loaded. -/
theorem reset_forgets_open_calls :
    let config := { Config.standard with seed := some 1 }
    let program : Source := .ofBytes [0x22, 0x00]
    let earlier : List Action := [.load program, .step, .step, .setDelay 9, .setKey 3 true, .step,
      .step, .load program]
    ∃ start start' m m', Machine.new config (Seed.key 0) = .ok start ∧
      Machine.new config (Seed.key 5) = .ok start' ∧
      start.acts earlier = .ok m ∧ start'.acts [.load program] = .ok m' ∧
      ∃ r r', m.reset? = .ok r ∧ m'.reset? = .ok r' ∧ r.stack ≠ r'.stack ∧ ∀ later : List Action,
        r'.answers later = r.answers later ∧
          ∃ n n', r.acts later = .ok n ∧ r'.acts later = .ok n' ∧ Twins n n' ∧ SameView n n' := by
  intro config program earlier
  -- the images and the generators are the same, and the free slots are not
  have hrun : ((Machine.new config (Seed.key 0)).toOption.bind fun start =>
      (Machine.new config (Seed.key 5)).toOption.bind fun start' =>
        (start.acts earlier).toOption.bind fun m =>
          (start'.acts [.load program]).toOption.map fun m' =>
            (m.memory.program?.toOption, m'.memory.program?.toOption,
              decide (m.generator = m'.generator), decide (m.stack.clear = m'.stack.clear))) =
      some (some [0x22, 0x00], some [0x22, 0x00], true, false) := by decide +kernel
  obtain ⟨start, hnew, hrun⟩ := Option.bind_eq_some_iff.1 hrun
  obtain ⟨start', hnew', hrun⟩ := Option.bind_eq_some_iff.1 hrun
  obtain ⟨m, hm, hrun⟩ := Option.bind_eq_some_iff.1 hrun
  obtain ⟨m', hm', hseen⟩ := Option.map_eq_some_iff.1 hrun
  simp only [Prod.mk.injEq, decide_eq_true_eq, decide_eq_false_iff_not] at hseen
  obtain ⟨himage, himage', hgenerator, hstack⟩ := hseen
  -- what the theorem asks for is that the images are the same, whatever else was done
  have hprogram : m.memory.program? = m'.memory.program? :=
    (eq_ok_of_toOption himage).trans (eq_ok_of_toOption himage').symm
  have hacts := eq_ok_of_toOption hm
  have hacts' := eq_ok_of_toOption hm'
  obtain ⟨r, r', hreset, hreset', hlater⟩ := reset_forgets (eq_ok_of_toOption hnew)
    (eq_ok_of_toOption hnew') hacts hacts' hprogram hgenerator
  refine ⟨start, start', m, m', eq_ok_of_toOption hnew, eq_ok_of_toOption hnew', hacts, hacts',
    r, r', hreset, hreset', ?_, hlater⟩
  rw [(registers_and_stack_of_reset? hreset).2, (registers_and_stack_of_reset? hreset').2]
  exact hstack

end Machine

end Cosmac
