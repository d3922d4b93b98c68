import Cosmac.Proofs.Machine.Addressing
import Cosmac.Proofs.Machine.Parking
import Cosmac.Proofs.Machine.Tracing

/-!
# Cosmac — arrivals in idle loops

A step that finds the program in a loop of one jump reports it, unless the program was there
already. What the machine remembers for that is a marker, and the marker follows the steps of a
history: it is set by a step that is idle, and taken away by every other step that has an
instruction to carry out, and by a reset.

So the marker is a function of the past, and the invariant says of which: of the latest step with an
instruction, and nothing else. It is kept by each action, from any past. Who wants to know whether
the program has just arrived looks at the latest step instead, with an instruction or without. The
two questions have the same answer as long as a step without an instruction cannot follow an idle
one, and it cannot unless somebody moves the program from outside: this is the second invariant,
that a marked program is still where it was marked.

* `Machine.moments` are the steps of a history since its latest reset.
* `marker_of_acts` — the marker tells whether the latest of them with an instruction was idle.
* `StaysMarked` — a marked program stays where it is, as long as nobody writes the registers.
* `reported_on_arrival_iff` — so an idle step is reported exactly if that one was not idle at the
  same address. Where nobody writes the registers, that one is the latest step of all.
* `not_reported_after_failed_fetch` — where somebody does, a step without an instruction can come
  between.
-/

namespace Cosmac

/-- A step in a history: where the program was, and how the step ended. -/
structure Moment where
  pc : UInt16
  outcome : Outcome
  deriving DecidableEq

namespace Moment

/-- Whether there was an instruction to carry out: from the last address on there is no word. -/
def fetched (t : Moment) : Bool :=
  t.pc.toNat ≤ 0xffe

/-- The address of a step that was idle. -/
def parked? (t : Moment) : Option UInt16 :=
  if t.outcome = .idle then some t.pc else none

theorem parked?_eq_some_iff (t : Moment) (pc : UInt16) : t.parked? = some pc ↔ t = ⟨pc, .idle⟩ := by
  obtain ⟨pc', outcome⟩ := t
  unfold parked?
  split
  · next hidle =>
    have hidle' : outcome = .idle := hidle
    simp [hidle']
  · next hidle =>
    have hidle' : outcome ≠ .idle := hidle
    simp [hidle']

end Moment

/-- The latest of some steps that had an instruction to carry out. -/
def latestFetched (past : List Moment) : Option Moment :=
  (past.filter (·.fetched)).getLast?

/-- One more step with an instruction is the latest. -/
theorem latestFetched_append_of_fetched (past : List Moment) {t : Moment} (h : t.fetched = true) :
    latestFetched (past ++ [t]) = some t := by
  rw [latestFetched, List.filter_append, List.filter_cons_of_pos h, List.filter_nil,
    List.getLast?_concat]

theorem latestFetched_append_of_not_fetched (past : List Moment) {t : Moment}
    (h : t.fetched = false) : latestFetched (past ++ [t]) = latestFetched past := by
  rw [latestFetched, List.filter_append, List.filter_cons_of_neg (by rw [h]; decide),
    List.filter_nil, List.append_nil, latestFetched]

/-- Where the latest step had an instruction, it is the one. -/
theorem latestFetched_of_getLast? {past : List Moment} {t : Moment} (hlast : past.getLast? = some t)
    (h : t.fetched = true) : latestFetched past = some t := by
  obtain ⟨front, rfl⟩ := List.getLast?_eq_some_iff.1 hlast
  exact latestFetched_append_of_fetched front h

namespace Machine

variable {m m' : Machine}

/-- The step that is about to be taken. -/
def moment (m : Machine) : Moment :=
  ⟨m.registers.pc, m.step.outcome⟩

/-- The steps since the start or the latest reset, after one more action. -/
def remember (m : Machine) (past : List Moment) : Action → List Moment
  | .step => past ++ [m.moment]
  | .reset => []
  | _ => past

/-- The steps since the start or the latest reset, after a history; `past` are those before it. -/
def momentsAfter (m : Machine) (past : List Moment) : List Action → List Moment
  | [] => past
  | a :: rest =>
    match m.act a with
    | .error _ => past
    | .ok r => r.machine.momentsAfter (m.remember past a) rest

/-- The steps of a history since its latest reset. -/
def moments (m : Machine) (actions : List Action) : List Moment :=
  m.momentsAfter [] actions

/-- Only steps and resets count. -/
theorem remember_of_ne {a : Action} (hstep : a ≠ .step) (hreset : a ≠ .reset)
    (past : List Moment) : m.remember past a = past := by
  unfold remember
  split
  · contradiction
  · contradiction
  · rfl

theorem momentsAfter_cons {a : Action} {r : Reaction} (h : m.act a = .ok r) (past : List Moment)
    (rest : List Action) :
    m.momentsAfter past (a :: rest) = r.machine.momentsAfter (m.remember past a) rest := by
  simp only [momentsAfter, h]

/-! ## What a step reports and remembers

The marker is looked at by one kind of step and written by all that have an instruction. A failed
fetch is the exception: it neither looks at it nor writes it. -/

/-- The reports that the program has arrived in an idle loop. -/
def arrivals (log : List Event) : List UInt16 :=
  log.filterMap fun
    | .idling addr => some addr
    | _ => none

/-- An instruction that is carried out reports an arrival if it parks at an unmarked place. -/
theorem arrivals_settle {i : Instruction} {e : Effect} (h : m.perform i = .ok e) :
    arrivals (m.settle e).log =
      if (m.settle e).outcome = .idle ∧ m.idleAt ≠ some m.registers.pc then [m.registers.pc]
      else [] := by
  -- what an instruction itself reports is never an arrival
  have heffect : arrivals e.log = [] := by
    rcases log_of_perform h with hlog | ⟨_, _, _, _, hlog⟩
    · rw [hlog]
      rfl
    · rw [hlog]
      rfl
  unfold settle
  cases hflow : e.flow with
  | park =>
    show arrivals (if m.idleAt = some m.registers.pc then e.log
      else e.log ++ [.idling m.registers.pc]) = _
    by_cases hmark : m.idleAt = some m.registers.pc
    · rw [if_pos hmark, heffect, if_neg fun h => h.2 hmark]
    · have happend : arrivals (e.log ++ [.idling m.registers.pc]) = [m.registers.pc] := by
        rw [arrivals, List.filterMap_append]
        show arrivals e.log ++ [m.registers.pc] = [m.registers.pc]
        rw [heffect, List.nil_append]
      rw [if_neg hmark, happend, if_pos ⟨rfl, hmark⟩]
  | _ => exact heffect

/-- **A step reports an arrival exactly if it is idle and the marker is not there yet.** -/
theorem arrivals_step (m : Machine) :
    arrivals m.step.log =
      if m.step.outcome = .idle ∧ m.idleAt ≠ some m.registers.pc then [m.registers.pc] else [] := by
  cases hword : m.memory.ram.word? m.registers.pc.toNat with
  | error range =>
    -- a failed fetch reports itself alone
    rw [step_of_fetch_error hword]
    rfl
  | ok word =>
    have hfetch : m.Fetches word := hword
    rw [step_of_fetches hfetch]
    cases hperform : m.perform (Instruction.decode word) with
    | error refusal =>
      -- a fault is no arrival, and the trace is none either
      rw [(execute_of_refusal hperform).1]
      simp only [execute, hperform, recover]
      rfl
    | ok e =>
      rw [(execute_of_perform hperform).1, ← arrivals_settle hperform]
      simp only [execute, hperform]
      rfl

/-- It leaves the marker where it is idle, and no marker elsewhere. -/
theorem idleAt_settle (m : Machine) (e : Effect) :
    (m.settle e).machine.idleAt =
      if (m.settle e).outcome = .idle then some m.registers.pc else none := by
  unfold settle
  cases e.flow with
  | _ => rfl

/-- Every step with an instruction sets the marker or takes it away. -/
theorem idleAt_step_of_fetched (h : m.moment.fetched = true) :
    m.step.machine.idleAt = m.moment.parked? := by
  obtain ⟨word, hfetch⟩ := (exists_fetches_iff m).2 (of_decide_eq_true h)
  rw [Moment.parked?, moment, step_of_fetches hfetch]
  cases hperform : m.perform (Instruction.decode word) with
  | error refusal =>
    obtain ⟨houtcome, hmachine⟩ := execute_of_refusal hperform
    rw [houtcome, hmachine]
    exact (if_neg nofun).symm
  | ok e =>
    obtain ⟨houtcome, hmachine⟩ := execute_of_perform hperform
    rw [houtcome, hmachine]
    exact idleAt_settle m e

/-- A failed fetch leaves the marker as it is. -/
theorem idleAt_step_of_not_fetched (h : m.moment.fetched = false) :
    m.step.machine.idleAt = m.idleAt := by
  have hlt : 0xffe < m.registers.pc.toNat := Nat.lt_of_not_le (of_decide_eq_false h)
  have hword := (word?_error_iff m.memory.ram _ ⟨m.registers.pc.toNat, 2⟩).2 ⟨hlt, rfl⟩
  rw [step_of_fetch_error hword]
  rfl

/-- No other action but a reset concerns the marker. -/
theorem idleAt_of_act {a : Action} (hstep : a ≠ .step) (hreset : a ≠ .reset) {r : Reaction}
    (h : m.act a = .ok r) : r.machine.idleAt = m.idleAt := by
  obtain ⟨memory, registers, timers, keypad, hmachine⟩ := exists_of_act hstep hreset h
  rw [hmachine]

/-- A reset takes it away. -/
theorem idleAt_of_reset? (h : m.reset? = .ok m') : m'.idleAt = none := by
  obtain ⟨memory, -, rfl⟩ := exists_memory_of_reset? h
  rfl

/-! ## Histories

The invariant holds of a new machine, whose past is empty, and is kept by every action. -/

/-- One action keeps the marker in step with what has happened. -/
theorem marker_of_act {past : List Moment} (h : m.idleAt = (latestFetched past).bind (·.parked?))
    {a : Action} {r : Reaction} (hact : m.act a = .ok r) :
    r.machine.idleAt = (latestFetched (m.remember past a)).bind (·.parked?) := by
  by_cases hstep : a = .step
  · subst hstep
    obtain rfl := Except.ok.inj hact
    show m.step.machine.idleAt = (latestFetched (past ++ [m.moment])).bind (·.parked?)
    cases hfetched : m.moment.fetched with
    | true => rw [latestFetched_append_of_fetched past hfetched, idleAt_step_of_fetched hfetched,
        Option.bind_some]
    -- a failed fetch leaves the marker, and is not counted among the steps
    | false => rw [latestFetched_append_of_not_fetched past hfetched,
        idleAt_step_of_not_fetched hfetched, h]
  · by_cases hreset : a = .reset
    · subst hreset
      rw [idleAt_of_reset? (reset?_of_act hact)]
      rfl
    · rw [idleAt_of_act hstep hreset hact, h, remember_of_ne hstep hreset]

/-- **The marker tells whether the latest step with an instruction was idle, and where.** -/
theorem marker_of_acts {past : List Moment} (h : m.idleAt = (latestFetched past).bind (·.parked?))
    {actions : List Action} (hacts : m.acts actions = .ok m') :
    m'.idleAt = (latestFetched (m.momentsAfter past actions)).bind (·.parked?) := by
  induction actions generalizing m past with
  | nil =>
    obtain rfl := Except.ok.inj hacts
    exact h
  | cons a rest ih =>
    obtain ⟨r, hact, hrest⟩ := (acts_cons_eq_ok_iff _ _ _ _).1 hacts
    rw [momentsAfter_cons hact]
    exact ih (marker_of_act h hact) hrest

/-- Where the latest step with an instruction was idle is where the marker is. -/
theorem idleAt_eq_some_iff {past : List Moment}
    (h : m.idleAt = (latestFetched past).bind (·.parked?)) (addr : UInt16) :
    m.idleAt = some addr ↔ latestFetched past = some ⟨addr, .idle⟩ := by
  rw [h, Option.bind_eq_some_iff]
  constructor
  · rintro ⟨t, hlatest, hparked⟩
    rw [hlatest, (t.parked?_eq_some_iff addr).1 hparked]
  · intro hlatest
    exact ⟨_, hlatest, (Moment.parked?_eq_some_iff _ addr).2 rfl⟩

/-! ## Histories in which nobody writes the registers

An idle step leaves the program where it is, at an address with a word. Only a write to the
registers can take it away from there without a step. -/

/-- A marked program is still where the latest step left it. -/
structure StaysMarked (past : List Moment) (m : Machine) : Prop where
  pc : ∀ addr, m.idleAt = some addr → m.registers.pc = addr ∧ addr.toNat ≤ 0xffe
  latest : ∀ addr, m.idleAt = some addr → past.getLast? = some ⟨addr, .idle⟩

theorem StaysMarked.of_none (past : List Moment) (h : m.idleAt = none) : StaysMarked past m where
  pc addr hmark := by rw [h] at hmark; contradiction
  latest addr hmark := by rw [h] at hmark; contradiction

/-- A step stays at the marker, or takes it away. -/
theorem StaysMarked.step {past : List Moment} (h : StaysMarked past m) :
    StaysMarked (past ++ [m.moment]) m.step.machine := by
  cases hfetched : m.moment.fetched with
  | true =>
    -- a marker after this step was set by it
    have hidle {addr : UInt16} (hmark : m.step.machine.idleAt = some addr) :
        m.moment = ⟨addr, .idle⟩ := by
      rw [idleAt_step_of_fetched hfetched] at hmark
      exact (Moment.parked?_eq_some_iff _ _).1 hmark
    refine ⟨?_, ?_⟩
    · intro addr hmark
      obtain ⟨hpc, houtcome⟩ := Moment.mk.inj (hidle hmark)
      have hle : m.registers.pc.toNat ≤ 0xffe := of_decide_eq_true hfetched
      rw [(step_of_due_jump (due_of_idle houtcome)).2]
      exact ⟨hpc, hpc ▸ hle⟩
    · intro addr hmark
      rw [List.getLast?_concat, hidle hmark]
  | false =>
    -- a marked program is at an address that has a word, so there is no marker
    have hnone : m.idleAt = none := by
      rw [Option.eq_none_iff_forall_ne_some]
      intro addr hmark
      obtain ⟨rfl, hle⟩ := h.pc addr hmark
      exact of_decide_eq_false hfetched hle
    exact .of_none _ ((idleAt_step_of_not_fetched hfetched).trans hnone)

/-- So do all actions that leave the registers alone, and a reset takes the marker away. -/
theorem StaysMarked.act {past : List Moment} (h : StaysMarked past m) {a : Action}
    (hset : ∀ registers, a ≠ .setRegisters registers) {r : Reaction} (hact : m.act a = .ok r) :
    StaysMarked (m.remember past a) r.machine := by
  by_cases hstep : a = .step
  · subst hstep
    obtain rfl := Except.ok.inj hact
    exact h.step
  · by_cases hreset : a = .reset
    · subst hreset
      exact .of_none _ (idleAt_of_reset? (reset?_of_act hact))
    · -- all that is left leaves the registers alone
      have hspares : a.sparesRegisters = true := by
        cases a with
        | step => contradiction
        | reset => contradiction
        | setRegisters registers => exact absurd rfl (hset registers)
        | _ => rfl
      rw [remember_of_ne hstep hreset]
      refine ⟨?_, ?_⟩
      · intro addr hmark
        rw [(registers_and_stack_of_act hspares hact).1]
        exact h.pc addr ((idleAt_of_act hstep hreset hact).symm.trans hmark)
      · intro addr hmark
        exact h.latest addr ((idleAt_of_act hstep hreset hact).symm.trans hmark)

/-- So does a history of them. -/
theorem StaysMarked.acts {past : List Moment} (h : StaysMarked past m) {actions : List Action}
    (hset : ∀ registers, .setRegisters registers ∉ actions) (hacts : m.acts actions = .ok m') :
    StaysMarked (m.momentsAfter past actions) m' := by
  induction actions generalizing m past with
  | nil =>
    obtain rfl := Except.ok.inj hacts
    exact h
  | cons a rest ih =>
    obtain ⟨r, hact, hrest⟩ := (acts_cons_eq_ok_iff _ _ _ _).1 hacts
    -- no action of the history writes the registers, the first one included
    have hhead (registers : Registers) : a ≠ .setRegisters registers := by
      rintro rfl
      exact hset registers List.mem_cons_self
    have hlater (registers : Registers) : .setRegisters registers ∉ rest :=
      fun hmem => hset registers (List.mem_cons_of_mem a hmem)
    rw [momentsAfter_cons hact]
    exact ih (h.act hhead hact) hlater hrest

/-- So the marker is where the latest step of all was idle. -/
theorem StaysMarked.idleAt_eq_some_iff_getLast? {past : List Moment} (h : StaysMarked past m)
    {addr : UInt16} (hmark : m.idleAt = some addr ↔ latestFetched past = some ⟨addr, .idle⟩)
    (hword : addr.toNat ≤ 0xffe) :
    m.idleAt = some addr ↔ past.getLast? = some ⟨addr, .idle⟩ := by
  constructor
  · exact h.latest addr
  · intro hlast
    exact hmark.2 (latestFetched_of_getLast? hlast (decide_eq_true hword))

/-! ## Reports

The marker tells where the latest step with an instruction was idle, and a step reports against the
marker. Both together give the report in terms of the history alone. -/

/-- **An idle step is reported exactly on arrival.** After every history of a new machine, a step
reports an idle loop, once and where it is, if the latest step with an instruction since the start
or the latest reset was not idle at the same address. Where nobody has written the registers, the
latest step of all tells the same. -/
theorem reported_on_arrival_iff {config : Config} {entropy : ChaCha.Key} {start : Machine}
    (hnew : Machine.new config entropy = .ok start) (earlier : List Action) :
    ∃ m, start.acts earlier = .ok m ∧
      (arrivals m.step.log =
        if m.step.outcome = .idle ∧
            latestFetched (start.moments earlier) ≠ some ⟨m.registers.pc, .idle⟩ then
          [m.registers.pc]
        else []) ∧
      ((∀ registers, .setRegisters registers ∉ earlier) → m.step.outcome = .idle →
        (arrivals m.step.log = [m.registers.pc] ↔
          (start.moments earlier).getLast? ≠ some ⟨m.registers.pc, .idle⟩)) := by
  have hbuilt := builtFrom_of_new hnew
  obtain ⟨hvalid, rfl⟩ := eq_fresh_of_new hnew
  obtain ⟨m, hm, -⟩ := hbuilt.acts hvalid earlier
  have hmark := idleAt_eq_some_iff (@marker_of_acts _ _ [] rfl _ hm)
  refine ⟨m, hm, ?_, ?_⟩
  · rw [arrivals_step]
    simp only [ne_eq, hmark]
    rfl
  · intro hset hidle
    -- nobody has written the registers, so the marker is where the latest step was idle
    have hstays : StaysMarked _ m := (StaysMarked.of_none [] rfl).acts hset hm
    have hword : m.registers.pc.toNat ≤ 0xffe := (due_of_idle hidle).pc_le
    rw [arrivals_step]
    refine Iff.trans ?_ (not_congr (hstays.idleAt_eq_some_iff_getLast? (hmark _) hword))
    constructor
    · intro hreported hmarked
      rw [if_neg fun h => h.2 hmarked] at hreported
      contradiction
    · intro hunmarked
      rw [if_pos ⟨hidle, hunmarked⟩]

/-- A program parks, is loaded once more, and parks again: it is reported once. -/
theorem reported_once_around_load :
    let earlier : List Action := [.load (.ofBytes [0x12, 0x00]), .step, .tick,
      .load (.ofBytes [0x12, 0x00])]
    ∃ start m, Machine.new Config.standard (Seed.key 0) = .ok start ∧ start.acts earlier = .ok m ∧
      m.step.outcome = .idle ∧ arrivals m.step.log = [] ∧
      (arrivals m.step.log = [m.registers.pc] ↔
        (start.moments earlier).getLast? ≠ some ⟨m.registers.pc, .idle⟩) := by
  intro earlier
  have hrun : ((Machine.new Config.standard (Seed.key 0)).toOption.bind fun start =>
      (start.acts earlier).toOption.map fun m => (m.step.outcome, arrivals m.step.log)) =
        some (.idle, []) := by decide +kernel
  obtain ⟨start, m, hnew, hm, hseen⟩ := exists_acts_of_view hrun
  obtain ⟨hidle, hnone⟩ := Prod.mk.inj hseen
  obtain ⟨m', hm', -, hpresent⟩ := reported_on_arrival_iff hnew earlier
  obtain rfl := Except.ok.inj (hm.symm.trans hm')
  have hset (registers : Registers) : .setRegisters registers ∉ earlier := by
    simp [earlier]
  exact ⟨start, m, hnew, hm, hidle, hnone, hpresent hset hidle⟩

/-- The program parks at 0x200. Somebody sends it past the last word, where a step fails, and back.
It parks again, and nothing is reported. -/
theorem not_reported_after_failed_fetch :
    let earlier : List Action := [.load (.ofBytes [0x12, 0x00]), .step,
      .setRegisters (.start 0xfff), .step, .setRegisters (.start 0x200)]
    ∃ start m, Machine.new Config.standard (Seed.key 0) = .ok start ∧ start.acts earlier = .ok m ∧
      m.registers.pc = 0x200 ∧ m.step.outcome = .idle ∧ arrivals m.step.log = [] ∧
      (start.moments earlier).getLast? =
        some ⟨0xfff, .faulted (.memoryOutOfBounds 0xfff ⟨0xfff, 2⟩)⟩ ∧
      ¬ (arrivals m.step.log = [m.registers.pc] ↔
        (start.moments earlier).getLast? ≠ some ⟨m.registers.pc, .idle⟩) := by
  intro earlier
  -- what is seen of the run, computed in one go
  have hrun : ((Machine.new Config.standard (Seed.key 0)).toOption.bind fun start =>
      (start.acts earlier).toOption.map fun m =>
        (m.registers.pc, m.step.outcome, arrivals m.step.log,
          (start.moments earlier).getLast?)) =
      some (0x200, .idle, [],
        some ⟨0xfff, .faulted (.memoryOutOfBounds 0xfff ⟨0xfff, 2⟩)⟩) := by decide +kernel
  obtain ⟨start, hnew, hrun⟩ := Option.bind_eq_some_iff.1 hrun
  obtain ⟨m, hm, hseen⟩ := Option.map_eq_some_iff.1 hrun
  obtain ⟨hpc, hidle, hnone, hlatest⟩ := by simpa only [Prod.mk.injEq] using hseen
  refine ⟨start, m, eq_ok_of_toOption hnew, eq_ok_of_toOption hm, hpc, hidle, hnone, hlatest, ?_⟩
  rw [hnone, hlatest, hpc]
  decide

end Machine

end Cosmac
