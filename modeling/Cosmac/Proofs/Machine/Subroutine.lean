import Cosmac.Proofs.Machine.Faults
import Cosmac.Proofs.Machine.New

/-!
# Cosmac — subroutines

A call leaves its return address on the stack, and nothing but its own return takes it off again:
further calls go on top of it, a call that finds the stack full is refused, and no other instruction
touches the stack. So a subroutine returns to its caller, whatever it does meanwhile.

The invariant is about the bottom of the stack: what lies there when the subroutine is entered, with
the return address on top, is a prefix of the stack for as long as the stack is that deep. A step
adds an entry, takes the latest one or does nothing, and keeps the prefix in each case. When the
depth falls below it for the first time, the entry that goes is the last of the prefix, and an entry
goes only to a return.

* `CallEffect` is all that a step can do to the stack; `callEffect_step` — there is nothing else.
* `live_prefix_of_acts` — what lies on the stack stays there for as long as the depth does not fall
  below it.
* `leave_of_act` — what closes a call is its return.
* `returns_to_caller` — so the first step that closes a call is a return to behind that call.
-/

namespace Cosmac

namespace Machine

/-! ## What a step does to the stack

Calls and returns are the two instructions that ask the stack for anything, and either can be
refused. -/

/-- What a step does to the stack: nothing, one more call, or one less. -/
inductive CallEffect (m : Machine) : Prop
  | none (same : m.step.machine.stack = m.stack)
  | call {target : UInt16} (due : m.Due (.call target))
    (pushed : m.step.machine.stack.live = m.stack.live ++ [m.registers.pc + 2])
  | leave {addr : UInt16} (due : m.Due .leave) (executed : m.step.outcome = .executed)
    (popped : m.stack.live = m.step.machine.stack.live ++ [addr])
    (returned : m.step.machine.registers.pc = addr)

/-- Calls and returns apart, no instruction touches the stack. -/
theorem stack_of_perform {m : Machine} {i : Instruction} {e : Effect} (hleave : i ≠ .leave)
    (hcall : ∀ target, i ≠ .call target) (h : m.perform i = .ok e) :
    e.machine.stack = m.stack := by
  cases i with
  | leave => exact absurd rfl hleave
  | call target => exact absurd rfl (hcall target)
  | or x y | and x y | xor x y =>
    obtain rfl := Except.ok.inj h
    show (m.setLogic x _).stack = m.stack
    rw [setLogic_eq]
  -- what reaches for memory writes bytes and the index, or gives up
  | decimal x | save x =>
    obtain ⟨m', hwrite, rfl⟩ := (orRefuse_eq_ok_iff _ _ _ _).1 h
    obtain ⟨ram, rfl⟩ := eq_of_writeAtIndex hwrite
    rfl
  | draw x y rows | skipIfKey x | skipUnlessKey x =>
    obtain ⟨_, -, rfl⟩ := (orRefuse_eq_ok_iff _ _ _ _).1 h
    rfl
  | restore x =>
    obtain ⟨_, -, rfl⟩ := (orRefuse_eq_ok_iff _ _ _ _).1 h
    simp only [Effect.next, setIndex]
  | waitKey x =>
    simp only [perform] at h
    split at h
    all_goals
      obtain rfl := Except.ok.inj h
      rfl
  | unknown word => contradiction
  | _ =>
    obtain rfl := Except.ok.inj h
    rfl

theorem execute_call {m : Machine} {stack : CallStack}
    (hpush : m.stack.push? (m.registers.pc + 2) = some stack) (target : UInt16) :
    (m.execute (.call target)).machine.stack.live = m.stack.live ++ [m.registers.pc + 2] := by
  have hperform : m.perform (.call target) = .ok (.goto { m with stack } (.jump target)) := by
    simp only [perform, hpush]
  have hstack : (m.execute (.call target)).machine.stack = stack := by
    rw [(execute_of_perform hperform).2]
    rfl
  rw [hstack]
  exact CallStack.live_of_push? hpush

theorem execute_leave {m : Machine} {addr : UInt16} {stack : CallStack}
    (hpop : m.stack.pop? = some (addr, stack)) :
    (m.execute .leave).outcome = .executed ∧
      m.stack.live = (m.execute .leave).machine.stack.live ++ [addr] ∧
      (m.execute .leave).machine.registers.pc = addr := by
  have hperform : m.perform .leave = .ok (.goto { m with stack } (.jump addr)) := by
    simp only [perform, hpop]
  obtain ⟨houtcome, hmachine⟩ := execute_of_perform hperform
  refine ⟨?_, ?_, ?_⟩
  · rw [houtcome]
    rfl
  · rw [hmachine]
    exact CallStack.live_of_pop? hpop
  · rw [hmachine]
    rfl

/-- **A step makes one call, returns from one, or leaves the stack alone.** -/
theorem callEffect_step (m : Machine) : m.CallEffect := by
  cases hword : m.memory.ram.word? m.registers.pc.toNat with
  | error range => exact .none (by rw [step_of_fetch_error hword]; rfl)
  | ok word =>
    have hfetch : m.Fetches word := hword
    have hstep := step_of_fetches hfetch
    cases hperform : m.perform (Instruction.decode word) with
    | error r => exact .none (by rw [hstep, (execute_of_refusal hperform).2])
    | ok e =>
      by_cases hcall : ∃ target, Instruction.decode word = .call target
      · obtain ⟨target, hdue⟩ := hcall
        rw [hdue] at hperform hstep
        simp only [perform] at hperform
        split at hperform
        · next stack hpush =>
          have hlive := execute_call hpush target
          exact .call ⟨word, hfetch, hdue⟩ (by rw [hstep, hlive])
        · contradiction
      by_cases hleave : Instruction.decode word = .leave
      · rw [hleave] at hperform hstep
        simp only [perform] at hperform
        split at hperform
        · next addr stack hpop =>
          obtain ⟨houtcome, hlive, hpc⟩ := execute_leave hpop
          rw [← hstep] at houtcome hlive hpc
          exact .leave ⟨word, hfetch, hleave⟩ houtcome hlive hpc
        · contradiction
      · -- every other instruction goes on without the stack
        have hkeep : e.machine.stack = m.stack :=
          stack_of_perform hleave (fun target heq => hcall ⟨target, heq⟩) hperform
        obtain ⟨pc, idleAt, heq⟩ := machine_settle_eq m e
        exact .none (by rw [hstep, (execute_of_perform hperform).2, heq, hkeep])

/-! ## Actions and histories

Between two moments the stack is compared by the entries that are open. Its free slots never matter.
-/

/-- Only steps and resets concern the stack. -/
theorem stack_of_act {m : Machine} {a : Action} {r : Reaction} (hstep : a ≠ .step)
    (hreset : a ≠ .reset) (h : m.act a = .ok r) : r.machine.stack = m.stack := by
  cases a with
  | step => exact absurd rfl hstep
  | reset => exact absurd rfl hreset
  | load source =>
    obtain ⟨memory, hmachine⟩ := exists_memory_of_act_load h
    rw [hmachine]
  | _ =>
    obtain rfl := Except.ok.inj h
    rfl

/-- What lies on the stack stays there in an action after which there are at least as many calls. -/
theorem live_prefix_of_act {base : List UInt16} {m : Machine} (hbase : base <+: m.stack.live)
    {a : Action} {r : Reaction} (hreset : a ≠ .reset) (hact : m.act a = .ok r)
    (hdepth : base.length ≤ r.machine.stack.depth) : base <+: r.machine.stack.live := by
  by_cases hstep : a = .step
  · subst hstep
    obtain rfl := Except.ok.inj hact
    show base <+: m.step.machine.stack.live
    rcases callEffect_step m with same | ⟨-, pushed⟩ | ⟨-, -, popped, -⟩
    · rw [same]
      exact hbase
    · rw [pushed]
      exact List.prefix_append_of_prefix hbase
    · -- only the latest entry is gone, and it does not belong to `base`
      rw [popped] at hbase
      refine List.prefix_of_prefix_length_le hbase (List.prefix_append _ _) ?_
      rw [CallStack.length_live]
      exact hdepth
  · rw [stack_of_act hstep hreset hact]
    exact hbase

/-- The depth of the stack has been above `d` in every state of a history. -/
def StaysAbove (d : Nat) (m : Machine) (actions : List Action) : Prop :=
  ∀ earlier m', earlier <+: actions → m.acts earlier = .ok m' → d < m'.stack.depth

theorem StaysAbove.nil {d : Nat} {m : Machine} (h : d < m.stack.depth) : m.StaysAbove d [] := by
  intro earlier m' hprefix hm'
  obtain rfl := List.prefix_nil.1 hprefix
  obtain rfl := Except.ok.inj hm'
  exact h

/-- The depth before an action, and the depths from there on. -/
theorem StaysAbove.cons {d : Nat} {m : Machine} (h : d < m.stack.depth) {a : Action} {r : Reaction}
    (hact : m.act a = .ok r) {rest : List Action} (hrest : r.machine.StaysAbove d rest) :
    m.StaysAbove d (a :: rest) := by
  intro earlier m' hprefix hm'
  cases earlier with
  | nil =>
    obtain rfl := Except.ok.inj hm'
    exact h
  | cons b earlier =>
    obtain ⟨rfl, hshorter⟩ := List.cons_prefix_cons.1 hprefix
    rw [acts_cons hact] at hm'
    exact hrest earlier m' hshorter hm'

/-- What holds along a history holds behind its first action. -/
theorem StaysAbove.tail {d : Nat} {m : Machine} {a : Action} {rest : List Action}
    (h : m.StaysAbove d (a :: rest)) {r : Reaction} (hact : m.act a = .ok r) :
    r.machine.StaysAbove d rest := by
  intro earlier m' hprefix hm'
  refine h (a :: earlier) m' ((List.prefix_cons_inj a).2 hprefix) ?_
  rw [acts_cons hact]
  exact hm'

/-- **What lies on the stack stays there** for as long as the depth does not fall below it. -/
theorem live_prefix_of_acts {base : List UInt16} {d : Nat} (hlen : base.length = d + 1)
    {actions : List Action} (hreset : ∀ a ∈ actions, a ≠ .reset) {m m' : Machine}
    (hbase : base <+: m.stack.live) (habove : m.StaysAbove d actions)
    (hm' : m.acts actions = .ok m') : base <+: m'.stack.live := by
  induction actions generalizing m with
  | nil =>
    obtain rfl := Except.ok.inj hm'
    exact hbase
  | cons a rest ih =>
    obtain ⟨r, hact⟩ := exists_act_of_ne_reset m (hreset a List.mem_cons_self)
    rw [acts_cons hact] at hm'
    have hfirst : m.acts [a] = .ok r.machine := acts_cons hact []
    -- the first action alone is a history, so the depth after it is known
    have hdepth : d < r.machine.stack.depth :=
      habove [a] r.machine ((List.prefix_cons_inj a).2 List.nil_prefix) hfirst
    have hbase' : base <+: r.machine.stack.live :=
      live_prefix_of_act hbase (hreset a List.mem_cons_self) hact (by omega)
    exact ih (fun b hb => hreset b (List.mem_cons_of_mem a hb)) hbase' (habove.tail hact) hm'

/-- The action that closes a call is its return. -/
theorem leave_of_act {older : List UInt16} {addr : UInt16} {m : Machine}
    (hlive : older ++ [addr] <+: m.stack.live) {a : Action} {r : Reaction} (hreset : a ≠ .reset)
    (hact : m.act a = .ok r) (hclosed : r.machine.stack.depth ≤ older.length) :
    a = .step ∧ m.Due .leave ∧ m.step.outcome = .executed ∧
      r.machine.registers.pc = addr ∧ r.machine.stack.live = older := by
  have hopen : older.length + 1 ≤ m.stack.live.length := by
    have hle := hlive.length_le
    rw [List.length_append] at hle
    exact hle
  rw [← CallStack.length_live] at hclosed
  -- nothing else takes entries off
  have hstep : a = .step := by
    refine Decidable.byContradiction fun hstep => ?_
    rw [stack_of_act hstep hreset hact] at hclosed
    omega
  subst hstep
  obtain rfl := Except.ok.inj hact
  change m.step.machine.stack.live.length ≤ older.length at hclosed
  rcases callEffect_step m with same | ⟨-, pushed⟩ | ⟨due, executed, popped, returned⟩
  · rw [same] at hclosed
    omega
  · rw [pushed, List.length_append] at hclosed
    omega
  · -- the two stacks are of one length, so they agree entry by entry
    rw [popped] at hlive hopen
    rw [List.length_append, List.length_singleton] at hopen
    have heq : older ++ [addr] = m.step.machine.stack.live ++ [_] :=
      hlive.eq_of_length (by simp only [List.length_append, List.length_singleton]; omega)
    obtain ⟨holder, haddr⟩ := List.append_inj' heq rfl
    refine ⟨rfl, due, executed, ?_, holder.symm⟩
    show m.step.machine.registers.pc = addr
    rw [returned]
    exact (List.singleton_inj.1 haddr).symm

/-! ## Calls

The prefix is what the caller had open, with the address behind the call. -/

/-- **A subroutine returns to its caller.** A call where the stack has room leaves the address
behind it on top of the stack. Whatever follows, short of a reset: as long as the depth has stayed
above that of the caller, this address and what lies below it are still there; and the first action
that brings the depth back is a return that goes to this address and leaves the stack as it was
before the call. -/
theorem returns_to_caller {m : Machine} {target : UInt16} (due : m.Due (.call target))
    (hroom : m.stack.depth < 16) :
    m.step.machine.stack.live = m.stack.live ++ [m.registers.pc + 2] ∧
      ∀ actions : List Action, (∀ a ∈ actions, a ≠ .reset) →
        ∃ m', m.step.machine.acts actions = .ok m' ∧
          (m.step.machine.StaysAbove m.stack.depth actions →
            m.stack.live ++ [m.registers.pc + 2] <+: m'.stack.live ∧
              ∀ a r, a ≠ .reset → m'.act a = .ok r → r.machine.stack.depth ≤ m.stack.depth →
                a = .step ∧ m'.Due .leave ∧ m'.step.outcome = .executed ∧
                  r.machine.registers.pc = m.registers.pc + 2 ∧
                  r.machine.stack.live = m.stack.live) := by
  obtain ⟨word, hfetch, hdecode⟩ := due
  have hpushed : m.step.machine.stack.live = m.stack.live ++ [m.registers.pc + 2] := by
    cases hpush : m.stack.push? (m.registers.pc + 2) with
    | none =>
      have hfull := (push?_eq_none_iff_depth _ _).1 hpush
      omega
    | some stack =>
      rw [step_of_fetches hfetch, hdecode]
      exact execute_call hpush target
  refine ⟨hpushed, ?_⟩
  intro actions hreset
  obtain ⟨m', hm'⟩ := exists_acts_of_ne_reset m.step.machine hreset
  refine ⟨m', hm', ?_⟩
  intro habove
  -- one entry more than the caller had, which the depth has never fallen below
  have hlen : (m.stack.live ++ [m.registers.pc + 2]).length = m.stack.depth + 1 := by
    rw [List.length_append, CallStack.length_live, List.length_singleton]
  have hstart : m.stack.live ++ [m.registers.pc + 2] <+: m.step.machine.stack.live := by
    simp only [hpushed, List.prefix_rfl]
  have hstays := live_prefix_of_acts hlen hreset hstart habove hm'
  refine ⟨hstays, ?_⟩
  intro a r hne hact hclosed
  exact leave_of_act hstays hne hact (by rw [CallStack.length_live]; exact hclosed)

/-- `2206 1200` calls `2204 F055 00EE` in a loop, which calls `00EE` itself and stores a register
before it returns, while the timers tick. All the time the address of the loop stays at the bottom
of the stack, and the second return goes there. -/
theorem returns_to_loop :
    ∃ h : Config.standard.Valid,
      let program := Ram.zero.overwrite 0x200
        [0x22, 0x06, 0x12, 0x00, 0x00, 0xee, 0x22, 0x04, 0xf0, 0x55, 0x00, 0xee]
      let m := { fresh Config.standard h (.ofSeed 0) [] with
        memory := ⟨program, 0x200, 0x50, 12⟩ }
      let actions : List Action := [.step, .tick, .step, .step]
      m.Due (.call 0x206) ∧ m.stack.depth < 16 ∧ m.step.machine.stack.live = [0x202] ∧
        m.step.machine.step.machine.stack.live = [0x202, 0x208] ∧
        ∃ m', m.step.machine.acts actions = .ok m' ∧ [0x202] <+: m'.stack.live ∧ m'.Due .leave ∧
          m'.step.machine.registers.pc = 0x202 ∧ m'.step.machine.stack.live = [] := by
  refine ⟨(Config.check_eq_ok_iff _).1 rfl, ?_⟩
  intro program m actions
  have due : m.Due (.call 0x206) := ⟨0x2206, by decide +kernel, by decide⟩
  have hroom : m.stack.depth < 16 := by decide
  -- a call inside and its return, which never come below the depth of the outer call
  have habove : m.step.machine.StaysAbove m.stack.depth actions := by
    refine .cons (by decide +kernel) rfl (.cons (by decide +kernel) rfl ?_)
    exact .cons (by decide +kernel) rfl (.cons (by decide +kernel) rfl (.nil (by decide +kernel)))
  obtain ⟨hpushed, hall⟩ := returns_to_caller due hroom
  obtain ⟨m', hm', hreturn⟩ := hall actions (by simp [actions])
  obtain ⟨hstays, hclose⟩ := hreturn habove
  have hclosed : m'.step.machine.stack.depth ≤ m.stack.depth := by
    obtain rfl := Except.ok.inj hm'
    decide +kernel
  obtain ⟨-, hdue, -, hpc, hlive⟩ := hclose .step _ nofun rfl hclosed
  exact ⟨due, hroom, hpushed, by decide +kernel, m', hm', hstays, hdue, hpc, hlive⟩

end Machine

end Cosmac
