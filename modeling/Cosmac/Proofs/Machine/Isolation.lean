import Cosmac.Proofs.Machine.Faults
import Cosmac.Proofs.Machine.New
import Mathlib.Data.List.Basic

/-!
# Cosmac — dialects apart

A dialect settles six questions, and each of them concerns a few instructions, under conditions. Two
machines that differ in their dialects alone do the same until one of those instructions is carried
out.

The second machine is the first one under another dialect, which is a function of it. So to do the
same is an equation: first another dialect and then the instruction, or the other way around. Each
question is answered by one function of the machine, and each of these commutes with the change of
dialect where the question does not arise. The instructions follow, and a step, and by induction a
history. What is reported is compared as text, since the trace of a jump has the dialect in it even
where that does not show.

* `Machine.Matters` lists the instructions to which a difference of dialects can matter, and when.
* `setLogic_withDialect`, `shiftOperand_withDialect`, … — the questions, one by one.
* `perform_withDialect`, `alike_step` — every other instruction does the same on both machines.
* `dialects_agree` — so does every history without such an instruction.
-/

namespace Cosmac

/-! ## Where dialects differ

The conditions are on the state in which an instruction is carried out, and on both dialects. -/

/-- The same machine under another dialect. -/
def Machine.withDialect (m : Machine) (d : Dialect) : Machine :=
  { m with dialect := d }

/-- What an instruction leaves, under another dialect. -/
def Effect.withDialect (e : Effect) (d : Dialect) : Effect :=
  { e with machine := e.machine.withDialect d }

/-- What a refused instruction leaves, under another dialect. -/
def Refusal.withDialect (r : Refusal) (d : Dialect) : Refusal :=
  { r with machine := r.machine.withDialect d }

/-- What came of an instruction, under another dialect. -/
def Dialect.reading (d : Dialect) : Except Refusal Effect → Except Refusal Effect
  | .ok e => .ok (e.withDialect d)
  | .error r => .error (r.withDialect d)

namespace Machine

/-- Whether a set bit of a sprite that is drawn at (`VX`, `VY`) lies past the right or the bottom
edge. -/
def PastEdge (m : Machine) (x y : Reg) (bit : Nat × Nat) : Prop :=
  m.screen.frame.width ≤ (m.get x).toNat % m.screen.frame.width + bit.1 ∨
    m.screen.frame.height ≤ (m.get y).toNat % m.screen.frame.height + bit.2

/-- Whether it can matter to an instruction that its dialect is that of the machine and not `d`. -/
def Matters (m : Machine) (d : Dialect) : Instruction → Prop
  | .or .. | .and .. | .xor .. => m.dialect.logicClearsFlag ≠ d.logicClearsFlag
  | .shiftRight x y | .shiftLeft x y =>
    m.dialect.shiftOperand ≠ d.shiftOperand ∧ m.get x ≠ m.get y
  | .jumpOffset x _ => m.dialect.jumpRegister ≠ d.jumpRegister ∧ x ≠ Reg.first
  | .draw x y rows =>
    m.dialect.spriteEdges ≠ d.spriteEdges ∧
      ∃ sprite, m.memory.ram.read? m.registers.i.toNat rows.toNat = .ok sprite ∧
        ∃ bit ∈ Sprite.bits sprite, m.PastEdge x y bit
  | .save x | .restore x =>
    m.registers.i.toNat + x.val + 1 ≤ 4096 ∧
      (m.dialect.transferMovesIndex ≠ d.transferMovesIndex ∨
        m.dialect.transferMovesIndex = true ∧ m.dialect.indexOverflow ≠ d.indexOverflow ∧
          0xfff < m.registers.i.toNat + x.val + 1)
  | .addIndex x =>
    m.dialect.indexOverflow ≠ d.indexOverflow ∧ 0xfff < m.registers.i.toNat + (m.get x).toNat
  | _ => False

/-- Whether it cannot matter to the next step that the dialect is not `d`. -/
def Indifferent (d : Dialect) (m : Machine) : Prop :=
  ∀ i, m.Due i → ¬ m.Matters d i

end Machine

/-! ## Each question by itself

Bitwise operations, shifts, jumps with an offset, the edges of the screen, transfers and the index,
each with the condition under which the answer does not show. -/

/-- Below the end of memory no index overflows. -/
theorem IndexOverflow.bound_of_le (policy : IndexOverflow) {raw : Nat} (h : raw ≤ 0xfff) :
    policy.bound raw = UInt16.ofNat raw := by
  cases policy with
  | unbounded => rfl
  | wrap => rw [bound, Nat.mod_eq_of_lt (Nat.lt_succ_of_le h)]
  | clamp => rw [bound, Nat.min_eq_left h]

/-- Where both name the same register, or `V0` is the one that is named, the same is added. -/
theorem JumpRegister.pick_of_same {j j' : JumpRegister} {x : Reg} (h : j = j' ∨ x = Reg.first) :
    j.pick x = j'.pick x := by
  obtain rfl | rfl := h
  · rfl
  · cases j with
    | _ => cases j' with
      | _ => rfl

/-- A sprite that fits strikes the same pixels, whatever is done at the edges. -/
theorem Frame.hits_of_fits {f : Frame} {x y : UInt8} {sprite : List UInt8}
    (h : ∀ bit ∈ Sprite.bits sprite,
      x.toNat % f.width + bit.1 < f.width ∧ y.toNat % f.height + bit.2 < f.height)
    (edges edges' : SpriteEdges) : f.hits x y sprite edges = f.hits x y sprite edges' := by
  have hland (edges : SpriteEdges) : ∀ bit ∈ Sprite.bits sprite,
      f.land? edges (x.toNat % f.width + bit.1) (y.toNat % f.height + bit.2) =
        some (x.toNat % f.width + bit.1, y.toNat % f.height + bit.2) := by
    intro bit hbit
    obtain ⟨hx, hy⟩ := h bit hbit
    cases edges with
    | wrap => rw [land?, Nat.mod_eq_of_lt hx, Nat.mod_eq_of_lt hy]
    | clip => rw [land?, if_pos ⟨hx, hy⟩]
  refine List.filterMap_congr ?_
  intro bit hbit
  exact (hland edges bit hbit).trans (hland edges' bit hbit).symm

namespace Machine

variable {m : Machine} {d : Dialect}

/-- Another dialect leaves memory as it is. -/
@[simp] theorem withDialect_memory : (m.withDialect d).memory = m.memory := rfl

@[simp] theorem withDialect_registers : (m.withDialect d).registers = m.registers := rfl

@[simp] theorem withDialect_stack : (m.withDialect d).stack = m.stack := rfl

@[simp] theorem withDialect_keypad : (m.withDialect d).keypad = m.keypad := rfl

/-- What is refused does not depend on it. -/
@[simp] theorem withDialect_access {α : Type} (result : Except OutOfBounds α) :
    (m.withDialect d).access result = m.access result := rfl

/-- Dialects that agree about the flag leave the same registers. -/
theorem setLogic_withDialect (h : m.dialect.logicClearsFlag = d.logicClearsFlag) (x : Reg)
    (value : UInt8) : (m.withDialect d).setLogic x value = (m.setLogic x value).withDialect d := by
  unfold setLogic
  rw [h]
  show (if d.logicClearsFlag then _ else _) = _
  split
  · rfl
  · rfl

/-- Where both registers hold the same value it does not matter which is shifted. -/
theorem shiftOperand_withDialect {x y : Reg}
    (h : ¬ (m.dialect.shiftOperand ≠ d.shiftOperand ∧ m.get x ≠ m.get y)) :
    (m.withDialect d).shiftOperand x y = m.shiftOperand x y := by
  by_cases hsame : m.dialect.shiftOperand = d.shiftOperand
  · unfold shiftOperand
    rw [hsame]
    rfl
  · -- both registers hold the same value
    have heq : m.get x = m.get y := not_not.1 fun hne => h ⟨hsame, hne⟩
    have hvalue (m' : Machine) (hx : m'.get x = m.get y) (hy : m'.get y = m.get y) :
        m'.shiftOperand x y = m.get y := by
      unfold shiftOperand
      split
      · exact hy
      · exact hx
    exact (hvalue (m.withDialect d) heq rfl).trans (hvalue m heq rfl).symm

theorem pick_withDialect {x : Reg}
    (h : ¬ (m.dialect.jumpRegister ≠ d.jumpRegister ∧ x ≠ Reg.first)) :
    d.jumpRegister.pick x = m.dialect.jumpRegister.pick x := by
  refine JumpRegister.pick_of_same ?_
  by_cases hsame : m.dialect.jumpRegister = d.jumpRegister
  · exact .inl hsame.symm
  · exact .inr (not_not.1 fun hx => h ⟨hsame, hx⟩)

/-- Two policies agree on where an index lands, unless they differ and it overflows. -/
theorem bound_withDialect {raw : Nat}
    (h : ¬ (m.dialect.indexOverflow ≠ d.indexOverflow ∧ 0xfff < raw)) :
    d.indexOverflow.bound raw = m.dialect.indexOverflow.bound raw := by
  by_cases hsame : m.dialect.indexOverflow = d.indexOverflow
  · rw [hsame]
  · have hle : raw ≤ 0xfff := Nat.le_of_not_lt fun hlt => h ⟨hsame, hlt⟩
    rw [IndexOverflow.bound_of_le _ hle, IndexOverflow.bound_of_le _ hle]

/-- A transfer leaves the same index if both move it and no bound shows. -/
theorem indexAfterTransfer_withDialect {x : Reg}
    (h : ¬ (m.dialect.transferMovesIndex ≠ d.transferMovesIndex ∨
        m.dialect.transferMovesIndex = true ∧ m.dialect.indexOverflow ≠ d.indexOverflow ∧
          0xfff < m.registers.i.toNat + x.val + 1)) :
    (m.withDialect d).indexAfterTransfer x = m.indexAfterTransfer x := by
  obtain ⟨hmoves, hbound⟩ := not_or.1 h
  show (if d.transferMovesIndex then d.indexOverflow.bound (m.registers.i.toNat + x.val + 1)
    else m.registers.i) = _
  rw [indexAfterTransfer, ← not_not.1 hmoves]
  split
  · next htrue => exact bound_withDialect fun hdiffer => hbound ⟨htrue, hdiffer⟩
  · rfl

/-- A sprite of which no bit is past an edge is drawn alike. -/
theorem draw_withDialect {x y : Reg} {rows : UInt8} {sprite : List UInt8}
    (h : ¬ (m.dialect.spriteEdges ≠ d.spriteEdges ∧ ∃ bit ∈ Sprite.bits sprite, m.PastEdge x y bit)) :
    (m.withDialect d).draw x y rows sprite = (m.draw x y rows sprite).withDialect d := by
  -- with no bit past an edge, it does not matter what is done with those that are
  have hhits : m.screen.frame.hits (m.get x) (m.get y) sprite d.spriteEdges =
      m.screen.frame.hits (m.get x) (m.get y) sprite m.dialect.spriteEdges := by
    by_cases hsame : m.dialect.spriteEdges = d.spriteEdges
    · rw [hsame]
    · refine Frame.hits_of_fits ?_ _ _
      intro bit hbit
      have hfits : ¬ m.PastEdge x y bit := fun hpast => h ⟨hsame, bit, hbit, hpast⟩
      simpa only [PastEdge, not_or, Nat.not_le] using hfits
  have hdraw : m.screen.draw (m.get x) (m.get y) sprite d.spriteEdges =
      m.screen.draw (m.get x) (m.get y) sprite m.dialect.spriteEdges := by
    simp only [Screen.draw, Frame.imprint, hhits]
  show Effect.mk (setFlag { m.withDialect d with
    screen := (m.screen.draw (m.get x) (m.get y) sprite d.spriteEdges).1 }
    (m.screen.draw (m.get x) (m.get y) sprite d.spriteEdges).2) _ _ = _
  rw [hdraw]
  rfl

/-! ## One instruction

The instructions are gone through once. Those that no question concerns read nothing of the dialect,
and for the others the condition is that of their question. -/

/-- An access succeeds as the memory says. -/
theorem access_eq_ok_iff {α : Type} (m : Machine) (result : Except OutOfBounds α) (a : α) :
    m.access result = .ok a ↔ result = .ok a := by
  cases result with
  | _ => simp [access]

/-- Where both go on alike with a result, they do the same without one. -/
theorem orRefuse_withDialect {α : Type} {result : Except Fault α} {go go' : α → Effect}
    (h : ∀ a, result = .ok a → go' a = (go a).withDialect d) :
    (m.withDialect d).orRefuse result go' = d.reading (m.orRefuse result go) := by
  cases result with
  | error fault => rfl
  | ok a =>
    simp only [orRefuse, Dialect.reading, h a rfl]

/-- What is done to a result first can be done when going on. -/
theorem orRefuse_map {α β : Type} (m : Machine) (result : Except Fault α) (f : α → β)
    (go : β → Effect) : m.orRefuse (result.map f) go = m.orRefuse result (go ∘ f) := by
  cases result with
  | _ => rfl

/-- Writing at the index does not depend on the dialect. -/
theorem writeAtIndex_withDialect (data : List UInt8) :
    (m.withDialect d).writeAtIndex data = (m.writeAtIndex data).map (withDialect · d) := by
  simp only [writeAtIndex, withDialect_memory, withDialect_registers, withDialect_access]
  cases m.access (m.memory.ram.write? m.registers.i.toNat data) with
  | _ => rfl

/-- **An instruction to which the difference does not matter does the same under both dialects.** -/
theorem perform_withDialect {i : Instruction} (h : ¬ m.Matters d i) :
    (m.withDialect d).perform i = d.reading (m.perform i) := by
  cases i with
  | or x y | and x y | xor x y =>
    show Except.ok (Effect.next ((m.withDialect d).setLogic x _)) = _
    rw [setLogic_withDialect (not_not.1 h)]
    rfl
  | shiftRight x y | shiftLeft x y =>
    simp only [perform, shiftOperand_withDialect h]
    rfl
  | jumpOffset x target =>
    show Except.ok (Effect.goto _ (.jump (target + (m.get (d.jumpRegister.pick x)).toUInt16))) = _
    rw [pick_withDialect h]
    rfl
  | draw x y rows =>
    refine orRefuse_withDialect ?_
    intro sprite hread
    refine draw_withDialect ?_
    rintro ⟨hdiffer, hpast⟩
    exact h ⟨hdiffer, sprite, (access_eq_ok_iff _ _ _).1 hread, hpast⟩
  | save x =>
    show (m.withDialect d).orRefuse ((m.withDialect d).writeAtIndex (m.registers.upTo x)) _ = _
    rw [writeAtIndex_withDialect, orRefuse_map]
    refine orRefuse_withDialect ?_
    intro m' hwrite
    -- the write has succeeded, so the condition is about the index alone
    have hfits : m.registers.i.toNat + x.val + 1 ≤ 4096 := by
      refine Nat.le_of_not_lt fun hlt => ?_
      have hrefused := (writeAtIndex_error_iff m (m.registers.upTo x) _).2
        ⟨by rw [length_upTo]; exact hlt, rfl⟩
      rw [hwrite] at hrefused
      contradiction
    have hindex := indexAfterTransfer_withDialect fun hmatters => h ⟨hfits, hmatters⟩
    show Effect.next (setIndex _ ((m.withDialect d).indexAfterTransfer x)) = _
    rw [hindex]
    rfl
  | restore x =>
    refine orRefuse_withDialect ?_
    intro data hread
    have hfits := ((Ram.read?_eq_ok_iff _ _ _ _).1 ((access_eq_ok_iff _ _ _).1 hread)).1
    have hindex := indexAfterTransfer_withDialect fun hmatters => h ⟨hfits, hmatters⟩
    show Effect.next (setIndex _ ((m.withDialect d).indexAfterTransfer x)) = _
    rw [hindex]
    rfl
  | addIndex x =>
    show Except.ok (Effect.next ((setIndex _ (d.indexOverflow.bound
      (m.registers.i.toNat + (m.get x).toNat))).setFlag _)) = _
    rw [bound_withDialect h]
    rfl
  | leave =>
    simp only [perform, withDialect_stack]
    cases m.stack.pop? with
    | _ => rfl
  | call target =>
    simp only [perform, withDialect_stack, withDialect_registers]
    cases m.stack.push? (m.registers.pc + 2) with
    | _ => rfl
  | waitKey x =>
    simp only [perform, withDialect_keypad]
    cases m.keypad.first? with
    | _ => rfl
  | skipIfKey x | skipUnlessKey x =>
    refine orRefuse_withDialect ?_
    intro down _
    rfl
  | decimal x =>
    show (m.withDialect d).orRefuse ((m.withDialect d).writeAtIndex (decimalDigits (m.get x))) _ = _
    rw [writeAtIndex_withDialect, orRefuse_map]
    refine orRefuse_withDialect ?_
    intro m' _
    rfl
  | _ => rfl

end Machine

/-! ## One action

Two reactions are compared by what they answer and by the lines that they report, on the screen and
in the file. -/

/-- A finished step, as the answer to an action. -/
def Step.reaction (s : Step) : Reaction :=
  ⟨s.machine, .stepped s.outcome, s.log⟩

/-- Two reactions of machines of which the second has the dialect `d`: they answer and report the
same, and nothing but the dialect tells the machines apart. -/
structure Reaction.Alike (d : Dialect) (r r' : Reaction) : Prop where
  reply : r'.reply = r.reply
  machine : r'.machine = r.machine.withDialect d
  line : r'.log.map Event.line = r.log.map Event.line
  fileLine : r'.log.map Event.fileLine = r.log.map Event.fileLine

namespace Machine

variable {m : Machine} {d : Dialect}

/-- What follows an instruction does not depend on the dialect. -/
theorem settle_withDialect (e : Effect) :
    (m.withDialect d).settle (e.withDialect d) =
      { m.settle e with machine := (m.settle e).machine.withDialect d } := by
  obtain ⟨machine, flow, log⟩ := e
  cases flow with
  | _ => rfl

theorem recover_withDialect (fault : Fault) :
    (m.withDialect d).recover fault =
      { m.recover fault with machine := (m.recover fault).machine.withDialect d } := by
  unfold recover
  cases fault.staysPut with
  | _ => rfl

/-- The trace of an instruction reads the same if the difference does not matter to it: a jump with
an offset names a register, and every other text is the same in all dialects. -/
theorem mnemonic_withDialect {i : Instruction} (h : ¬ m.Matters d i) :
    i.mnemonic d.jumpRegister = i.mnemonic m.dialect.jumpRegister := by
  cases i with
  | jumpOffset x target => simp only [Instruction.mnemonic, pick_withDialect h]
  | _ => rfl

/-- So an instruction to which the difference does not matter is carried out alike. -/
theorem alike_execute {i : Instruction} (h : ¬ m.Matters d i) :
    (m.execute i).reaction.Alike d ((m.withDialect d).execute i).reaction := by
  have hperform := perform_withDialect h
  have htext : (Event.executing i d.jumpRegister m.registers.pc).text =
      (Event.executing i m.dialect.jumpRegister m.registers.pc).text := by
    simp only [Event.text, Event.message, mnemonic_withDialect h, Event.fields]
  -- the traces differ as data, and what follows them is the same
  have hexecute : (m.withDialect d).execute i =
      ⟨(m.execute i).outcome, (m.execute i).machine.withDialect d,
        .executing i d.jumpRegister m.registers.pc :: (m.execute i).log.tail⟩ := by
    unfold execute
    rw [hperform]
    cases m.perform i with
    | ok e => simp only [Dialect.reading, settle_withDialect]; rfl
    | error refusal => simp only [Dialect.reading, Refusal.withDialect, recover_withDialect]; rfl
  have hline : (Event.executing i d.jumpRegister m.registers.pc).line =
      (Event.executing i m.dialect.jumpRegister m.registers.pc).line :=
    congrArg (Level.trace.name ++ " " ++ ·) htext
  have hfileLine : (Event.executing i d.jumpRegister m.registers.pc).fileLine =
      (Event.executing i m.dialect.jumpRegister m.registers.pc).fileLine :=
    congrArg (Level.trace.name ++ " " ++ Part.machine.target ++ ": " ++ ·) htext
  rw [hexecute]
  exact ⟨rfl, rfl, congrArg (· :: (m.execute i).log.tail.map Event.line) hline,
    congrArg (· :: (m.execute i).log.tail.map Event.fileLine) hfileLine⟩

/-- A step is alike if the difference does not matter to the instruction that is due. -/
theorem alike_step (h : m.Indifferent d) :
    m.step.reaction.Alike d (m.withDialect d).step.reaction := by
  cases hword : m.memory.ram.word? m.registers.pc.toNat with
  | error range =>
    have hword' : (m.withDialect d).memory.ram.word? (m.withDialect d).registers.pc.toNat =
      .error range := hword
    rw [step_of_fetch_error hword, step_of_fetch_error hword']
    exact ⟨rfl, rfl, rfl, rfl⟩
  | ok word =>
    have hfetch' : (m.withDialect d).Fetches word := hword
    rw [step_of_fetches hword, step_of_fetches hfetch']
    exact alike_execute (h _ ⟨word, hword, rfl⟩)

/-- The dialect has no part in what is loaded. -/
theorem load_withDialect (source : Source) :
    (m.withDialect d).load source =
      (m.load source).map fun (len, m', loaded) => (len, m'.withDialect d, loaded) := by
  simp only [load, withDialect_memory]
  cases m.memory.load source with
  | _ => rfl

/-- So is any other action but a reset. -/
theorem alike_act {a : Action} (hreset : a ≠ .reset)
    (h : a = .step → m.Indifferent d) {r : Reaction} (hact : m.act a = .ok r) :
    ∃ r', (m.withDialect d).act a = .ok r' ∧ r.Alike d r' := by
  cases a with
  | reset => exact absurd rfl hreset
  | step =>
    obtain rfl := Except.ok.inj hact
    exact ⟨_, rfl, alike_step (h rfl)⟩
  -- a load is answered by memory, which both have in common
  | load source =>
    have hact' : (m.withDialect d).act (.load source) =
        .ok { r with machine := r.machine.withDialect d } := by
      simp only [act, load_withDialect] at hact ⊢
      cases hload : m.load source with
      | _ =>
        simp only [hload] at hact
        obtain rfl := Except.ok.inj hact
        rfl
    exact ⟨_, hact', rfl, rfl, rfl, rfl⟩
  -- the others write a part that no dialect is asked about
  | _ =>
    obtain rfl := Except.ok.inj hact
    exact ⟨_, rfl, rfl, rfl, rfl, rfl⟩

/-! ## Histories

The actions before the last keep the machines alike, and the last one is compared in what it
answers. -/

/-- **Dialects agree on every history that keeps clear of their differences**: machines that only
their dialects tell apart answer each of its actions in the same way, report the same, and stay
apart in their dialects alone. -/
theorem dialects_agree (m : Machine) (d : Dialect) (earlier : List Action) (a : Action)
    (hreset : ∀ b ∈ earlier ++ [a], b ≠ .reset) (h : m.AtSteps (Indifferent d) (earlier ++ [a])) :
    ∃ n r r', m.acts earlier = .ok n ∧ (m.withDialect d).acts earlier = .ok (n.withDialect d) ∧
      n.act a = .ok r ∧ (n.withDialect d).act a = .ok r' ∧ r.Alike d r' := by
  -- the induction is on what comes before the action; each earlier action is one `alike_act`
  induction earlier generalizing m with
  | nil =>
    obtain ⟨r, hact⟩ := exists_act_of_ne_reset m (hreset a List.mem_cons_self)
    obtain ⟨r', hact', halike⟩ := alike_act (hreset a List.mem_cons_self) h.1 hact
    exact ⟨m, r, r', rfl, rfl, hact, hact', halike⟩
  | cons b rest ih =>
    obtain ⟨s, hb⟩ := exists_act_of_ne_reset m (hreset b List.mem_cons_self)
    obtain ⟨s', hb', halike⟩ := alike_act (hreset b List.mem_cons_self) h.1 hb
    obtain ⟨n, r, r', hacts, hacts', hlast⟩ :=
      ih s.machine (fun c hc => hreset c (List.mem_cons_of_mem b hc)) (h.2 s hb)
    refine ⟨n, r, r', ?_, ?_, hlast⟩
    · rw [acts_cons hb]
      exact hacts
    · rw [acts_cons hb', halike.machine]
      exact hacts'

/-- `8006 F01E` halves a register in place and moves the index within memory: the two dialects
differ about shifts and about overflows, and agree here. -/
theorem legacy_agrees_with_modern :
    ∃ h : Config.standard.Valid,
      let program := Ram.zero.overwrite 0x200 [0x80, 0x06, 0xf0, 0x1e]
      let m := { fresh Config.standard h (.ofSeed 0) [] with
        memory := ⟨program, 0x200, 0x50, 4⟩ }
      m.dialect = .legacy ∧ (∀ b ∈ [Action.step, .tick] ++ [.step], b ≠ .reset) ∧
        m.AtSteps (Indifferent .modern) ([.step, .tick] ++ [.step]) ∧
        ∃ n r r', m.acts [.step, .tick] = .ok n ∧
          (m.withDialect .modern).acts [.step, .tick] = .ok (n.withDialect .modern) ∧
          n.act .step = .ok r ∧ (n.withDialect .modern).act .step = .ok r' ∧ r.Alike .modern r' := by
  refine ⟨(Config.check_eq_ok_iff _).1 rfl, ?_⟩
  intro program m
  have hreset : ∀ b ∈ [Action.step, .tick] ++ [.step], b ≠ .reset := by decide
  -- both registers of the shift are the same one
  have hshift : m.Fetches 0x8006 := by decide +kernel
  -- and the index is moved, but not past the end
  have hmove : (m.step.machine.tick 1).Fetches 0xf01e := by decide +kernel
  have hindifferent : m.AtSteps (Indifferent .modern) ([.step, .tick] ++ [.step]) := by
    refine ⟨?_, ?_⟩
    · rintro - i due
      obtain rfl := due.eq_decode hshift
      exact fun hmatters => hmatters.2 rfl
    · rintro r hr
      obtain rfl := Except.ok.inj hr
      refine ⟨nofun, ?_⟩
      rintro r hr
      obtain rfl := Except.ok.inj hr
      refine ⟨?_, fun _ _ => trivial⟩
      rintro - i due
      obtain rfl := due.eq_decode hmove
      have hle : ¬ 0xfff < (m.step.machine.tick 1).registers.i.toNat +
          ((m.step.machine.tick 1).get 0).toNat := by decide +kernel
      exact fun hmatters => hle hmatters.2
  exact ⟨rfl, hreset, hindifferent, dialects_agree m .modern _ _ hreset hindifferent⟩

end Machine

end Cosmac
