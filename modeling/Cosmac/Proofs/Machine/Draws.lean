import Cosmac.Proofs.Machine.Reset
import Cosmac.Proofs.Machine.Writes

/-!
# Cosmac — random bytes, one after the other

The random bytes of a machine are the low bytes of the words of one stream. The instruction that
asks for a byte takes the next word, whatever it keeps of it, and nothing else takes any.

A generator is a key and a position, and the words are a function of the two. So nothing has to be
known of the words themselves: the statement is that the position counts the draws, and that is an
invariant that each action keeps. A reset is such an action too. It leaves the generator where it
is, and what follows goes on with the stream.

* `Machine.rolls` is what a history draws, in order.
* `Generator.Yields` — some draws are what the stream has from a position on; `Yields.append` — so
  are two lists of draws one after the other.
* `yields_step` and `generator_of_act` — a step draws once if a random byte is due, and nothing else
  draws.
* `rolls_follow_stream` — from a new machine on, draw number `k` is word number `k` of the stream,
  and the generator has moved on by as many words as there were draws.
-/

namespace Cosmac

/-- The generator `n` words further on. -/
def Generator.past (g : Generator) (n : Nat) : Generator :=
  { g with position := g.position + n }

theorem Generator.past_past (g : Generator) (n k : Nat) : (g.past n).past k = g.past (n + k) := by
  simp only [past, Nat.add_assoc]

/-- The words that are ahead are those further along the stream. -/
theorem Generator.word_past (g : Generator) (n k : Nat) :
    (g.past n).word ((g.past n).position + k) = g.word (g.position + (n + k)) := by
  rw [← Nat.add_assoc]
  rfl

/-- A random byte that was drawn: the register that it went to, the mask, and what the register
holds after that. -/
structure Roll where
  register : Reg
  mask : UInt8
  value : UInt8
  deriving DecidableEq

/-- Draws are the low bytes of the stream from where a generator stands, as far as their masks keep
them. -/
def Generator.Yields (g : Generator) (rolls : List Roll) : Prop :=
  ∀ k roll, rolls[k]? = some roll →
    roll.value = (g.word (g.position + k)).toUInt8 &&& roll.mask

/-- Draws can be checked in two parts, the second from where the first has ended. -/
theorem Generator.Yields.append {g : Generator} {rolls later : List Roll} (h : g.Yields rolls)
    (h' : (g.past rolls.length).Yields later) : g.Yields (rolls ++ later) := by
  intro k roll hk
  by_cases hlt : k < rolls.length
  · rw [List.getElem?_append_left hlt] at hk
    exact h k roll hk
  · rw [List.getElem?_append_right (Nat.le_of_not_lt hlt)] at hk
    -- the draw belongs to the second part, and its number counts from there
    have hvalue := h' (k - rolls.length) roll hk
    rw [word_past, Nat.add_sub_cancel' (Nat.le_of_not_lt hlt)] at hvalue
    exact hvalue

namespace Machine

variable {m m' : Machine}

/-- What the next step draws, if its instruction asks for a random byte. -/
def roll? (m : Machine) : Option Roll :=
  match m.memory.ram.word? m.registers.pc.toNat with
  | .error _ => none
  | .ok word =>
    match Instruction.decode word with
    | .random x nn => some ⟨x, nn, m.step.machine.get x⟩
    | _ => none

/-- What an action draws; only steps do. -/
def drawn (m : Machine) : Action → List Roll
  | .step => m.roll?.toList
  | _ => []

/-- What a history draws, one draw after the other. -/
def rolls (m : Machine) : List Action → List Roll
  | [] => []
  | a :: rest =>
    match m.act a with
    | .error _ => []
    | .ok r => m.drawn a ++ r.machine.rolls rest

theorem rolls_cons {a : Action} {r : Reaction} (h : m.act a = .ok r) (rest : List Action) :
    m.rolls (a :: rest) = m.drawn a ++ r.machine.rolls rest := by
  simp only [rolls, h]

/-- A step draws exactly if a random instruction is due. -/
theorem roll?_eq_some_iff (m : Machine) (roll : Roll) :
    m.roll? = some roll ↔
      m.Due (.random roll.register roll.mask) ∧ roll.value = m.step.machine.get roll.register := by
  obtain ⟨register, mask, value⟩ := roll
  constructor
  · -- the roll is read off the word that is fetched
    intro h
    unfold roll? at h
    split at h
    · contradiction
    · next word hword =>
      split at h
      · next x nn hdecode =>
        obtain ⟨rfl, rfl, rfl⟩ := Roll.mk.inj (Option.some.inj h)
        exact ⟨⟨word, hword, hdecode⟩, rfl⟩
      · contradiction
  · rintro ⟨⟨word, hfetch, hdecode⟩, hvalue⟩
    have hword : m.memory.ram.word? m.registers.pc.toNat = .ok word := hfetch
    obtain rfl : value = m.step.machine.get register := hvalue
    simp only [roll?, hword, hdecode]

/-! ## One action

A step with a random instruction takes one word. That all other instructions leave the generator
alone is a case of what instructions write. -/

/-- A random instruction takes the next word, also where the mask leaves nothing of it. -/
theorem step_of_due_random {x : Reg} {nn : UInt8} (due : m.Due (.random x nn)) :
    m.step.machine.generator = m.generator.past 1 ∧
      m.step.machine.get x = (m.generator.word m.generator.position).toUInt8 &&& nn := by
  rw [due.step_eq]
  refine ⟨rfl, ?_⟩
  show (m.registers.set x _).get x = _
  rw [Registers.get_set_self]
  rfl

/-- Without a random instruction the generator stays where it is. -/
theorem generator_of_not_due_random (h : ∀ x nn, ¬ m.Due (.random x nn)) :
    m.step.machine.generator = m.generator := by
  cases hword : m.memory.ram.word? m.registers.pc.toNat with
  | error range =>
    rw [step_of_fetch_error hword]
    rfl
  | ok word =>
    have hfetch : m.Fetches word := hword
    rw [step_of_fetches hfetch]
    cases hperform : m.perform (Instruction.decode word) with
    | error refusal => rw [(execute_of_refusal hperform).2]
    | ok e =>
      obtain ⟨pc, idleAt, heq⟩ := machine_settle_eq m e
      rw [(execute_of_perform hperform).2, heq]
      -- of all that instructions write, the generator is written by one
      apply (writesOnly_of_perform hperform).generator
      rintro ⟨x, nn, hdecode⟩
      exact h x nn ⟨word, hfetch, hdecode⟩

/-- **A step draws once if a random byte is due, and else not at all.** -/
theorem yields_step (m : Machine) :
    m.generator.Yields (m.drawn .step) ∧
      m.step.machine.generator = m.generator.past (m.drawn .step).length := by
  unfold drawn
  cases hroll : m.roll? with
  | some roll =>
    obtain ⟨due, hvalue⟩ := (m.roll?_eq_some_iff roll).1 hroll
    obtain ⟨hgenerator, hget⟩ := step_of_due_random due
    refine ⟨?_, hgenerator⟩
    intro k roll' hk
    obtain ⟨rfl, rfl⟩ : k = 0 ∧ roll = roll' := by simpa [List.getElem?_singleton] using hk
    rw [hvalue]
    exact hget
  -- if a random byte were due there would be a roll
  | none =>
    refine ⟨nofun, generator_of_not_due_random ?_⟩
    intro x nn due
    have hsome := (m.roll?_eq_some_iff ⟨x, nn, m.step.machine.get x⟩).2 ⟨due, rfl⟩
    rw [hroll] at hsome
    contradiction

/-- **Nothing but a step draws**: neither a load nor a reset, nor anything else that is done to a
machine. -/
theorem generator_of_act {a : Action} (hstep : a ≠ .step) {r : Reaction} (h : m.act a = .ok r) :
    r.machine.generator = m.generator := by
  by_cases hreset : a = .reset
  · subst hreset
    obtain ⟨memory, -, hmachine⟩ := exists_memory_of_reset? (reset?_of_act h)
    rw [hmachine]
  · obtain ⟨memory, registers, timers, keypad, hmachine⟩ := exists_of_act hstep hreset h
    rw [hmachine]

/-- So an action yields what it draws. -/
theorem yields_act {a : Action} {r : Reaction} (h : m.act a = .ok r) :
    m.generator.Yields (m.drawn a) ∧
      r.machine.generator = m.generator.past (m.drawn a).length := by
  by_cases hstep : a = .step
  · subst hstep
    obtain rfl := Except.ok.inj h
    exact yields_step m
  · have hnone : m.drawn a = [] := by
      unfold drawn
      split
      · contradiction
      · rfl
    rw [hnone]
    exact ⟨nofun, generator_of_act hstep h⟩

/-! ## Histories

By induction on the actions, from any generator. -/

/-- The draws of a history are what the generator yields from where it stood. -/
theorem yields_acts {actions : List Action} (h : m.acts actions = .ok m') :
    m.generator.Yields (m.rolls actions) ∧
      m'.generator = m.generator.past (m.rolls actions).length := by
  induction actions generalizing m with
  | nil =>
    obtain rfl := Except.ok.inj h
    exact ⟨nofun, rfl⟩
  | cons a rest ih =>
    obtain ⟨r, hact, hrest⟩ := (acts_cons_eq_ok_iff _ _ _ _).1 h
    obtain ⟨hdrawn, hgenerator⟩ := yields_act hact
    obtain ⟨hlater, hend⟩ := ih hrest
    -- the others start where the first action has left the generator
    rw [hgenerator] at hlater hend
    rw [rolls_cons hact]
    refine ⟨hdrawn.append hlater, ?_⟩
    rw [hend, Generator.past_past, List.length_append]

/-- **The draws of a machine follow its stream.** After every history of a new machine, draw number
`k` has left the low byte of word number `k` in its register, as far as the mask keeps it; and the
generator stands behind as many words as there were draws. -/
theorem rolls_follow_stream {config : Config} {entropy : ChaCha.Key} {start : Machine}
    (hnew : Machine.new config entropy = .ok start) (actions : List Action) :
    ∃ m, start.acts actions = .ok m ∧
      (∀ k roll, (start.rolls actions)[k]? = some roll →
        roll.value.toNat = ((start.generator.word k).toNat % 256) &&& roll.mask.toNat) ∧
      m.generator = ⟨start.generator.key, (start.rolls actions).length⟩ := by
  have hbuilt := builtFrom_of_new hnew
  obtain ⟨hvalid, rfl⟩ := eq_fresh_of_new hnew
  obtain ⟨m, hm, -⟩ := hbuilt.acts hvalid actions
  obtain ⟨hvalues, hgenerator⟩ := yields_acts hm
  refine ⟨m, hm, ?_, ?_⟩
  · intro k roll hk
    rw [hvalues k roll hk, UInt8.toNat_and, UInt32.toNat_toUInt8]
    simp only [fresh, Generator.start, Generator.ofKey, Nat.zero_add]
  · rw [hgenerator]
    simp only [fresh, Generator.past, Generator.start, Generator.ofKey, Nat.zero_add]

/-- `C0FF CF00` draws into `V0`, and into `VF` with nothing kept; a reset runs `C0FF` once more. The
third draw is the third word. -/
theorem rolls_through_reset :
    let actions : List Action := [.load (.ofBytes [0xc0, 0xff, 0xcf, 0x00]), .step, .setKey 3 true,
      .step, .reset, .tick, .step]
    ∃ start m, Machine.new Config.standard (Seed.key 7) = .ok start ∧ start.acts actions = .ok m ∧
      (start.rolls actions).map (·.register) = [0, 0xf, 0] ∧
      (∀ roll, (start.rolls actions)[2]? = some roll →
        roll.value.toNat = ((start.generator.word 2).toNat % 256) &&& roll.mask.toNat) ∧
      m.generator.position = 3 := by
  intro actions
  have hrolls : ((Machine.new Config.standard (Seed.key 7)).toOption.map fun start =>
      (start.rolls actions).map (·.register)) = some [0, 0xf, 0] := by decide +kernel
  obtain ⟨start, hnew, hregisters⟩ := Option.map_eq_some_iff.1 hrolls
  obtain ⟨m, hm, hvalues, hgenerator⟩ := rolls_follow_stream (eq_ok_of_toOption hnew) actions
  have hlength := congrArg List.length hregisters
  rw [List.length_map] at hlength
  refine ⟨start, m, eq_ok_of_toOption hnew, hm, hregisters, hvalues 2, ?_⟩
  rw [hgenerator]
  exact hlength

end Machine

end Cosmac
