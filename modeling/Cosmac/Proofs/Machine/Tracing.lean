import Cosmac.Proofs.Instruction.Form
import Cosmac.Proofs.Instruction.Listing
import Cosmac.Proofs.Machine.Faults
import Cosmac.Proofs.Machine.Loading

/-!
# Cosmac — traces and listings

A step traces the instruction that it carries out, and a listing shows the instructions of a
program. One fetches a word through the program counter, the other cuts an image into pairs of
bytes.

The two meet in the bytes of memory. The image of the program as it is now is what memory holds from
the program on, so where the program counter is on a line, the word that is fetched has the two
bytes of that line. Decoding does not ask where a word comes from, and both texts are the mnemonic
under the same dialect. That the register in the text of a jump is the one that is added needs one
fact more: registers have different names.

* `byteAt_of_program?` — what the image has to do with memory.
* `level_of_settle` — what an instruction reports by itself is no trace.
* `traces_of_due` — a step has one trace, of the instruction that was due.
* `traced_as_listed` — where the program counter is on a line of the listing of the program, as it
  is right before the step, the step traces that line, and jumps by the register that the line
  names.
-/

namespace Cosmac

/-! ## The program in memory

The image is read from memory whenever it is asked for, so it is never out of date. -/

namespace Memory

variable {m : Memory} {image : List UInt8}

/-- A program inside memory can be read, and is as long as was recorded. -/
theorem exists_program? (h : m.programAddr.toNat + m.programLen ≤ 4096) :
    ∃ image, m.program? = .ok image ∧ image.length = m.programLen := by
  have hread : m.ram.read? m.programAddr.toNat m.programLen =
      .ok (m.ram.bytes.extract m.programAddr.toNat (m.programAddr.toNat + m.programLen)).toList :=
    (Ram.read?_eq_ok_iff _ _ _ _).2 ⟨h, rfl⟩
  refine ⟨_, by rw [program?, hread], ?_⟩
  rw [Vector.length_toList]
  omega

theorem byteAt_of_program? (h : m.program? = .ok image) (hlen : image.length = m.programLen)
    {k : Nat} (hk : k < image.length) :
    m.ram.byteAt (m.programAddr.toNat + k) = some image[k] := by
  have hread : m.ram.read? m.programAddr.toNat m.programLen = .ok image := by
    unfold program? at h
    split at h
    · contradiction
    · next hread =>
      rw [hread, Except.ok.inj h]
  have hbyte := Ram.getElem?_of_read? hread k
  rw [if_pos (by omega), List.getElem?_eq_getElem hk] at hbyte
  exact hbyte.symm

end Memory

/-! ## The lines of a listing

Line `k` is about two bytes, and its mnemonic is that of their word. -/

/-- The mnemonic on a line with two bytes. -/
theorem Listing.mnemonicOf_line (offset : JumpRegister) (base : Nat) {image : List UInt8} {k : Nat}
    (hk : 2 * k + 1 < image.length) :
    (lines offset base image)[k]?.map mnemonicOf =
      some ((Instruction.decode (wordOfBytes image[2 * k] image[2 * k + 1])).mnemonic offset) := by
  have hdrop : image.drop (2 * k) =
      image[2 * k] :: image[2 * k + 1] :: image.drop (2 * k + 2) := by
    rw [List.drop_eq_getElem_cons (by omega), List.drop_eq_getElem_cons hk]
  have hmnemonic := @mnemonicOf_text
    (Row.ofWord offset (base + 2 * k) (wordOfBytes image[2 * k] image[2 * k + 1]))
    (Nat.le_of_eq (length_bare_wordOfBytes _ _))
  rw [getElem?_lines, hdrop, text_ofWord, Option.map_some, hmnemonic]
  rfl

/-- Registers have different names. -/
theorem Reg.name_injective {r s : Reg} (h : r.name = s.name) : r = s := by
  -- a name is read as its register
  have hr := (Statement.reads_name r).read
  rw [h, (Statement.reads_name s).read] at hr
  exact (Operand.reg.inj hr).symm

namespace Machine

variable {m : Machine} {i : Instruction}

/-! ## The trace of a step

A step has its trace first. Whatever follows it in the log has another level. -/

/-- An instruction reports a drawing or nothing. -/
theorem log_of_perform {e : Effect} (h : m.perform i = .ok e) :
    e.log = [] ∨ ∃ index x y rows, e.log = [.drawing index x y rows] := by
  cases i with
  -- a drawing is the one thing that an instruction reports
  | draw x y rows =>
    obtain ⟨sprite, -, rfl⟩ := (orRefuse_eq_ok_iff _ _ _ _).1 h
    exact .inr ⟨_, _, _, _, rfl⟩
  | skipIfKey x | skipUnlessKey x | decimal x | save x | restore x =>
    obtain ⟨_, -, rfl⟩ := (orRefuse_eq_ok_iff _ _ _ _).1 h
    exact .inl rfl
  | leave | call target | waitKey x =>
    simp only [perform, refuse] at h
    split at h
    all_goals
      first
        | contradiction
        | obtain rfl := Except.ok.inj h
          exact .inl rfl
  | unknown word => contradiction
  | _ =>
    obtain rfl := Except.ok.inj h
    exact .inl rfl

/-- The events of an instruction that are traces. -/
def traces (log : List Event) : List Event :=
  log.filter (·.level = .trace)

/-- What a step reports after its trace is a sprite that is drawn and a loop that the program has
arrived in, which are no traces and no warnings. -/
theorem level_of_settle {e : Effect} (h : m.perform i = .ok e) {event : Event}
    (hmem : event ∈ (m.settle e).log) : event.level = .debug ∨ event.level = .info := by
  -- what the instruction has reported itself is a drawing, if anything
  have heffect : event ∈ e.log → event.level = .debug := by
    rcases log_of_perform h with hlog | ⟨_, _, _, _, hlog⟩
    · rw [hlog]
      nofun
    · rw [hlog, List.mem_singleton]
      rintro rfl
      rfl
  unfold settle at hmem
  cases hflow : e.flow with
  | park =>
    simp only [hflow] at hmem
    split at hmem
    · exact .inl (heffect hmem)
    · rcases List.mem_append.1 hmem with hdrawing | hidling
      · exact .inl (heffect hdrawing)
      · rw [List.mem_singleton.1 hidling]
        exact .inr rfl
  | _ =>
    simp only [hflow] at hmem
    exact .inl (heffect hmem)

/-- So what follows the trace of an instruction is no trace. -/
theorem traces_settle {e : Effect} (h : m.perform i = .ok e) : traces (m.settle e).log = [] := by
  refine List.filter_eq_nil_iff.2 ?_
  intro event hmem
  rcases level_of_settle h hmem with hlevel | hlevel
  · simp [hlevel]
  · simp [hlevel]

/-- **A step has one trace**: that of the instruction that was due. -/
theorem traces_of_due (due : m.Due i) :
    traces m.step.log = [.executing i m.dialect.jumpRegister m.registers.pc] := by
  have hrest {rest : List Event} (h : traces rest = []) :
      traces (.executing i m.dialect.jumpRegister m.registers.pc :: rest) =
        [.executing i m.dialect.jumpRegister m.registers.pc] := by
    rw [traces, List.filter_cons_of_pos (by rfl)]
    exact congrArg _ h
  rw [due.step_eq, execute]
  cases hperform : m.perform i with
  | ok e => exact hrest (traces_settle hperform)
  -- what follows the trace of a refused instruction is a warning
  | error refusal => exact hrest rfl

/-- A jump with an offset adds the register that its text names. -/
theorem pc_of_due_jumpOffset {x : Reg} {target : UInt16} (due : m.Due (.jumpOffset x target)) :
    m.step.machine.registers.pc.toNat =
      target.toNat + (m.get (m.dialect.jumpRegister.pick x)).toNat := by
  have hpc : m.step.machine.registers.pc =
      target + (m.get (m.dialect.jumpRegister.pick x)).toUInt16 := by
    rw [due.step_eq]
    rfl
  -- three digits and a byte do not outgrow an address
  have htarget : target.toNat ≤ 0xfff := by
    obtain ⟨word, -, hword⟩ := due
    have hnamed : (Instruction.decode word).target? = some target := by
      rw [hword]
      rfl
    exact Instruction.target_decode_le hnamed
  have hoffset := (m.get (m.dialect.jumpRegister.pick x)).toNat_lt
  rw [hpc, UInt16.toNat_add, UInt8.toNat_toUInt16]
  omega

/-! ## Listed and run

A line is made of two bytes of the image, and a step fetches two bytes of memory. Inside the program
these are the same bytes, and with the same dialect they have the same text. -/

/-- **What is listed is what runs.** In a machine whose program lies inside memory, as it does in
all that have come from a configuration, with the program counter on line `k` of the listing of that
program as it is now: the step has one trace, which gives the program counter and reads as the
mnemonic of the line. If it is a jump with an offset, the program goes where the line says, with the
value of the very register that it names. -/
theorem traced_as_listed {m : Machine}
    (hprogram : m.memory.programAddr.toNat + m.memory.programLen ≤ 4096) {k : Nat}
    (hk : 2 * k + 1 < m.memory.programLen)
    (hpc : m.registers.pc.toNat = m.memory.programAddr.toNat + 2 * k) :
    ∃ image traced, m.memory.program? = .ok image ∧
      traces m.step.log = [traced] ∧
      traced.fields = [("pc", m.registers.pc.toNat)] ∧
      (Listing.lines m.dialect.jumpRegister m.memory.programAddr.toNat image)[k]?.map
        Listing.mnemonicOf = some traced.message ∧
      ∀ x target, m.Due (.jumpOffset x target) →
        ∃ named : Reg, traced.message = "JP " ++ named.name ++ ", " ++ Hex.address target ∧
          ∀ r : Reg, traced.message = "JP " ++ r.name ++ ", " ++ Hex.address target →
            m.step.machine.registers.pc.toNat = target.toNat + (m.get r).toNat := by
  obtain ⟨image, himage, hlen⟩ := Memory.exists_program? hprogram
  have hk' : 2 * k + 1 < image.length := by rw [hlen]; exact hk
  -- the word that is fetched has the two bytes of the line
  have hfetch : m.Fetches (wordOfBytes image[2 * k] image[2 * k + 1]) := by
    have hhi := Memory.byteAt_of_program? himage hlen (Nat.lt_of_succ_lt hk')
    have hlo := Memory.byteAt_of_program? himage hlen hk'
    rw [Fetches, hpc]
    exact Ram.word?_eq_ok hhi hlo
  have due : m.Due (Instruction.decode (wordOfBytes image[2 * k] image[2 * k + 1])) :=
    ⟨_, hfetch, rfl⟩
  refine ⟨image, _, himage, traces_of_due due, rfl, Listing.mnemonicOf_line _ _ hk', ?_⟩
  intro x target hjump
  rw [← hjump.eq_decode hfetch]
  refine ⟨m.dialect.jumpRegister.pick x, rfl, ?_⟩
  intro r htext
  -- equal texts name equal registers
  have hname : (m.dialect.jumpRegister.pick x).name = r.name := by
    have htext' : "JP " ++ (m.dialect.jumpRegister.pick x).name ++ ", " ++ Hex.address target =
        "JP " ++ r.name ++ ", " ++ Hex.address target := htext
    simpa only [String.append_right_inj, String.append_left_inj] using htext'
  rw [pc_of_due_jumpOffset hjump, Reg.name_injective hname]

/-- `F055 0010` makes a jump of its last word. The listing shows it after that, and the program goes
where it says. -/
theorem traced_after_rewriting :
    let config := { Config.standard with
      dialect := { Dialect.legacy with jumpRegister := .vx } }
    ∃ h : config.Valid,
      let start := { fresh config h (.ofSeed 0) [] with
        memory := ⟨Ram.zero.overwrite 0x200 [0xf0, 0x55, 0x00, 0x10], 0x200, 0x50, 4⟩
        registers := { ((Registers.start 0x200).set 0 0xb3).set 3 0x05 with i := 0x202 } }
      let m := start.step.machine
      m.memory.programAddr.toNat + m.memory.programLen ≤ 4096 ∧ 2 * 1 + 1 < m.memory.programLen ∧
        m.registers.pc.toNat = m.memory.programAddr.toNat + 2 * 1 ∧
        ∃ image traced, m.memory.program? = .ok image ∧ traces m.step.log = [traced] ∧
          traced.message = "JP V3, 0x310" ∧
          (Listing.lines .vx 0x200 image)[1]?.map Listing.mnemonicOf = some "JP V3, 0x310" ∧
          m.step.machine.registers.pc.toNat = 0x315 := by
  intro config
  refine ⟨(Config.check_eq_ok_iff _).1 rfl, ?_⟩
  intro start m
  -- the first step has written over the second word, and left the layout
  have hlayout : m.layout = ⟨config.dialect, 64, 32, 0x200, 0x50, 4⟩ := layout_step start
  obtain ⟨hdialect, -, -, haddr, -, hlen⟩ := Layout.mk.inj hlayout
  have hprogram : m.memory.programAddr.toNat + m.memory.programLen ≤ 4096 := by
    rw [haddr, hlen]
    decide
  have hk : 2 * 1 + 1 < m.memory.programLen := by
    rw [hlen]
    decide
  have hpc : m.registers.pc.toNat = m.memory.programAddr.toNat + 2 * 1 := by decide +kernel
  have due : m.Due (.jumpOffset 3 0x310) := ⟨0xb310, by decide +kernel, by decide⟩
  have hthree : (m.get 3).toNat = 5 := by decide +kernel
  obtain ⟨image, traced, himage, htraced, -, hline, hjump⟩ := traced_as_listed hprogram hk hpc
  -- the text names the register that this dialect adds
  have hmessage : traced.message = "JP V3, 0x310" := by
    rw [traces_of_due due, hdialect] at htraced
    rw [← List.singleton_inj.1 htraced]
    decide
  obtain ⟨-, -, hgoes⟩ := hjump 3 0x310 due
  rw [hdialect, haddr, hmessage] at hline
  rw [hmessage] at hgoes
  refine ⟨hprogram, hk, hpc, image, traced, himage, htraced, hmessage, hline, ?_⟩
  rw [hgoes 3 (by decide), hthree]
  rfl

end Machine

end Cosmac
