import Cosmac.Proofs.Machine.Faults
import Cosmac.Proofs.Machine.Reset

/-!
# Cosmac — registers stored and loaded

`FX55` lays `V0` to `VX` down at the index and `FX65` takes them up again. What was stored comes
back, as long as nothing else is stored in its place.

Each of the two is described by what it makes of a machine, byte by byte for a store and register by
register for a load, with everything that it leaves alone. Coming back is then a matter of reading
two descriptions after each other: the byte that a load takes is the one that a store has laid
there. Stores in between are any number, with any registers and any index; they fault or not, and
either way they leave the bytes that they do not reach for.

* `Stores` and `Loads` — what each of the two does, byte by byte and register by register;
  `stores_of_fits` and `loads_of_fits` — they do it wherever the range lies inside memory.
* `refused_of_not_fits` — elsewhere they fault, and do nothing else.
* `Machine.savedAll` — other stores, which may fault or not; `byteAt_savedAll` — they leave alone
  what they do not cover.
* `stored_comes_back` — a store, other stores, and a load.
-/

namespace Cosmac

/-- Where the index is after a transfer of `V0` to `VX` that started at `i`. -/
def Dialect.indexAfterTransfer (d : Dialect) (i x : Nat) : Nat :=
  if d.transferMovesIndex then
    match d.indexOverflow with
    | .unbounded => i + x + 1
    | .wrap => (i + x + 1) % 4096
    | .clamp => min (i + x + 1) 0xfff
  else i

/-- What a store of `V0` to `VX` makes of a machine. -/
structure Stores (m m' : Machine) (x : Reg) : Prop where
  values : ∀ k, k ≤ x → m'.memory.ram.byteAt (m.registers.i.toNat + k.val) = some (m.get k)
  other : ∀ a, a < m.registers.i.toNat ∨ m.registers.i.toNat + x.val < a →
    m'.memory.ram.byteAt a = m.memory.ram.byteAt a
  registers : ∀ k, m'.get k = m.get k
  index : m'.registers.i.toNat = m.dialect.indexAfterTransfer m.registers.i.toNat x.val

/-- What a load of `V0` to `VX` makes of a machine. -/
structure Loads (m m' : Machine) (x : Reg) : Prop where
  values : ∀ k, k ≤ x → m.memory.ram.byteAt (m.registers.i.toNat + k.val) = some (m'.get k)
  other : ∀ k, x < k → m'.get k = m.get k
  memory : m'.memory = m.memory
  index : m'.registers.i.toNat = m.dialect.indexAfterTransfer m.registers.i.toNat x.val

/-- A store with registers of its own, up to `last`. -/
structure Save where
  registers : Registers
  last : Reg
  deriving DecidableEq

/-- Whether the store reaches for the byte at `a`. -/
def Save.Covers (s : Save) (a : Nat) : Prop :=
  s.registers.i.toNat ≤ a ∧ a ≤ s.registers.i.toNat + s.last.val

/-- Whether the store reaches for none of the bytes that hold `V0` to `VX` at `i`. -/
def Save.Misses (s : Save) (i : Nat) (x : Reg) : Prop :=
  s.registers.i.toNat + s.last.val < i ∨ i + x.val < s.registers.i.toNat

/-- A store that misses `V0` to `VX` misses each of them. -/
theorem Save.Misses.not_covers {s : Save} {i : Nat} {x k : Reg} (h : s.Misses i x) (hk : k ≤ x) :
    ¬ s.Covers (i + k.val) := by
  have hk' : k.val ≤ x.val := hk
  unfold Save.Misses at h
  unfold Save.Covers
  omega

namespace Registers

/-- The values that are stored are those of the registers, in order. -/
theorem getElem?_upTo (r : Registers) {x k : Reg} (h : k ≤ x) :
    (r.upTo x)[k.val]? = some (r.get k) := by
  have hlt : k.val < x.val + 1 := Nat.lt_succ_of_le h
  rw [upTo, List.getElem?_take_of_lt hlt, Vector.getElem?_toList]
  exact Vector.getElem?_eq_getElem k.isLt

theorem get_setFirst (r : Registers) (values : List UInt8) (k : Reg) :
    (r.setFirst values).get k = values[k.val]?.getD (r.get k) := by
  simp [setFirst, get]

end Registers

namespace Machine

/-- The index after a transfer, as a number. -/
theorem toNat_indexAfterTransfer {m : Machine} {x : Reg}
    (h : m.registers.i.toNat + x.val + 1 ≤ 4096) :
    (m.indexAfterTransfer x).toNat = m.dialect.indexAfterTransfer m.registers.i.toNat x.val := by
  unfold indexAfterTransfer Dialect.indexAfterTransfer IndexOverflow.bound
  by_cases hmoves : m.dialect.transferMovesIndex = true
  · rw [if_pos hmoves, if_pos hmoves]
    cases m.dialect.indexOverflow with
    | _ =>
      simp only [UInt16.toNat_ofNat']
      omega
  · rw [if_neg hmoves, if_neg hmoves]

/-! ## One transfer

Both access a range that is checked first. Inside memory they go through, outside they are refused.
-/

/-- A store inside memory stores. -/
theorem stores_of_fits {m : Machine} {x : Reg} (h : m.registers.i.toNat + x.val + 1 ≤ 4096) :
    (m.execute (.save x)).outcome = .executed ∧ Stores m (m.execute (.save x)).machine x := by
  have hlen : (m.registers.upTo x).length = x.val + 1 := length_upTo m.registers x
  have hfits : m.registers.i.toNat + (m.registers.upTo x).length ≤ Ram.size := by
    rw [hlen, Ram.size]
    omega
  obtain ⟨ram, hram⟩ : ∃ ram, ram = m.memory.ram.overwrite m.registers.i.toNat
    (m.registers.upTo x) := ⟨_, rfl⟩
  have hwrite : m.writeAtIndex (m.registers.upTo x) =
      .ok { m with memory := { m.memory with ram } } := by
    have hput := (Ram.write?_eq_ok_iff _ _ _ _).2 ⟨hfits, hram⟩
    simp only [writeAtIndex, access, hput]
  have hperform : m.perform (.save x) = .ok (.next
      ({ m with memory := { m.memory with ram } }.setIndex (m.indexAfterTransfer x))) :=
    (orRefuse_eq_ok_iff _ _ _ _).2 ⟨_, hwrite, rfl⟩
  obtain ⟨houtcome, hmachine⟩ := execute_of_perform hperform
  rw [houtcome, hmachine]
  -- every byte of memory after the store, for all that is asked of it
  have hbyte (a : Nat) : ram.byteAt a =
      if m.registers.i.toNat ≤ a ∧ a < m.registers.i.toNat + (x.val + 1) then
        (m.registers.upTo x)[a - m.registers.i.toNat]?
      else m.memory.ram.byteAt a := by
    rw [hram, Ram.byteAt_overwrite_of_le hfits, hlen]
  refine ⟨rfl, ?_, ?_, fun k => rfl, toNat_indexAfterTransfer h⟩
  · intro k hk
    have hk' : k.val ≤ x.val := hk
    show ram.byteAt _ = _
    rw [hbyte, if_pos (by omega), Nat.add_sub_cancel_left]
    exact m.registers.getElem?_upTo hk
  · intro a ha
    show ram.byteAt a = _
    rw [hbyte, if_neg (by omega)]

/-- A load inside memory loads. -/
theorem loads_of_fits {m : Machine} {x : Reg} (h : m.registers.i.toNat + x.val + 1 ≤ 4096) :
    (m.execute (.restore x)).outcome = .executed ∧ Loads m (m.execute (.restore x)).machine x := by
  have hfits : m.registers.i.toNat + (x.val + 1) ≤ Ram.size := h
  obtain ⟨data, hread⟩ : ∃ data, m.memory.ram.read? m.registers.i.toNat (x.val + 1) = .ok data :=
    ⟨_, (Ram.read?_eq_ok_iff _ _ _ _).2 ⟨hfits, rfl⟩⟩
  have haccess : m.access (m.memory.ram.read? m.registers.i.toNat (x.val + 1)) = .ok data := by
    simp only [access, hread]
  obtain ⟨registers, hregisters⟩ : ∃ registers, registers = m.registers.setFirst data := ⟨_, rfl⟩
  have hperform : m.perform (.restore x) =
      .ok (.next ({ m with registers }.setIndex (m.indexAfterTransfer x))) :=
    (orRefuse_eq_ok_iff _ _ _ _).2 ⟨_, haccess, by rw [hregisters]⟩
  obtain ⟨houtcome, hmachine⟩ := execute_of_perform hperform
  -- a register has the value that was read for it, or its own
  have hget (k : Reg) : (m.execute (.restore x)).machine.get k = data[k.val]?.getD (m.get k) := by
    rw [hmachine]
    show registers.get k = _
    rw [hregisters, Registers.get_setFirst]
    rfl
  refine ⟨houtcome, ?_, ?_, ?_, ?_⟩
  · intro k hk
    have hlt : k.val < x.val + 1 := Nat.lt_succ_of_le hk
    have hin : m.registers.i.toNat + k.val < 4096 := by omega
    have hdata := Ram.getElem?_of_read? hread k.val
    rw [if_pos hlt] at hdata
    rw [hget, hdata, Ram.byteAt, Vector.getElem?_eq_getElem hin]
    rfl
  · intro k hk
    have hnot : ¬ k.val < x.val + 1 := Nat.not_lt.2 (Nat.succ_le_of_lt hk)
    have hdata := Ram.getElem?_of_read? hread k.val
    rw [if_neg hnot] at hdata
    rw [hget, hdata]
    rfl
  · rw [hmachine]
    rfl
  · rw [hmachine]
    exact toNat_indexAfterTransfer h

/-- Outside of memory neither of the two does anything. -/
theorem refused_of_not_fits {m : Machine} {x : Reg} (h : 4096 < m.registers.i.toNat + x.val + 1)
    {i : Instruction} (hi : i = .save x ∨ i = .restore x) :
    (m.execute i).outcome =
        .faulted (.memoryOutOfBounds m.registers.pc ⟨m.registers.i.toNat, x.val + 1⟩) ∧
      (m.execute i).machine = { m with
        registers := { m.registers with pc := m.registers.pc + 2 }
        idleAt := none
        faults := m.faults + 1 } := by
  have hlt : 4096 < m.registers.i.toNat + (x.val + 1) := h
  obtain rfl | rfl := hi
  · rw [← length_upTo m.registers x] at hlt ⊢
    have hwrite := (writeAtIndex_error_iff m (m.registers.upTo x) _).2 ⟨hlt, rfl⟩
    have hperform : m.perform (.save x) = .error _ :=
      (orRefuse_eq_error_iff _ _ _ _).2 ⟨_, hwrite, rfl⟩
    exact execute_of_refusal hperform
  · have hread := (access_read?_error_iff m _ _ _).2 ⟨hlt, rfl⟩
    have hperform : m.perform (.restore x) = .error _ :=
      (orRefuse_eq_error_iff _ _ _ _).2 ⟨_, hread, rfl⟩
    exact execute_of_refusal hperform

/-! ## Stores in between

Registers may be written before each of them, so an index can be anywhere. -/

/-- Writes the registers and stores them, whether that faults or not. -/
def saved (m : Machine) (s : Save) : Machine :=
  ({ m with registers := s.registers }.execute (.save s.last)).machine

/-- Makes stores one after the other. -/
def savedAll (m : Machine) (ss : List Save) : Machine :=
  ss.foldl saved m

/-- A store leaves alone what it does not reach for. -/
theorem byteAt_saved (m : Machine) {s : Save} {a : Nat} (ha : ¬ s.Covers a) :
    (m.saved s).memory.ram.byteAt a = m.memory.ram.byteAt a := by
  rw [Save.Covers] at ha
  by_cases hfits : s.registers.i.toNat + s.last.val + 1 ≤ 4096
  · obtain ⟨-, hstores⟩ := stores_of_fits (m := { m with registers := s.registers }) hfits
    refine hstores.other a ?_
    show a < s.registers.i.toNat ∨ s.registers.i.toNat + s.last.val < a
    omega
  · -- a store that faults covers nothing
    obtain ⟨-, hmachine⟩ := refused_of_not_fits (m := { m with registers := s.registers })
      (Nat.lt_of_not_le hfits) (.inl rfl)
    rw [saved, hmachine]

/-- So do several. -/
theorem byteAt_savedAll (m : Machine) {ss : List Save} {a : Nat} (ha : ∀ s ∈ ss, ¬ s.Covers a) :
    (m.savedAll ss).memory.ram.byteAt a = m.memory.ram.byteAt a := by
  induction ss generalizing m with
  | nil => rfl
  | cons s rest ih =>
    show ((m.saved s).savedAll rest).memory.ram.byteAt a = _
    rw [ih (m.saved s) fun t ht => ha t (List.mem_cons_of_mem s ht),
      byteAt_saved m (ha s List.mem_cons_self)]

/-- They leave the dialect, which says where the index goes. -/
theorem dialect_savedAll (m : Machine) (ss : List Save) : (m.savedAll ss).dialect = m.dialect := by
  induction ss generalizing m with
  | nil => rfl
  | cons s rest ih =>
    show ((m.saved s).savedAll rest).dialect = _
    rw [ih (m.saved s)]
    exact congrArg Layout.dialect
      (layout_execute { m with registers := s.registers } (.save s.last))

/-! ## There and back

The load starts from the machine after all stores, with the registers written once more. -/

/-- **What is stored comes back.** Where `V0` to `VX` fit at the index, they are stored there and
nowhere else; and whatever is stored at other places and written into the registers after that, a
load at the same index gives back `V0` to `VX`, leaves the other registers as they were written,
and moves the index as the store has done. Where they do not fit, both instructions fault and
leave memory, registers and index alone. -/
theorem stored_comes_back (m : Machine) (x : Reg) :
    let i := m.registers.i.toNat
    let stored := m.execute (.save x)
    (i + x.val + 1 ≤ 4096 →
      stored.outcome = .executed ∧ Stores m stored.machine x ∧
      ∀ between : List Save, (∀ s ∈ between, s.Misses i x) →
        ∀ registers : Registers, registers.i = m.registers.i →
          let loaded := { stored.machine.savedAll between with registers }.execute (.restore x)
          loaded.outcome = .executed ∧
          (∀ k, loaded.machine.get k = if k ≤ x then m.get k else registers.get k) ∧
          loaded.machine.registers.i.toNat = m.dialect.indexAfterTransfer i x.val ∧
          ∀ a, a < i ∨ i + x.val < a → (∀ s ∈ between, ¬ s.Covers a) →
            loaded.machine.memory.ram.byteAt a = m.memory.ram.byteAt a) ∧
    (4096 < i + x.val + 1 → ∀ instr, instr = .save x ∨ instr = .restore x →
      let refused := m.execute instr
      refused.outcome = .faulted (.memoryOutOfBounds m.registers.pc ⟨i, x.val + 1⟩) ∧
      refused.machine.memory = m.memory ∧ (∀ k, refused.machine.get k = m.get k) ∧
      refused.machine.registers.i = m.registers.i) := by
  intro i stored
  constructor
  · intro hfits
    obtain ⟨houtcome, hstores⟩ := stores_of_fits hfits
    refine ⟨houtcome, hstores, ?_⟩
    intro between hmisses registers hindex loaded
    let before : Machine := { stored.machine.savedAll between with registers }
    have hbefore : before.registers.i.toNat = i := congrArg UInt16.toNat hindex
    have hdialect : before.dialect = m.dialect := by
      show (stored.machine.savedAll between).dialect = m.dialect
      rw [dialect_savedAll]
      exact congrArg Layout.dialect (layout_execute m (.save x))
    obtain ⟨hloaded, hloads⟩ := loads_of_fits (m := before) (x := x) (by rw [hbefore]; exact hfits)
    have hvalue (k : Reg) (hk : k ≤ x) : loaded.machine.get k = m.get k := by
      have hclear : ∀ s ∈ between, ¬ s.Covers (i + k.val) :=
        fun s hs => (hmisses s hs).not_covers hk
      -- no store in between has reached the byte, so it is the one that was stored
      have hthere : before.memory.ram.byteAt (i + k.val) = some (m.get k) :=
        (byteAt_savedAll stored.machine hclear).trans (hstores.values k hk)
      have hback := hloads.values k hk
      rw [hbefore, hthere] at hback
      exact (Option.some.inj hback).symm
    refine ⟨hloaded, ?_, ?_, ?_⟩
    · intro k
      by_cases hk : k ≤ x
      · rw [if_pos hk, hvalue k hk]
      · rw [if_neg hk]
        exact hloads.other k (Fin.not_le.1 hk)
    · rw [hloads.index, hbefore, hdialect]
    · intro a houtside hclear
      rw [hloads.memory]
      exact (byteAt_savedAll stored.machine hclear).trans (hstores.other a houtside)
  · intro hlong instr hinstr refused
    obtain ⟨houtcome, hmachine⟩ := refused_of_not_fits hlong hinstr
    refine ⟨houtcome, ?_, ?_, ?_⟩
    · show (m.execute instr).machine.memory = _
      rw [hmachine]
    · intro k
      show (m.execute instr).machine.get k = _
      rw [hmachine]
      rfl
    · show (m.execute instr).machine.registers.i = _
      rw [hmachine]

/-- The last four bytes of memory, with an index that is clamped: `V0` to `V3` come back, `V4`
does not, and one byte further on both instructions fault. In between, two bytes are stored right
below, and a store past the end of memory faults. -/
theorem comes_back_at_end_of_memory :
    ∃ h : Config.standard.Valid,
      let m (i : UInt16) : Machine := { fresh Config.standard h (.ofSeed 0) [] with
        registers := ⟨Vector.ofFn fun k => UInt8.ofNat (k.val + 1), i, 0x200⟩
        dialect := { Dialect.legacy with indexOverflow := .clamp } }
      let zeros (i : UInt16) : Registers := { Registers.start 0x200 with i }
      let between : List Save := [⟨zeros 0xffa, 1⟩, ⟨zeros 0x1000, 15⟩]
      let stored := ((m 0xffc).execute (.save 3)).machine
      let loaded := { stored.savedAll between with registers := zeros 0xffc }.execute (.restore 3)
      (∀ s ∈ between, s.Misses 0xffc 3) ∧
        loaded.machine.get 3 = 4 ∧ loaded.machine.get 4 = 0 ∧
        loaded.machine.registers.i.toNat = 0xfff ∧
        ((m 0xffd).execute (.restore 3)).outcome =
          .faulted (.memoryOutOfBounds 0x200 ⟨0xffd, 4⟩) := by
  refine ⟨(Config.check_eq_ok_iff _).1 rfl, ?_⟩
  intro m zeros between stored loaded
  -- one store ends right below, and the other has no room and writes nothing
  have hmisses : ∀ s ∈ between, s.Misses 0xffc 3 := by
    intro s hs
    rcases List.mem_cons.1 hs with rfl | hs
    · exact .inl (by decide)
    · obtain rfl := List.mem_singleton.1 hs
      exact .inr (by decide)
  obtain ⟨-, -, hback⟩ := (stored_comes_back (m 0xffc) 3).1 (by decide)
  obtain ⟨-, hget, hindex, -⟩ := hback between hmisses (zeros 0xffc) rfl
  have hrefused := ((stored_comes_back (m 0xffd) 3).2 (by decide) _ (.inr rfl)).1
  exact ⟨hmisses, hget 3, hget 4, hindex, hrefused⟩

end Machine

end Cosmac
