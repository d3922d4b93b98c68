import Cosmac.Proofs.Machine.Loading

/-!
# Cosmac — placing what a source yields

Bytes from outside are laid down at an address all together or not at all. Three things can be
wrong, and each is found out in a place of its own: the source fails while it is read, it yields
more than there is room for, or it yields nothing and the address lies past the end of memory.

The model that places in place writes to the memory that it was given, so that what a failure leaves
behind can be asked. Its ends are listed once, and everything else is read off that list: which
result has which condition, what was written, and that nothing was written where it failed.

* `Placement` lists the ways in which it ends, and `placement` says that there are no others.

* `io_iff`, `tooLarge_iff`, `invalidConfig_iff` and `ok_iff` — each of them has a condition of its
  own.

* `Placement.placed` and `Placement.untouched` — what is in memory after a success, and after a
  failure.

* `load_eq_error_iff` — a load of the program fails where its placement does.

* `placed_or_untouched` — the four results together, and what is in memory after each.
-/

namespace Cosmac

/-! ## The ways in which a placement ends

The checks come in this order: the source is read to its end, its length is compared with the room
that there is, and the range is taken to be written. The room past the end of memory is nothing, so
that the last check can only fail for a source that is empty. -/

/-- `m'` is `m` with `data` at `addr`; what is known about the program has not changed. -/
structure Memory.Placed (m m' : Memory) (addr : UInt16) (data : List UInt8) : Prop where
  bytes : ∀ k < data.length, m'.ram.byteAt (addr.toNat + k) = data[k]?
  other : ∀ a, a < addr.toNat ∨ addr.toNat + data.length ≤ a → m'.ram.byteAt a = m.ram.byteAt a
  programAddr : m'.programAddr = m.programAddr
  fontAddr : m'.fontAddr = m.fontAddr
  programLen : m'.programLen = m.programLen

namespace Memory

/-- How the placement of a source ends, and the memory after it. -/
inductive Placement (m : Memory) (addr : UInt16) (source : Source) :
    Except Failure Nat × Memory → Prop
  | failing {e : HostError} (h : source.failure = some e) :
    Placement m addr source (.error (.io e), m)
  | long (ends : source.failure = none) (h : 4096 - addr.toNat < source.bytes.length) :
    Placement m addr source
      (.error (.programTooLarge source.bytes.length addr (4096 - addr.toNat)), m)
  /-- An empty source is never too long, so only the write finds out that its address lies
  nowhere. -/
  | nowhere (ends : source.failure = none) (empty : source.bytes.length = 0)
    (h : 4096 < addr.toNat) :
    Placement m addr source (.error (.invalidConfig .loadOutsideMemory), m)
  | fits (ends : source.failure = none) (h : addr.toNat + source.bytes.length ≤ 4096) :
    Placement m addr source (.ok source.bytes.length,
      { m with ram := m.ram.overwrite addr.toNat source.bytes })

/-- **A placement ends in one of these ways**, in the order of its checks. -/
theorem placement (m : Memory) (addr : UInt16) (source : Source) :
    Placement m addr source (m.placeInPlace addr source) := by
  cases hfailure : source.failure with
  | some e =>
    have hplace : m.placeInPlace addr source = (.error (.io e), m) := by
      simp only [placeInPlace, Source.readAll, hfailure]
    rw [hplace]
    exact .failing hfailure
  | none =>
    -- the source has been read, so its length is known
    by_cases hlong : Ram.free addr.toNat < source.bytes.length
    · have hplace : m.placeInPlace addr source =
          (.error (.programTooLarge source.bytes.length addr (Ram.free addr.toNat)), m) := by
        simp only [placeInPlace, Source.readAll, hfailure, if_pos hlong]
      rw [hplace]
      exact .long hfailure hlong
    · by_cases hfits : addr.toNat + source.bytes.length ≤ Ram.size
      · have hplace : m.placeInPlace addr source = (.ok source.bytes.length,
            { m with ram := m.ram.overwrite addr.toNat source.bytes }) := by
          simp only [placeInPlace, Source.readAll, hfailure, if_neg hlong, Ram.put, if_pos hfits]
        rw [hplace]
        exact .fits hfailure hfits
      · have hplace : m.placeInPlace addr source =
            (.error (.invalidConfig .loadOutsideMemory), m) := by
          simp only [placeInPlace, Source.readAll, hfailure, if_neg hlong, Ram.put, if_neg hfits]
        rw [hplace]
        -- past the end there is no room, so what is not too long is empty
        rw [Ram.free] at hlong
        rw [Ram.size] at hlong hfits
        exact .nowhere hfailure (by omega) (by omega)

/-! ## What a result says

The ends exclude each other: two different ends have different results, or conditions that
contradict each other. So each result has one end that it comes from, and the condition of that end
is its own. -/

section

variable {m : Memory} {addr : UInt16} {source : Source} {ending : Except Failure Nat × Memory}

theorem Placement.io_iff (h : Placement m addr source ending) (e : HostError) :
    ending.1 = .error (.io e) ↔ source.failure = some e := by
  cases h with
  | failing h => simp [h]
  | long ends h => simp [ends]
  | nowhere ends empty h => simp [ends]
  | fits ends h => simp [ends]

theorem Placement.tooLarge_iff (h : Placement m addr source ending) (size : Nat) (base : UInt16)
    (available : Nat) :
    ending.1 = .error (.programTooLarge size base available) ↔
      source.failure = none ∧ 4096 - addr.toNat < source.bytes.length ∧
        size = source.bytes.length ∧ base = addr ∧ available = 4096 - addr.toNat := by
  cases h with
  | failing h => simp [h]
  | long ends h => simp [ends, h, eq_comm]
  | nowhere ends empty h => simp [empty]
  | fits ends h =>
    -- what fits leaves room
    have hroom : ¬ 4096 - addr.toNat < source.bytes.length := by omega
    simp [hroom]

theorem Placement.invalidConfig_iff (h : Placement m addr source ending) (cause : ConfigError) :
    ending.1 = .error (.invalidConfig cause) ↔
      source.failure = none ∧ source.bytes.length = 0 ∧ 4096 < addr.toNat ∧
        cause = .loadOutsideMemory := by
  cases h with
  | failing h => simp [h]
  | long ends h =>
    have hne : source.bytes.length ≠ 0 := by omega
    simp [hne]
  | nowhere ends empty h => simp [ends, empty, h, eq_comm]
  | fits ends h =>
    have hin : ¬ 4096 < addr.toNat := by omega
    simp [hin]

theorem Placement.ok_iff (h : Placement m addr source ending) (len : Nat) :
    ending.1 = .ok len ↔
      source.failure = none ∧ ¬ 4096 - addr.toNat < source.bytes.length ∧
        ¬ (source.bytes.length = 0 ∧ 4096 < addr.toNat) ∧ len = source.bytes.length := by
  cases h with
  | failing h => simp [h]
  | long ends h => simp [h]
  | nowhere ends empty h => simp [empty, h]
  | fits ends h =>
    have hroom : ¬ 4096 - addr.toNat < source.bytes.length := by omega
    have hin : ¬ 4096 < addr.toNat := by omega
    simp [ends, hroom, hin, eq_comm]

/-- What is refused has not been written. -/
theorem Placement.untouched (h : Placement m addr source ending) {e : Failure}
    (hresult : ending.1 = .error e) : ending.2 = m := by
  cases h with
  | failing | long | nowhere => rfl
  | fits => contradiction

/-- What was taken lies where it was put, and nothing else has changed. -/
theorem Placement.placed (h : Placement m addr source ending) {len : Nat}
    (hresult : ending.1 = .ok len) : Placed m ending.2 addr source.bytes := by
  cases h with
  | failing | long | nowhere => contradiction
  | fits ends hfits =>
    have hsize : addr.toNat + source.bytes.length ≤ Ram.size := hfits
    refine ⟨?_, ?_, rfl, rfl, rfl⟩
    · intro k hk
      show (m.ram.overwrite addr.toNat source.bytes).byteAt _ = _
      rw [Ram.byteAt_overwrite_of_le hsize, if_pos (by omega), Nat.add_sub_cancel_left]
    · intro a houtside
      show (m.ram.overwrite addr.toNat source.bytes).byteAt a = _
      rw [Ram.byteAt_overwrite_of_le hsize, if_neg (by omega)]

end

/-- Placing in place has the result of placing, and leaves its memory. -/
theorem place_eq_map (m : Memory) (addr : UInt16) (source : Source) :
    m.place addr source =
      (m.placeInPlace addr source).1.map fun len => (len, (m.placeInPlace addr source).2) := by
  rw [placeInPlace_eq]
  cases m.place addr source with
  | error e => rfl
  | ok placed => rfl

/-- A load is refused when the placement of the program is, and nothing has changed then. -/
theorem load_eq_error_iff (m : Memory) (source : Source) (e : Failure) :
    m.load source = .error e ↔
      (m.placeInPlace m.programAddr source).1 = .error e ∧
        m.loadInPlace source = (.error e, m) := by
  have hplace := m.place_eq_map m.programAddr source
  constructor
  · intro h
    refine ⟨?_, by rw [loadInPlace_eq, h]⟩
    -- what comes after the placement cannot fail
    cases hresult : (m.placeInPlace m.programAddr source).1 with
    | error e' =>
      rw [load, hplace, hresult] at h
      exact congrArg Except.error (Except.error.inj h)
    | ok len =>
      rw [load, hplace, hresult] at h
      contradiction
  · rintro ⟨h, -⟩
    rw [load, hplace, h]
    rfl

/-- **A source is laid down whole or not at all.** The result is that the source failed, that it
is too long for the room from the address on, that it is empty and its address past the end of
memory, or that it was taken: exactly if it fails, exactly if it ends and is too long, and so on,
so that always one of the four is the result. What is taken lies at the address, and every other
byte is what it was; whatever is refused has changed nothing, also when it was to be loaded as the
program. -/
theorem placed_or_untouched (m : Memory) (addr : UInt16) (source : Source) :
    let n := source.bytes.length
    let room := 4096 - addr.toNat
    let ending := m.placeInPlace addr source
    m.place addr source = ending.1.map (fun len => (len, ending.2)) ∧
      (∀ e, ending.1 = .error (.io e) ↔ source.failure = some e) ∧
      (∀ size base available, ending.1 = .error (.programTooLarge size base available) ↔
        source.failure = none ∧ room < n ∧ size = n ∧ base = addr ∧ available = room) ∧
      (∀ cause, ending.1 = .error (.invalidConfig cause) ↔
        source.failure = none ∧ n = 0 ∧ 4096 < addr.toNat ∧ cause = .loadOutsideMemory) ∧
      (∀ len, ending.1 = .ok len ↔
        source.failure = none ∧ ¬ room < n ∧ ¬ (n = 0 ∧ 4096 < addr.toNat) ∧ len = n) ∧
      (∀ len, ending.1 = .ok len → Placed m ending.2 addr source.bytes) ∧
      (∀ e, ending.1 = .error e → ending.2 = m) ∧
      ∀ e, m.load source = .error e ↔
        (m.placeInPlace m.programAddr source).1 = .error e ∧
          m.loadInPlace source = (.error e, m) := by
  have hplacement := placement m addr source
  -- every part is a result of the one list of ends
  exact ⟨m.place_eq_map addr source, hplacement.io_iff, hplacement.tooLarge_iff,
    hplacement.invalidConfig_iff, hplacement.ok_iff, fun _ => hplacement.placed,
    fun _ => hplacement.untouched, m.load_eq_error_iff source⟩

/-- The end of memory is a place for nothing at all, and one byte after it is none. -/
example (m : Memory) :
    (m.placeInPlace 4096 (.ofBytes [])).1 = .ok 0 ∧
      (m.placeInPlace 4097 (.ofBytes [])).1 = .error (.invalidConfig .loadOutsideMemory) :=
  ⟨rfl, rfl⟩

end Memory

end Cosmac
