import Cosmac.Proofs.Machine.Reset

/-!
# Cosmac — loads, one after the other

A load takes all of a program or nothing. Where a longer program lay before, its end is cleared, so
that nothing is left of it.

That a failed load leaves memory alone is built into a function that answers with a failure and no
memory, so it says little there. Here loading is done once more with a single memory, which every
part of it writes to on the way; what that leaves after a failure is something to prove. The rest is
read off byte by byte: which bytes a load writes, what it writes there, and that above the glyphs
the result is the memory of a machine that has never held anything else.

* `Memory.loadInPlace` is a load with a single memory that is written to on the way;
  `loadInPlace_eq` — it is `Memory.load`: what fails has not written yet.
* `Memory.LaidDown` — what a load changes in any memory, and what it leaves; `laidDown_of_load`.
* `Memory.load_holding` — a program that is laid down over another leaves nothing of it.
* `last_load_stays` — after any number of loads a new machine is one with the last program that was
  taken.
-/

namespace Cosmac

/-! ## Bytes

Memory is determined by its bytes, and a word by two of them. -/

namespace Ram

/-- Memories with the same bytes are the same. -/
theorem ext_byteAt {m m' : Ram} (h : ∀ a, m.byteAt a = m'.byteAt a) : m = m' := by
  cases m with
  | mk bytes =>
    cases m' with
    | mk bytes' =>
      congr 1
      apply Vector.ext
      intro a ha
      have hbyte := h a
      simp only [byteAt, Vector.getElem?_eq_getElem ha, Option.some.injEq] at hbyte
      exact hbyte

theorem byteAt_zero {a : Nat} (h : a < size) : zero.byteAt a = some 0 := by
  have ha : a < 4096 := h
  simp [byteAt, zero, ha]

theorem word?_eq_ok {m : Ram} {a : Nat} {hi lo : UInt8} (hhi : m.byteAt a = some hi)
    (hlo : m.byteAt (a + 1) = some lo) : m.word? a = .ok (wordOfBytes hi lo) := by
  obtain ⟨_, rfl⟩ := Vector.getElem?_eq_some_iff.1 hhi
  obtain ⟨_, rfl⟩ := Vector.getElem?_eq_some_iff.1 hlo
  rw [word?, dif_pos (by omega)]

/-- A write to a memory of which there is only one: the memory after it, whether it succeeds or
not. -/
def put (m : Ram) (start : Nat) (data : List UInt8) : Except OutOfBounds Unit × Ram :=
  if start + data.length ≤ size then (.ok (), m.overwrite start data)
  else (.error ⟨start, data.length⟩, m)

end Ram

/-- A program that is taken: its source does not fail, and it is not longer than the memory from
`addr` on. -/
def Source.Fits (addr : UInt16) (s : Source) : Prop :=
  s.failure = none ∧ s.bytes.length ≤ 4096 - addr.toNat

instance (addr : UInt16) (s : Source) : Decidable (s.Fits addr) :=
  inferInstanceAs (Decidable (_ ∧ _))

/-- To fit is to end inside memory. -/
theorem Source.fits_iff {addr : UInt16} (haddr : addr.toNat ≤ 4096) (s : Source) :
    s.Fits addr ↔ s.failure = none ∧ addr.toNat + s.bytes.length ≤ Ram.size := by
  refine and_congr_right fun _ => ?_
  rw [Ram.size]
  omega

namespace Memory

/-! ## In place

The order of the writes is kept: the program first, then zeros behind it. -/

/-- `place` with a single memory. -/
def placeInPlace (m : Memory) (addr : UInt16) (source : Source) : Except Failure Nat × Memory :=
  match source.readAll with
  | .error e => (.error (.io e), m)
  | .ok data =>
    if Ram.free addr.toNat < data.length then
      (.error (.programTooLarge data.length addr (Ram.free addr.toNat)), m)
    else
      let (result, ram) := m.ram.put addr.toNat data
      match result with
      | .error _ => (.error (.invalidConfig .loadOutsideMemory), { m with ram })
      | .ok () => (.ok data.length, { m with ram })

/-- `load` with a single memory, which every part of it writes to. -/
def loadInPlace (m : Memory) (source : Source) : Except Failure Nat × Memory :=
  match m.placeInPlace m.programAddr source with
  | (.error e, m') => (.error e, m')
  | (.ok len, m') => (.ok len, { m'.clearTail len with programLen := len })

/-- Placing in place is placing: each check comes before the write. -/
theorem placeInPlace_eq (m : Memory) (addr : UInt16) (source : Source) :
    m.placeInPlace addr source =
      match m.place addr source with
      | .error e => (.error e, m)
      | .ok (len, m') => (.ok len, m') := by
  cases hread : source.readAll with
  | error e => simp only [placeInPlace, place, hread]
  | ok data =>
    simp only [placeInPlace, place, hread]
    by_cases hfree : Ram.free addr.toNat < data.length
    · simp only [if_pos hfree]
    · simp only [if_neg hfree, Ram.put, Ram.write?]
      by_cases hfits : addr.toNat + data.length ≤ Ram.size
      · simp only [if_pos hfits]
      · simp only [if_neg hfits]

/-- A load that fails has not written anything before it does. -/
theorem loadInPlace_eq (m : Memory) (source : Source) :
    m.loadInPlace source =
      match m.load source with
      | .error e => (.error e, m)
      | .ok (len, m', _) => (.ok len, m') := by
  simp only [loadInPlace, placeInPlace_eq, load]
  cases m.place m.programAddr source with
  | error e => rfl
  | ok placed => rfl

/-! ## What a load changes

Three parts of memory: the program, what is left of a longer one, and the rest. -/

/-- `m'` is `m` with an image laid down: zeros behind it up to where a longer program ended, and
everything else as it was. -/
structure LaidDown (m m' : Memory) (image : List UInt8) : Prop where
  bytes : ∀ k < image.length, m'.ram.byteAt (m.programAddr.toNat + k) = image[k]?
  tail : ∀ a < Ram.size, m.programAddr.toNat + image.length ≤ a →
    a < m.programAddr.toNat + max image.length m.programLen → m'.ram.byteAt a = some 0
  other : ∀ a, a < m.programAddr.toNat ∨
    m.programAddr.toNat + max image.length m.programLen ≤ a → m'.ram.byteAt a = m.ram.byteAt a
  program : m'.program? = .ok image

/-- Every byte of memory after a load. -/
theorem byteAt_of_load {m m' : Memory} {source : Source} {len : Nat} {loaded : Event}
    (h : m.load source = .ok (len, m', loaded)) (a : Nat) :
    m'.ram.byteAt a =
      if m.programAddr.toNat ≤ a ∧ a < m.programAddr.toNat + source.bytes.length then
        source.bytes[a - m.programAddr.toNat]?
      else if a < Ram.size ∧ m.programAddr.toNat + source.bytes.length ≤ a ∧
          a < m.programAddr.toNat + max source.bytes.length m.programLen then some 0
      else m.ram.byteAt a := by
  obtain ⟨-, hfits, rfl, rfl, -⟩ := (load_eq_ok_iff _ _ _ _ _).1 h
  have hclear := Ram.byteAt_overwrite (m.ram.overwrite m.programAddr.toNat source.bytes)
    (m.programAddr.toNat + source.bytes.length)
    (List.replicate (m.programLen - source.bytes.length) 0) a
  rw [List.length_replicate, Ram.byteAt_overwrite_of_le hfits] at hclear
  show ((m.ram.overwrite m.programAddr.toNat source.bytes).overwrite _ _).byteAt a = _
  rw [hclear]
  -- the zeros are written last, so they are looked at first
  by_cases htail : a < Ram.size ∧ m.programAddr.toNat + source.bytes.length ≤ a ∧
      a < m.programAddr.toNat + source.bytes.length + (m.programLen - source.bytes.length)
  · rw [if_pos htail, if_neg (by omega), if_pos (by omega),
      List.getElem?_replicate_of_lt (by omega)]
  · rw [if_neg htail]
    have hnot : ¬ (a < Ram.size ∧ m.programAddr.toNat + source.bytes.length ≤ a ∧
        a < m.programAddr.toNat + max source.bytes.length m.programLen) := by
      omega
    rw [if_neg hnot]

/-- A load that succeeds has laid its program down. -/
theorem laidDown_of_load {m m' : Memory} {source : Source} {len : Nat} {loaded : Event}
    (h : m.load source = .ok (len, m', loaded)) : LaidDown m m' source.bytes := by
  have hbytes (k : Nat) (hk : k < source.bytes.length) :
      m'.ram.byteAt (m.programAddr.toNat + k) = source.bytes[k]? := by
    rw [byteAt_of_load h, if_pos (by omega), Nat.add_sub_cancel_left]
  refine ⟨hbytes, ?_, ?_, ?_⟩
  · -- where the old program was longer, there are zeros now
    intro a hsize hle hlt
    rw [byteAt_of_load h, if_neg (by omega), if_pos ⟨hsize, hle, hlt⟩]
  · intro a houtside
    rw [byteAt_of_load h, if_neg (by omega), if_neg (by omega)]
  · obtain ⟨-, hfits, rfl, rfl, -⟩ := (load_eq_ok_iff _ _ _ _ _).1 h
    have hread := Ram.read?_eq_ok hfits hbytes
    simp only [program?, clearTail] at hread ⊢
    rw [hread]

/-- How a load ends: the memory is as it was, or the program lies in it. -/
inductive LoadsTo (m : Memory) (source : Source) : Except Failure Nat → Memory → Prop
  | refused {e : Failure} (h : ¬ source.Fits m.programAddr) : LoadsTo m source (.error e) m
  | taken {m' : Memory} (h : source.Fits m.programAddr) (laid : LaidDown m m' source.bytes) :
    LoadsTo m source (.ok source.bytes.length) m'

/-- A program that fits is taken, and so it lies in memory. -/
theorem LoadsTo.laidDown {m m' : Memory} {source : Source} {result : Except Failure Nat}
    (h : m.LoadsTo source result m') (hfits : source.Fits m.programAddr) :
    LaidDown m m' source.bytes := by
  cases h with
  | refused hnot => exact absurd hfits hnot
  | taken _ laid => exact laid

/-- What is taken is what fits. -/
theorem exists_load_iff {m : Memory} (haddr : m.programAddr.toNat ≤ 4096) (source : Source) :
    (∃ loaded, m.load source = .ok loaded) ↔ source.Fits m.programAddr := by
  rw [Source.fits_iff haddr]
  constructor
  · rintro ⟨⟨len, m', event⟩, hload⟩
    obtain ⟨hfailure, hle, -⟩ := (load_eq_ok_iff _ _ _ _ _).1 hload
    exact ⟨hfailure, hle⟩
  · rintro ⟨hfailure, hle⟩
    exact ⟨_, (load_eq_ok_iff m source _ _ _).2 ⟨hfailure, hle, rfl, rfl, rfl⟩⟩

/-- A load in place ends in one of these two ways. -/
theorem loadsTo_loadInPlace {m : Memory} (haddr : m.programAddr.toNat ≤ 4096) (source : Source) :
    m.LoadsTo source (m.loadInPlace source).1 (m.loadInPlace source).2 := by
  rw [loadInPlace_eq]
  cases hload : m.load source with
  | error e =>
    -- whatever fits is taken, so this source does not
    refine .refused fun hfits => ?_
    obtain ⟨loaded, hok⟩ := (exists_load_iff haddr source).2 hfits
    rw [hload] at hok
    contradiction
  | ok loaded =>
    have hfits := (exists_load_iff haddr source).1 ⟨loaded, hload⟩
    obtain ⟨len, m', event⟩ := loaded
    obtain ⟨-, -, rfl, -⟩ := (load_eq_ok_iff _ _ _ _ _).1 hload
    exact .taken hfits (laidDown_of_load hload)

/-! ## New memory

Memory with glyphs and one image, of which every byte is known. -/

/-- The program lies where it was put. -/
@[simp] theorem programAddr_holding (programAddr fontAddr : UInt16) (image : List UInt8) :
    (holding programAddr fontAddr image).programAddr = programAddr := rfl

@[simp] theorem programLen_holding (programAddr fontAddr : UInt16) (image : List UInt8) :
    (holding programAddr fontAddr image).programLen = image.length := rfl

/-- Bytes of the image, and elsewhere those of the glyphs. -/
theorem byteAt_holding {programAddr fontAddr : UInt16} {image : List UInt8}
    (h : programAddr.toNat + image.length ≤ Ram.size) (a : Nat) :
    (holding programAddr fontAddr image).ram.byteAt a =
      if programAddr.toNat ≤ a ∧ a < programAddr.toNat + image.length then
        image[a - programAddr.toNat]?
      else (Ram.zero.overwrite fontAddr.toNat glyphTable).byteAt a :=
  Ram.byteAt_overwrite_of_le h a

/-- Above the glyphs there are zeros. -/
theorem byteAt_glyphs_of_le {fontAddr : UInt16} {a : Nat}
    (hle : fontAddr.toNat + glyphTableSize ≤ a) (ha : a < Ram.size) :
    (Ram.zero.overwrite fontAddr.toNat glyphTable).byteAt a = some 0 := by
  have hnot : ¬ (a < Ram.size ∧ fontAddr.toNat ≤ a ∧ a < fontAddr.toNat + glyphTable.length) := by
    rw [length_glyphTable]
    omega
  rw [Ram.byteAt_overwrite, if_neg hnot, Ram.byteAt_zero ha]

/-- A program that is laid down over another leaves nothing of it: above the glyphs, memory is what
it would be if the other had never been there. -/
theorem load_holding {programAddr fontAddr : UInt16} {old : List UInt8} {source : Source}
    (hfont : fontAddr.toNat + glyphTableSize ≤ programAddr.toNat)
    (hold : programAddr.toNat + old.length ≤ Ram.size) (hfailure : source.failure = none)
    (hfits : programAddr.toNat + source.bytes.length ≤ Ram.size) :
    (holding programAddr fontAddr old).load source =
      .ok (source.bytes.length, holding programAddr fontAddr source.bytes,
        .programLoaded source.bytes.length programAddr) := by
  obtain ⟨ram, hload⟩ : ∃ ram, (holding programAddr fontAddr old).load source =
      .ok (source.bytes.length, ⟨ram, programAddr, fontAddr, source.bytes.length⟩,
        .programLoaded source.bytes.length programAddr) :=
    ⟨_, (load_eq_ok_iff _ _ _ _ _).2 ⟨hfailure, hfits, rfl, rfl, rfl⟩⟩
  have hram : ram = (holding programAddr fontAddr source.bytes).ram := by
    apply Ram.ext_byteAt
    intro a
    have hbyte : ram.byteAt a = _ := byteAt_of_load hload a
    rw [byteAt_holding hold, programAddr_holding, programLen_holding] at hbyte
    rw [hbyte, byteAt_holding hfits]
    -- the image, then what the old one leaves behind it, then what neither of them reaches
    by_cases himage : programAddr.toNat ≤ a ∧ a < programAddr.toNat + source.bytes.length
    · rw [if_pos himage, if_pos himage]
    · rw [if_neg himage, if_neg himage]
      by_cases htail : a < Ram.size ∧ programAddr.toNat + source.bytes.length ≤ a ∧
          a < programAddr.toNat + max source.bytes.length old.length
      · rw [if_pos htail, byteAt_glyphs_of_le (by omega) htail.1]
      · rw [if_neg htail, if_neg (by omega)]
  rw [hload, hram]
  rfl

end Memory

namespace Machine

/-! ## Machines

On a fresh machine a load leaves a fresh machine with another image, and several loads leave the
last one that was taken. -/

/-- A program that fits is loaded into a fresh machine, and takes the place of the old one. -/
theorem load_fresh {config : Config} {h : config.Valid} {generator : Generator}
    {old : List UInt8} (hold : config.programAddr.toNat + old.length ≤ Ram.size)
    {source : Source} (hfits : source.Fits config.programAddr) :
    (fresh config h generator old).load source =
      .ok (source.bytes.length, fresh config h generator source.bytes,
        .programLoaded source.bytes.length config.programAddr) := by
  obtain ⟨hfailure, hle⟩ := (Source.fits_iff (Nat.le_of_lt h.program_lt) source).1 hfits
  exact (load_eq_ok_iff _ _ _ _ _).2 ⟨_, Memory.load_holding h.fontEnd_le hold hfailure hle, rfl⟩

/-- The words of the image can be fetched from a fresh machine. -/
theorem word?_fresh {config : Config} {h : config.Valid} {generator : Generator}
    {image : List UInt8} (hfits : config.programAddr.toNat + image.length ≤ Ram.size) {k : Nat}
    {hi lo : UInt8} (hhi : image[k]? = some hi) (hlo : image[k + 1]? = some lo) :
    (fresh config h generator image).memory.ram.word? (config.programAddr.toNat + k) =
      .ok (wordOfBytes hi lo) := by
  obtain ⟨hk, -⟩ := List.getElem?_eq_some_iff.1 hlo
  have hbyte (j : Nat) (hj : j < image.length) :
      (fresh config h generator image).memory.ram.byteAt (config.programAddr.toNat + j) =
        image[j]? := by
    show (Memory.holding config.programAddr config.fontAddr image).ram.byteAt _ = _
    rw [Memory.byteAt_holding hfits, if_pos (by omega), Nat.add_sub_cancel_left]
  apply Ram.word?_eq_ok
  · rw [hbyte k (by omega)]
    exact hhi
  · rw [Nat.add_assoc, hbyte (k + 1) hk]
    exact hlo

/-- To act by a load is to load in place. -/
theorem exists_act_load (m : Machine) (source : Source) :
    ∃ r, m.act (.load source) = .ok r ∧
      r.reply = .loaded (m.memory.loadInPlace source).1 ∧
      r.machine = { m with memory := (m.memory.loadInPlace source).2 } := by
  rw [Memory.loadInPlace_eq]
  cases hload : m.memory.load source with
  | error e =>
    refine ⟨⟨m, .loaded (.error e), []⟩, ?_, rfl, rfl⟩
    simp only [act, load, hload]
  | ok loaded =>
    refine ⟨⟨{ m with memory := loaded.2.1 }, .loaded (.ok loaded.1), [loaded.2.2]⟩, ?_, rfl, rfl⟩
    simp only [act, load, hload]

/-- A load leaves a fresh machine with the program that was taken, or with the old one. -/
theorem exists_act_load_fresh {config : Config} (h : config.Valid) (generator : Generator)
    {old : List UInt8} (hold : config.programAddr.toNat + old.length ≤ Ram.size)
    (source : Source) :
    ∃ r, (fresh config h generator old).act (.load source) = .ok r ∧
      r.machine = fresh config h generator
        (if source.Fits config.programAddr then source.bytes else old) := by
  by_cases hfits : source.Fits config.programAddr
  · rw [if_pos hfits]
    simp only [act, load_fresh hold hfits, Except.ok.injEq, exists_eq_left']
  · rw [if_neg hfits]
    cases hload : (fresh config h generator old).load source with
    | error e => simp only [act, hload, Except.ok.injEq, exists_eq_left']
    | ok loaded =>
      obtain ⟨memory, hmem, -⟩ := (load_eq_ok_iff _ _ _ _ _).1 hload
      exact absurd ((Memory.exists_load_iff (Nat.le_of_lt h.program_lt) source).1 ⟨_, hmem⟩) hfits

/-- Any number of loads leave the last program that was taken. -/
theorem acts_loads_fresh {config : Config} {h : config.Valid} {generator : Generator}
    {old : List UInt8} (hold : config.programAddr.toNat + old.length ≤ Ram.size)
    (sources : List Source) :
    (fresh config h generator old).acts (sources.map .load) =
      .ok (fresh config h generator
        (((sources.filter (·.Fits config.programAddr)).getLast?.map Source.bytes).getD old)) := by
  -- every program that is taken is the old one for the loads that follow
  induction sources generalizing old with
  | nil => rfl
  | cons source rest ih =>
    obtain ⟨r, hact, hmachine⟩ := exists_act_load_fresh h generator hold source
    rw [List.map_cons, acts_cons hact, hmachine]
    by_cases hfits : source.Fits config.programAddr
    · obtain ⟨-, hle⟩ := (Source.fits_iff (Nat.le_of_lt h.program_lt) source).1 hfits
      rw [if_pos hfits, ih hle, List.filter_cons_of_pos (by simpa using hfits),
        List.getLast?_cons]
      cases (rest.filter (·.Fits config.programAddr)).getLast? with
      | none => rfl
      | some last => rfl
    · rw [if_neg hfits, ih hold, List.filter_cons_of_neg (by simpa using hfits)]

/-- **After any number of loads, a new machine is one with the last program that was taken**: of
those before it nothing is left, and those that fail or do not fit change nothing. Whatever lies in
memory, a load changes no more than its program takes up or the one before it took up. -/
theorem last_load_stays {config : Config} {entropy : ChaCha.Key} {start : Machine}
    (hnew : Machine.new config entropy = .ok start) :
    (∀ sources : List Source, ∃ m, start.acts (sources.map .load) = .ok m ∧
      match (sources.filter (·.Fits config.programAddr)).getLast? with
      | none => m = start
      | some last => powerOn config entropy last = .ok m) ∧
    ∀ m : Machine, m.memory.programAddr = config.programAddr → ∀ source, ∃ r result,
      m.act (.load source) = .ok r ∧ r.reply = .loaded result ∧
        m.memory.loadInPlace source = (result, r.machine.memory) ∧
        m.memory.LoadsTo source result r.machine.memory := by
  obtain ⟨hvalid, hsize⟩ := valid_of_new hnew
  obtain ⟨_, rfl⟩ := eq_fresh_of_new hnew
  have haddr : config.programAddr.toNat ≤ 4096 := Nat.le_of_lt hvalid.program_lt
  have hempty : config.programAddr.toNat + ([] : List UInt8).length ≤ Ram.size := haddr
  refine ⟨?_, ?_⟩
  · intro sources
    refine ⟨_, acts_loads_fresh hempty sources, ?_⟩
    -- if none was taken the machine still has its empty image
    cases hlast : (sources.filter (·.Fits config.programAddr)).getLast? with
    | none => rfl
    | some last =>
      have hmem := List.mem_of_getLast? hlast
      have hfits : last.Fits config.programAddr := of_decide_eq_true (List.mem_filter.1 hmem).2
      obtain ⟨hfailure, hle⟩ := (Source.fits_iff haddr last).1 hfits
      exact (powerOn_eq_ok_iff _ _ _ _).2 ⟨hvalid, hsize, hfailure, hle, rfl⟩
  · intro m hprogram source
    obtain ⟨r, hact, hreply, hmachine⟩ := exists_act_load m source
    refine ⟨r, _, hact, hreply, ?_, ?_⟩
    · rw [hmachine]
    · rw [hmachine]
      exact Memory.loadsTo_loadInPlace (by rw [hprogram]; exact haddr) source

/-- A long program, one whose source fails, one that is too long, and a short one. A byte more
is laid down over the short one, which clears its second byte. -/
theorem short_program_stays :
    let sources : List Source := [.ofBytes [1, 2, 3, 4, 5, 6], ⟨[7, 8], some .frameSize⟩,
      .ofBytes (List.replicate 3585 9), .ofBytes [0x12, 0x00]]
    ∃ start m r, Machine.new Config.standard (Seed.key 0) = .ok start ∧
      start.acts (sources.map .load) = .ok m ∧
      powerOn Config.standard (Seed.key 0) (.ofBytes [0x12, 0x00]) = .ok m ∧
      m.act (.load (.ofBytes [0x60])) = .ok r ∧
      m.memory.LaidDown r.machine.memory [0x60] := by
  intro sources
  have hvalid : Config.standard.Valid := (Config.check_eq_ok_iff _).1 rfl
  have hnew := new_eq_ok hvalid (by decide) (Seed.key 0)
  obtain ⟨hloads, hload⟩ := last_load_stays hnew
  obtain ⟨m, hm, hlast⟩ := hloads sources
  -- the third source is one byte too long
  have hlong : ¬ (Source.ofBytes (List.replicate 3585 9)).Fits Config.standard.programAddr := by
    rintro ⟨-, hle⟩
    rw [Source.ofBytes, List.length_replicate] at hle
    exact absurd hle (by decide)
  -- the second fails and the third is too long, so the last one counts
  have hsources : (sources.filter (·.Fits Config.standard.programAddr)).getLast? =
      some (.ofBytes [0x12, 0x00]) := by
    rw [List.filter_cons_of_pos (by decide), List.filter_cons_of_neg (by decide),
      List.filter_cons_of_neg (by simp only [decide_eq_true_eq]; exact hlong),
      List.filter_cons_of_pos (by decide)]
    rfl
  rw [hsources] at hlast
  have hprogram : m.memory.programAddr = Config.standard.programAddr := by
    obtain ⟨_, -, -, -, rfl⟩ := (powerOn_eq_ok_iff _ _ _ _).1 hlast
    rfl
  obtain ⟨r, result, hact, -, -, hto⟩ := hload m hprogram (.ofBytes [0x60])
  exact ⟨_, m, r, hnew, hm, hlast, hact, hto.laidDown (by rw [hprogram]; decide)⟩

end Machine

end Cosmac
