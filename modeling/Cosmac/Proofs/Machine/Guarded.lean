import Cosmac.Machine.Order
import Cosmac.Proofs.Machine.Action

/-!
# Cosmac — guarded machines

The definitions of the machine have an answer everywhere: a sum that is too large for its word wraps
around, a remainder by zero is the dividend, a write past the end of a table is left out. Here the
same operations are done under guards, and an operation outside of its domain is a `Hazard` instead
of an answer.

There is a guard for every sum and product that must not wrap, for every remainder, and for every
access to a table whose place is a number. The guarded operations are written next to the plain ones
and in the same order, so that they can be compared line by line. The facts below then say that a
guard never strikes and that nothing else is different. What they need of the machine is collected
as hypotheses on the way up, and there is not much: a screen of limited size, glyphs and program
inside memory, and room for one more fault.

* `Guarded.draw`, `Guarded.perform`, `Guarded.step`, `Guarded.load`, `Guarded.reset` and
  `Guarded.act` are the guarded operations.
* `draw_eq`, `perform_eq`, … say when the guards change nothing; `act_eq` — for any action.
-/

namespace Cosmac

/-- An operation outside of its domain. -/
inductive Hazard
  /-- A number does not fit its word. -/
  | overflow
  /-- A remainder is taken by zero. -/
  | remainder
  /-- A place lies outside of its table. -/
  | index
  deriving Repr, DecidableEq

namespace Guarded

/-! ## Guards

One for each way of leaving a domain, and the equation that takes it away where it does not strike.
-/

/-- A sum in a word that has room for the numbers below `limit`. -/
def sum (limit a b : Nat) : Except Hazard Nat :=
  if a + b < limit then .ok (a + b) else .error .overflow

def product (limit a b : Nat) : Except Hazard Nat :=
  if a * b < limit then .ok (a * b) else .error .overflow

def remainder (a b : Nat) : Except Hazard Nat :=
  if b = 0 then .error .remainder else .ok (a % b)

/-- Asks for the places from `start` up to `stop` in memory. -/
def range (start stop : Nat) : Except Hazard Unit :=
  if start ≤ stop ∧ stop ≤ Ram.size then .ok () else .error .index

/-- A sum that fits needs no guard. -/
theorem sum_eq {limit a b : Nat} (h : a + b < limit) : sum limit a b = .ok (a + b) :=
  if_pos h

/-- Neither does a product that fits. -/
theorem product_eq {limit a b : Nat} (h : a * b < limit) : product limit a b = .ok (a * b) :=
  if_pos h

/-- Neither does a remainder by a number that is not zero. -/
theorem remainder_eq {a b : Nat} (h : 0 < b) : remainder a b = .ok (a % b) :=
  if_neg (Nat.ne_of_gt h)

theorem range_eq {start stop : Nat} (h : start ≤ stop) (h' : stop ≤ 4096) :
    range start stop = .ok () :=
  if_pos ⟨h, h'⟩

@[simp] theorem ok_bind {α β : Type} (a : α) (f : α → Except Hazard β) :
    (Except.ok a >>= f) = f a := rfl

/-! ## Drawing

Each bit is placed by sums, by a remainder or a comparison, and by the number of a pixel. -/

/-- Turns the pixel with the number `k` over. -/
def flip (s : Screen) (k : Nat) : Screen where
  frame := { s.frame with
    pixels := s.frame.pixels.modify k not
    size_pixels := by rw [Array.size_modify]; exact s.frame.size_pixels }
  width_pos := s.width_pos
  height_pos := s.height_pos

/-- Turns the pixel (x, y) over, and remembers whether it or an earlier one was lit. -/
def strike (s : Screen × Bool) (x y : Nat) : Except Hazard (Screen × Bool) := do
  let row ← product 0x10000000000000000 y s.1.frame.width
  let k ← sum 0x10000000000000000 row x
  if h : k < s.1.frame.pixels.size then .ok (flip s.1 k, s.2 || s.1.frame.pixels[k])
  else .error .index

/-- One bit of a sprite whose origin lies at (x₀, y₀). -/
def drawBit (edges : SpriteEdges) (x₀ y₀ : Nat) (s : Screen × Bool) (bit : Nat × Nat) :
    Except Hazard (Screen × Bool) := do
  let x ← sum 0x10000000000000000 x₀ bit.1
  let y ← sum 0x10000000000000000 y₀ bit.2
  match edges with
  | .wrap =>
    let px ← remainder x s.1.frame.width
    let py ← remainder y s.1.frame.height
    strike s px py
  | .clip => if s.1.frame.width ≤ x ∨ s.1.frame.height ≤ y then .ok s else strike s x y

/-- XORs a sprite in, bit by bit; whether it collided. -/
def draw (s : Screen) (x y : UInt8) (sprite : List UInt8) (edges : SpriteEdges) :
    Except Hazard (Screen × Bool) := do
  let x₀ ← remainder x.toNat s.frame.width
  let y₀ ← remainder y.toNat s.frame.height
  (Sprite.bits sprite).foldlM (drawBit edges x₀ y₀) (s, false)

/-! ## Instructions and steps

Only the instructions that compute with something larger than a byte have anything to guard. -/

def indexAfterTransfer (m : Machine) (x : Reg) : Except Hazard UInt16 := do
  if m.dialect.transferMovesIndex then
    let last ← sum 0x100000000 m.registers.i.toNat x.val
    let raw ← sum 0x100000000 last 1
    return m.dialect.indexOverflow.bound raw
  else return m.registers.i

/-- What an instruction does. Those that are not listed compute with bytes, which wrap by design,
and access memory after a check of their own. -/
def perform (m : Machine) : Instruction → Except Hazard (Except Refusal Effect)
  | .jumpOffset x target => do
    let sum ← sum 0x10000 target.toNat (m.get (m.dialect.jumpRegister.pick x)).toNat
    return .ok (.goto m (.jump (UInt16.ofNat sum)))
  | .draw x y rows =>
    match m.access (m.memory.ram.read? m.registers.i.toNat rows.toNat) with
    | .error fault => return m.refuse fault
    | .ok sprite => do
      let drawn ← draw m.screen (m.get x) (m.get y) sprite m.dialect.spriteEdges
      return .ok ⟨{ m with screen := drawn.1 }.setFlag drawn.2, .next,
        [.drawing m.registers.i (m.get x) (m.get y) rows]⟩
  | .addIndex x => do
    let raw ← sum 0x100000000 m.registers.i.toNat (m.get x).toNat
    return .ok (.next ((m.setIndex (m.dialect.indexOverflow.bound raw)).setFlag (4096 ≤ raw)))
  | .glyph x => do
    let offset ← product 0x10000 (m.get x).toNat 5
    let addr ← sum 0x10000 m.memory.fontAddr.toNat offset
    return .ok (.next (m.setIndex (UInt16.ofNat addr)))
  | .save x =>
    match m.writeAtIndex (m.registers.upTo x) with
    | .error fault => return m.refuse fault
    | .ok m' => do
      let i ← indexAfterTransfer m x
      return .ok (.next (m'.setIndex i))
  | .restore x =>
    match m.access (m.memory.ram.read? m.registers.i.toNat (x.val + 1)) with
    | .error fault => return m.refuse fault
    | .ok data => do
      let i ← indexAfterTransfer m x
      return .ok (.next ({ m with registers := m.registers.setFirst data }.setIndex i))
  | instr => return m.perform instr

/-- Carries out an instruction; the count of faults is a word of sixty-four bits. -/
def execute (m : Machine) (instr : Instruction) : Except Hazard Step := do
  let trace := Event.executing instr m.dialect.jumpRegister m.registers.pc
  match ← perform m instr with
  | .ok effect =>
    let s := m.settle effect
    return { s with log := trace :: s.log }
  | .error refusal =>
    let _ ← sum 0x10000000000000000 refusal.machine.faults 1
    let s := refusal.machine.recover refusal.fault
    return { s with log := trace :: s.log }

def step (m : Machine) : Except Hazard Step :=
  let pc := m.registers.pc
  match m.memory.ram.word? pc.toNat with
  | .ok word => execute m (Instruction.decode word)
  | .error range => do
    let faults ← sum 0x10000000000000000 m.faults 1
    let fault := Fault.memoryOutOfBounds pc range
    return ⟨.faulted fault, { m with faults }.jumpTo ((pc + 2) % 4096), [.faulted fault]⟩

/-! ## Actions

Loading and resetting go by the place and the length of the program, and everything else is a value
in a field. -/

/-- Loads a program. Where a longer one used to end, zeros are written. -/
def load (m : Machine) (source : Source) :
    Except Hazard (Except Failure (Nat × Machine × Event)) :=
  let start := m.memory.programAddr.toNat
  match m.memory.place m.memory.programAddr source with
  | .error e => return .error e
  | .ok (len, _) => do
    if len < m.memory.programLen then range (start + len) (start + m.memory.programLen)
    return m.load source

def program (m : Machine) : Except Hazard (List UInt8) := do
  let start := m.memory.programAddr.toNat
  range start (start + m.memory.programLen)
  return (m.memory.ram.bytes.extract start (start + m.memory.programLen)).toList

/-- Starts again with the image of the program, which is laid down after the glyphs. -/
def reset (m : Machine) : Except Hazard Machine := do
  let image ← program m
  range m.memory.fontAddr.toNat (m.memory.fontAddr.toNat + glyphTableSize)
  range m.memory.programAddr.toNat (m.memory.programAddr.toNat + image.length)
  let glyphs := Ram.zero.overwrite m.memory.fontAddr.toNat glyphTable
  return { m with
    memory := { m.memory with ram := glyphs.overwrite m.memory.programAddr.toNat image }
    registers := .start m.memory.programAddr
    stack := m.stack.clear
    screen := m.screen.clear
    timers := .idle
    keypad := .released
    idleAt := none
    faults := 0 }

/-- Carries out an action. Those that are not listed write a value to a place that there is. -/
def act (m : Machine) : Action → Except Hazard Reaction
  | .load source => do
    match ← load m source with
    | .error e => return ⟨m, .loaded (.error e), []⟩
    | .ok (len, m', loaded) => return ⟨m', .loaded (.ok len), [loaded]⟩
  | .step => do
    let s ← step m
    return ⟨s.machine, .stepped s.outcome, s.log⟩
  | .setRegisters registers => return ⟨{ m with registers }, .quiet, []⟩
  | .setDelay value => return ⟨m.setDelay value, .quiet, []⟩
  | .setSound value => return ⟨m.setSound value, .quiet, []⟩
  | .tick => return ⟨m.tick 1, .quiet, []⟩
  | .setKey key down => return ⟨m.setKey key down, .quiet, []⟩
  | .releaseKeys => return ⟨m.releaseKeys, .quiet, []⟩
  | .reset => do
    let m' ← reset m
    return ⟨m', .quiet, []⟩

/-! ## When the guards of a drawing change nothing

Coordinates stay far below a machine word, and the number of a pixel on the screen is below the
number of its pixels. -/

/-- A bit lies in one of eight columns, and in a row that the sprite has. -/
theorem lt_of_mem_bits {sprite : List UInt8} {bit : Nat × Nat} (h : bit ∈ Sprite.bits sprite) :
    bit.1 < 8 ∧ bit.2 < sprite.length := by
  simp only [Sprite.bits, List.mem_flatMap, List.mem_map, List.mem_filter, List.mem_range] at h
  obtain ⟨⟨byte, row⟩, hrow, col, ⟨hcol, -⟩, rfl⟩ := h
  exact ⟨hcol, (List.mem_zipIdx' hrow).1⟩

/-- What is seen of a drawing that is under way: the frame, and whether it collided. -/
def seen (s : Screen × Bool) : Frame × Bool :=
  (s.1.frame, s.2)

/-- On a pixel of the screen, the guarded strike is the plain one. -/
theorem strike_eq {s : Screen × Bool} {x y : Nat}
    (hcap : s.1.frame.width * s.1.frame.height ≤ Frame.capacity)
    (hx : x < s.1.frame.width) (hy : y < s.1.frame.height) :
    ∃ s', strike s x y = .ok s' ∧ seen s' = Frame.strike (seen s) (x, y) := by
  have hlt : y * s.1.frame.width + x < s.1.frame.width * s.1.frame.height :=
    Frame.index_lt hx hy
  have hsize : y * s.1.frame.width + x < s.1.frame.pixels.size := by
    rw [s.1.frame.size_pixels]
    exact hlt
  have hcap' : s.1.frame.width * s.1.frame.height < 0x10000000000000000 :=
    Nat.lt_of_le_of_lt hcap (by decide)
  -- both numbers are below the number of pixels, which is far below a word
  refine ⟨(flip s.1 (y * s.1.frame.width + x), s.2 || s.1.frame.pixels[y * s.1.frame.width + x]),
    ?_, ?_⟩
  · rw [strike, product_eq (by omega), ok_bind, sum_eq (by omega), ok_bind, dif_pos hsize]
  · -- the pixel with that number is the one that is asked for
    have hlit : s.1.frame.isLit? x y = some s.1.frame.pixels[y * s.1.frame.width + x] := by
      rw [Frame.isLit?, if_pos ⟨hx, hy⟩, Array.getElem?_eq_getElem hsize]
    rw [Frame.strike]
    show (_, _) = (_, s.2 || (s.1.frame.isLit? x y).getD false)
    rw [hlit]
    rfl

/-- A bit strikes the pixel that it lands on, if it lands. -/
theorem drawBit_eq (edges : SpriteEdges) {x₀ y₀ : Nat} {s : Screen × Bool} {bit : Nat × Nat}
    (hcap : s.1.frame.width * s.1.frame.height ≤ Frame.capacity)
    (hx : x₀ + bit.1 < 0x10000000000000000) (hy : y₀ + bit.2 < 0x10000000000000000) :
    ∃ s', drawBit edges x₀ y₀ s bit = .ok s' ∧
      seen s' = match s.1.frame.land? edges (x₀ + bit.1) (y₀ + bit.2) with
        | some p => Frame.strike (seen s) p
        | none => seen s := by
  rw [drawBit, sum_eq hx, ok_bind, sum_eq hy, ok_bind]
  cases edges with
  | wrap =>
    rw [remainder_eq s.1.width_pos]
    show ∃ s', (Except.ok _ >>= _) = _ ∧ _
    rw [ok_bind, remainder_eq s.1.height_pos, ok_bind]
    exact strike_eq hcap (Nat.mod_lt _ s.1.width_pos) (Nat.mod_lt _ s.1.height_pos)
  | clip =>
    -- inside it is struck as it is, and outside it is left out
    by_cases hin : x₀ + bit.1 < s.1.frame.width ∧ y₀ + bit.2 < s.1.frame.height
    · have hout : ¬ (s.1.frame.width ≤ x₀ + bit.1 ∨ s.1.frame.height ≤ y₀ + bit.2) := by omega
      simp only [Frame.land?, if_pos hin, if_neg hout]
      exact strike_eq hcap hin.1 hin.2
    · have hout : s.1.frame.width ≤ x₀ + bit.1 ∨ s.1.frame.height ≤ y₀ + bit.2 := by omega
      simp only [Frame.land?, if_neg hin, if_pos hout]
      exact ⟨s, rfl, rfl⟩

/-- Bit after bit, the pixels that are struck are those that the sprite hits. Striking keeps the
rectangle, so later bits land where they would have landed at first. -/
theorem foldlM_drawBit (edges : SpriteEdges) {x₀ y₀ : Nat} {bits : List (Nat × Nat)}
    (hbits : ∀ bit ∈ bits,
      x₀ + bit.1 < 0x10000000000000000 ∧ y₀ + bit.2 < 0x10000000000000000)
    {s : Screen × Bool} (hcap : s.1.frame.width * s.1.frame.height ≤ Frame.capacity) :
    ∃ s', bits.foldlM (drawBit edges x₀ y₀) s = .ok s' ∧
      seen s' = (bits.filterMap fun bit =>
        s.1.frame.land? edges (x₀ + bit.1) (y₀ + bit.2)).foldl Frame.strike (seen s) := by
  -- the screen changes with every bit, but `land?` reads no more of it than its size
  induction bits generalizing s with
  | nil => exact ⟨s, rfl, rfl⟩
  | cons bit rest ih =>
    obtain ⟨hx, hy⟩ := hbits bit List.mem_cons_self
    obtain ⟨s₁, hs₁, hseen₁⟩ := drawBit_eq edges hcap hx hy
    -- the frame after the first bit has the rectangle that it had
    have hrect : s₁.1.frame.width = s.1.frame.width ∧ s₁.1.frame.height = s.1.frame.height := by
      have hframe : s₁.1.frame = (seen s₁).1 := rfl
      rw [hframe, hseen₁]
      cases s.1.frame.land? edges (x₀ + bit.1) (y₀ + bit.2) with
      | some p => exact ⟨rfl, rfl⟩
      | none => exact ⟨rfl, rfl⟩
    have hland (x y : Nat) : s₁.1.frame.land? edges x y = s.1.frame.land? edges x y := by
      simp only [Frame.land?, hrect.1, hrect.2]
    have hcap₁ : s₁.1.frame.width * s₁.1.frame.height ≤ Frame.capacity := by
      rw [hrect.1, hrect.2]
      exact hcap
    obtain ⟨s', hs', hseen'⟩ :=
      ih (fun b hb => hbits b (List.mem_cons_of_mem bit hb)) hcap₁
    refine ⟨s', ?_, ?_⟩
    · rw [List.foldlM_cons, hs₁, ok_bind]
      exact hs'
    · rw [hseen', hseen₁]
      simp only [hland]
      cases hfirst : s.1.frame.land? edges (x₀ + bit.1) (y₀ + bit.2) with
      | some p => simp only [List.filterMap_cons, hfirst, List.foldl_cons]
      | none => simp only [List.filterMap_cons, hfirst]

/-- **Drawing on a screen needs no guard**: the origin is a remainder by a size that is not zero,
and every pixel that is struck lies on the screen. -/
theorem draw_eq {s : Screen} (hcap : s.frame.width * s.frame.height ≤ Frame.capacity)
    (x y : UInt8) {sprite : List UInt8} (hlen : sprite.length < 0x100000000) (edges : SpriteEdges) :
    draw s x y sprite edges = .ok (s.draw x y sprite edges) := by
  have hbits : ∀ bit ∈ Sprite.bits sprite,
      x.toNat % s.frame.width + bit.1 < 0x10000000000000000 ∧
        y.toNat % s.frame.height + bit.2 < 0x10000000000000000 := by
    intro bit hbit
    obtain ⟨hcol, hrow⟩ := lt_of_mem_bits hbit
    have hx : x.toNat % s.frame.width ≤ x.toNat := Nat.mod_le _ _
    have hy : y.toNat % s.frame.height ≤ y.toNat := Nat.mod_le _ _
    have hx' : x.toNat < 256 := x.toNat_lt
    have hy' : y.toNat < 256 := y.toNat_lt
    omega
  -- the screens agree because a screen is its frame
  obtain ⟨s', hs', hseen⟩ := @foldlM_drawBit edges _ _ _ hbits (s, false) hcap
  rw [draw, remainder_eq s.width_pos, ok_bind, remainder_eq s.height_pos, ok_bind, hs']
  have himprint : seen s' = s.frame.imprint x y sprite edges := hseen
  have hframe : s'.1.frame = (s.draw x y sprite edges).1.frame := by
    show (seen s').1 = (s.frame.imprint x y sprite edges).1
    rw [himprint]
  have hflag : s'.2 = (s.draw x y sprite edges).2 := by
    show (seen s').2 = (s.frame.imprint x y sprite edges).2
    rw [himprint]
  rw [Prod.ext (Screen.ext hframe) hflag]

/-! ## When the guards of an instruction change nothing

Bounds of bytes and of words, added up. -/

/-- An index is moved by sixteen at most. -/
theorem indexAfterTransfer_eq (m : Machine) (x : Reg) :
    indexAfterTransfer m x = .ok (m.indexAfterTransfer x) := by
  have hi : m.registers.i.toNat < 65536 := m.registers.i.toNat_lt
  have hx : x.val < 16 := x.isLt
  unfold indexAfterTransfer Machine.indexAfterTransfer
  cases m.dialect.transferMovesIndex with
  | true =>
    have hlast : m.registers.i.toNat + x.val < 0x100000000 := by omega
    have hraw : m.registers.i.toNat + x.val + 1 < 0x100000000 := by omega
    rw [if_pos rfl, if_pos rfl, sum_eq hlast, ok_bind, sum_eq hraw, ok_bind]
    rfl
  | false => rfl

/-- **Instructions need no guard** on a machine whose glyphs lie inside memory: a jump target has
twelve bits and its offset eight, and so on for every sum that an instruction makes. -/
theorem perform_eq {m : Machine}
    (hcap : m.screen.frame.width * m.screen.frame.height ≤ Frame.capacity)
    (hfont : m.memory.fontAddr.toNat < 4096) (word : UInt16) :
    perform m (Instruction.decode word) = .ok (m.perform (Instruction.decode word)) := by
  have htarget := m.canExecute_decode word
  cases hi : Instruction.decode word with
  | jumpOffset x target =>
    -- decoding leaves twelve bits for the target, so the sum does not wrap
    rw [hi] at htarget
    have hsum : target.toNat + (m.get (m.dialect.jumpRegister.pick x)).toNat < 0x10000 := by
      simpa [Machine.canExecute] using htarget
    have hword : UInt16.ofNat (target.toNat + (m.get (m.dialect.jumpRegister.pick x)).toNat)
        = target + (m.get (m.dialect.jumpRegister.pick x)).toUInt16 := by
      apply UInt16.toNat_inj.1
      simp
    simp only [perform, sum_eq hsum, ok_bind, hword]
    rfl
  | draw x y rows =>
    simp only [perform, Machine.perform]
    cases hread : m.access (m.memory.ram.read? m.registers.i.toNat rows.toNat) with
    | error fault => rfl
    | ok sprite =>
      have hlen : sprite.length = rows.toNat := Machine.length_of_access_read? hread
      have hrows : rows.toNat < 256 := rows.toNat_lt
      have hshort : sprite.length < 0x100000000 := by omega
      simp only [draw_eq hcap _ _ hshort, ok_bind]
      rfl
  | addIndex x =>
    have hi : m.registers.i.toNat < 65536 := m.registers.i.toNat_lt
    have hx : (m.get x).toNat < 256 := (m.get x).toNat_lt
    have hsum : m.registers.i.toNat + (m.get x).toNat < 0x100000000 := by omega
    simp only [perform, sum_eq hsum, ok_bind]
    rfl
  | glyph x =>
    have hx : (m.get x).toNat < 256 := (m.get x).toNat_lt
    -- any byte may be asked for, not only a digit
    have hoffset : (m.get x).toNat * 5 < 0x10000 := by omega
    have haddr : m.memory.fontAddr.toNat + (m.get x).toNat * 5 < 0x10000 := by omega
    have hword : UInt16.ofNat (m.memory.fontAddr.toNat + (m.get x).toNat * 5)
        = m.memory.glyphAddr (m.get x) := by
      apply UInt16.toNat_inj.1
      simp [Memory.glyphAddr]
    simp only [perform, product_eq hoffset, ok_bind, sum_eq haddr, hword]
    rfl
  | save x =>
    simp only [perform, Machine.perform]
    cases m.writeAtIndex (m.registers.upTo x) with
    | error fault => rfl
    | ok m' =>
      simp only [indexAfterTransfer_eq, ok_bind]
      rfl
  | restore x =>
    simp only [perform, Machine.perform]
    cases m.access (m.memory.ram.read? m.registers.i.toNat (x.val + 1)) with
    | error fault => rfl
    | ok data =>
      simp only [indexAfterTransfer_eq, ok_bind]
      rfl
  | _ => rfl

/-- **A step needs no guard** beyond that, as long as its fault can be counted. -/
theorem step_eq {m : Machine}
    (hcap : m.screen.frame.width * m.screen.frame.height ≤ Frame.capacity)
    (hfont : m.memory.fontAddr.toNat < 4096) (hfaults : m.faults + 1 < 0x10000000000000000) :
    step m = .ok m.step := by
  unfold step Machine.step
  cases hword : m.memory.ram.word? m.registers.pc.toNat with
  | error range =>
    simp only [hword, sum_eq hfaults, ok_bind]
    rfl
  | ok word =>
    simp only [hword]
    unfold execute Machine.execute
    rw [perform_eq hcap hfont, ok_bind]
    cases hperform : m.perform (Instruction.decode word) with
    | ok effect => rfl
    | error refusal =>
      -- the guard counts on what the instruction left, which is `m`
      have hmachine : refusal.machine = m := Machine.machine_of_refusal hperform
      simp only [hmachine, sum_eq hfaults, ok_bind]
      rfl

/-! ## When the guards of an action change nothing

The program lies inside memory, so its end can be cleared and all of it can be read back. -/

/-- The end of a longer program lies inside memory. -/
theorem load_eq {m : Machine}
    (hprogram : m.memory.programAddr.toNat + m.memory.programLen ≤ 4096) (source : Source) :
    load m source = .ok (m.load source) := by
  unfold load Machine.load Memory.load
  cases m.memory.place m.memory.programAddr source with
  | error e => rfl
  | ok placed =>
    by_cases hlen : placed.1 < m.memory.programLen
    · have hle : m.memory.programAddr.toNat + placed.1
          ≤ m.memory.programAddr.toNat + m.memory.programLen := by omega
      simp only [if_pos hlen, range_eq hle hprogram, ok_bind]
      rfl
    · simp only [if_neg hlen]
      rfl

/-- So does the program, and it can be read. -/
theorem program_eq {m : Machine}
    (hprogram : m.memory.programAddr.toNat + m.memory.programLen ≤ 4096) :
    ∃ image, image.length = m.memory.programLen ∧ m.memory.program? = .ok image ∧
      program m = .ok image := by
  let start := m.memory.programAddr.toNat
  let image := (m.memory.ram.bytes.extract start (start + m.memory.programLen)).toList
  have hlen : image.length = m.memory.programLen := by
    rw [Vector.length_toList]
    omega
  refine ⟨image, hlen, ?_, ?_⟩
  · have hsize : m.memory.programAddr.toNat + m.memory.programLen ≤ Ram.size := hprogram
    rw [Memory.program?, Ram.read?, if_pos hsize]
  · rw [program, range_eq (Nat.le_add_right _ _) hprogram, ok_bind]
    rfl

/-- Both glyphs and program can be laid down again. -/
theorem reset_eq {m : Machine}
    (hfont : m.memory.fontAddr.toNat + glyphTableSize ≤ 4096)
    (hprogram : m.memory.programAddr.toNat + m.memory.programLen ≤ 4096) :
    ∃ m', m.reset? = .ok m' ∧ reset m = .ok m' := by
  obtain ⟨image, hlen, himage, hguarded⟩ := program_eq hprogram
  have hplace : m.memory.programAddr.toNat + image.length ≤ 4096 := by omega
  -- the image has been read, so the reset does not crash
  cases hreset : m.reset? with
  | error crash =>
    simp only [Machine.reset?, Memory.reset?, himage] at hreset
    contradiction
  | ok m' =>
    simp only [Machine.reset?, Memory.reset?, himage] at hreset
    obtain rfl := Except.ok.inj hreset
    refine ⟨_, rfl, ?_⟩
    rw [reset, hguarded, ok_bind, range_eq (Nat.le_add_right _ _) hfont, ok_bind,
      range_eq (Nat.le_add_right _ _) hplace, ok_bind]
    rfl

/-- **No action needs a guard** on a machine of which a valid configuration fixed the layout. -/
theorem act_eq {m : Machine}
    (hcap : m.screen.frame.width * m.screen.frame.height ≤ Frame.capacity)
    (hfont : m.memory.fontAddr.toNat + glyphTableSize ≤ 4096)
    (hprogram : m.memory.programAddr.toNat + m.memory.programLen ≤ 4096)
    (hfaults : m.faults + 1 < 0x10000000000000000) (a : Action) :
    ∃ r, m.act a = .ok r ∧ act m a = .ok r := by
  cases a with
  -- a load writes the program and clears the rest of a longer one
  | load source =>
    cases hload : m.load source with
    | error e =>
      refine ⟨⟨m, .loaded (.error e), []⟩, ?_, ?_⟩
      · simp only [Machine.act, hload]
      · rw [act, load_eq hprogram, ok_bind, hload]
        rfl
    | ok loaded =>
      refine ⟨⟨loaded.2.1, .loaded (.ok loaded.1), [loaded.2.2]⟩, ?_, ?_⟩
      · simp only [Machine.act, hload]
      · rw [act, load_eq hprogram, ok_bind, hload]
        rfl
  | step =>
    have hglyphs : m.memory.fontAddr.toNat < 4096 := by
      simp only [glyphTableSize] at hfont
      omega
    refine ⟨_, rfl, ?_⟩
    rw [act, step_eq hcap hglyphs hfaults, ok_bind]
    rfl
  | reset =>
    obtain ⟨m', hreset, hguarded⟩ := reset_eq hfont hprogram
    refine ⟨⟨m', .quiet, []⟩, ?_, ?_⟩
    · simp only [Machine.act, hreset]
    · rw [act, hguarded, ok_bind]
      rfl
  -- keys, ticks and registers need no guard at all
  | _ => exact ⟨_, rfl, rfl⟩

end Guarded

end Cosmac
