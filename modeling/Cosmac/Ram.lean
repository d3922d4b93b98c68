import Cosmac.Fault
import Cosmac.Instruction.Listing

/-!
# Cosmac — random access memory

Four kilobytes. An access names a start and a length, and succeeds when the whole range lies inside
memory; otherwise it is refused and changes nothing.

* `Ram.read?`, `Ram.word?`, `Ram.write?` and `Ram.fill?` are the accesses.

* `Ram.byteAt` is the view: what lies at one address. `getElem?_of_read?` and `byteAt_overwrite` say
  what reading and writing are in terms of it, so that nothing else has to look at the vector.

`Ram.overwrite` is a write without the check. It leaves out what would fall outside, and is meant
for data of which it is known to fit.
-/

namespace Cosmac

/-- The addressable bytes. -/
structure Ram where
  bytes : Vector UInt8 4096
  deriving DecidableEq

namespace Ram

def size : Nat := 4096

/-- All zeros. -/
def zero : Ram where
  bytes := Vector.replicate 4096 0

/-- The byte at `a`, where there is one. -/
def byteAt (m : Ram) (a : Nat) : Option UInt8 :=
  m.bytes[a]?

/-- How many bytes lie at and after `a`. -/
def free (a : Nat) : Nat :=
  size - a

/-! ## Reading

A read gives copies: what is written later does not show in them. -/

/-- The bytes of a range. -/
def read? (m : Ram) (start len : Nat) : Except OutOfBounds (List UInt8) :=
  if start + len ≤ size then .ok (m.bytes.extract start (start + len)).toList
  else .error ⟨start, len⟩

/-- The big-endian word at `a`. -/
def word? (m : Ram) (a : Nat) : Except OutOfBounds UInt16 :=
  if h : a + 2 ≤ 4096 then .ok (wordOfBytes m.bytes[a] m.bytes[a + 1])
  else .error ⟨a, 2⟩

/-! ## Writing

All the bytes of a range are written, or none. -/

/-- `data` laid down from `start` on; what would fall outside memory is left out. -/
def overwrite (m : Ram) (start : Nat) : List UInt8 → Ram
  | [] => m
  | b :: rest => overwrite ⟨m.bytes.setIfInBounds start b⟩ (start + 1) rest

/-- `data` laid down from `start` on, provided that it fits. -/
def write? (m : Ram) (start : Nat) (data : List UInt8) : Except OutOfBounds Ram :=
  if start + data.length ≤ size then .ok (m.overwrite start data)
  else .error ⟨start, data.length⟩

/-- One value all over a range. -/
def fill? (m : Ram) (start len : Nat) (value : UInt8) : Except OutOfBounds Ram :=
  if start + len ≤ size then .ok (m.overwrite start (List.replicate len value))
  else .error ⟨start, len⟩

/-! ## When an access succeeds

The bound is the same for every access, and what is in memory has no part in it. -/

theorem read?_eq_ok_iff (m : Ram) (start len : Nat) (data : List UInt8) :
    m.read? start len = .ok data ↔
      start + len ≤ size ∧ data = (m.bytes.extract start (start + len)).toList := by
  unfold read?
  split
  case isTrue h => simp [h, eq_comm]
  case isFalse h => simp [h]

theorem write?_eq_ok_iff (m m' : Ram) (start : Nat) (data : List UInt8) :
    m.write? start data = .ok m' ↔
      start + data.length ≤ size ∧ m' = m.overwrite start data := by
  unfold write?
  split
  case isTrue h => simp [h, eq_comm]
  case isFalse h => simp [h]

/-! ## The view

Both facts say what lies at one address: after a read at an offset of its range, and after a write
at any address of memory. -/

/-- What is read at an offset of a range is the byte that lies there. -/
theorem getElem?_of_read? {m : Ram} {start len : Nat} {data : List UInt8}
    (h : m.read? start len = .ok data) (k : Nat) :
    data[k]? = if k < len then m.byteAt (start + k) else none := by
  obtain ⟨hle, rfl⟩ := (read?_eq_ok_iff m start len data).1 h
  have hle' : start + len ≤ 4096 := hle
  rw [Vector.getElem?_toList, Vector.getElem?_extract]
  have hmin : min (start + len) 4096 - start = len := by omega
  simp [byteAt, hmin]

theorem length_of_read? {m : Ram} {start len : Nat} {data : List UInt8}
    (h : m.read? start len = .ok data) : data.length = len := by
  obtain ⟨hle, rfl⟩ := (read?_eq_ok_iff m start len data).1 h
  have hle' : start + len ≤ 4096 := hle
  rw [Vector.length_toList]
  omega

theorem byteAt_overwrite (m : Ram) (start : Nat) (data : List UInt8) (a : Nat) :
    (m.overwrite start data).byteAt a =
      if a < size ∧ start ≤ a ∧ a < start + data.length then data[a - start]? else m.byteAt a := by
  induction data generalizing m start with
  | nil =>
    have : ¬ (a < size ∧ start ≤ a ∧ a < start + ([] : List UInt8).length) := by simp
    rw [if_neg this]
    rfl
  | cons b rest ih =>
    rw [overwrite, ih]
    by_cases ha : a < size
    · -- the first byte lies at its start, and the others where they would without it
      by_cases hs : a = start
      · subst hs
        have ha' : a < 4096 := ha
        have h1 : ¬ (a < size ∧ a + 1 ≤ a ∧ a < a + 1 + rest.length) := by omega
        have h2 : a < size ∧ a ≤ a ∧ a < a + (b :: rest).length := by simp [ha]
        rw [if_neg h1, if_pos h2]
        simp [byteAt, ha']
      · have hkeep : byteAt ⟨m.bytes.setIfInBounds start b⟩ a = m.byteAt a := by
          simp [byteAt, Ne.symm hs]
        by_cases hr : start + 1 ≤ a ∧ a < start + 1 + rest.length
        · have h2 : a < size ∧ start ≤ a ∧ a < start + (b :: rest).length := by
            simp only [List.length_cons]; omega
          rw [if_pos ⟨ha, hr⟩, if_pos h2, show a - start = (a - (start + 1)) + 1 by omega,
            List.getElem?_cons_succ]
        · have h2 : ¬ (a < size ∧ start ≤ a ∧ a < start + (b :: rest).length) := by
            simp only [List.length_cons]; omega
          rw [if_neg (fun h => hr h.2), if_neg h2, hkeep]
    · -- past the end there is nothing, whatever was to be written
      have h1 : ¬ (a < size ∧ start + 1 ≤ a ∧ a < start + 1 + rest.length) := fun h => ha h.1
      have h2 : ¬ (a < size ∧ start ≤ a ∧ a < start + (b :: rest).length) := fun h => ha h.1
      have ha' : 4096 ≤ a := Nat.le_of_not_lt ha
      rw [if_neg h1, if_neg h2]
      simp [byteAt, Vector.getElem?_eq_none ha']

end Ram

end Cosmac
