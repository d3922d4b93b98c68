import Cosmac.Config
import Cosmac.Log
import Cosmac.Ram

/-!
# Cosmac — the memory map

Memory as a machine lays it out: the glyphs of the hexadecimal digits at one address, the program at
another. The map remembers how long the loaded program is, so that it can be listed and laid down
again.

* `Memory.place` lays down what a source yields, at any address; `Memory.load` takes a program from
  a source: all of it or nothing.

* `Memory.program?` is the image that lies there now, with what the program has written over itself.

* `Memory.reset?` clears everything else.

The addresses of a map can be any: that the glyphs lie below the program is a rule for
configurations and not for maps. What a map cannot do on its own has no answer or is refused, and
`Config.Valid` rules it out.
-/

namespace Cosmac

/-- Bytes from outside. A failing source yields them and then fails instead of ending. -/
structure Source where
  bytes : List UInt8
  failure : Option HostError
  deriving Repr, DecidableEq

namespace Source

def ofBytes (bytes : List UInt8) : Source :=
  ⟨bytes, none⟩

/-- All the bytes of a source. -/
def readAll (s : Source) : Except HostError (List UInt8) :=
  match s.failure with
  | some e => .error e
  | none => .ok s.bytes

end Source

/-- Rows of five bytes each, for the digits `0` to `F`: four pixels wide, on the left. -/
def glyphTable : List UInt8 := [
  0xF0, 0x90, 0x90, 0x90, 0xF0,
  0x20, 0x60, 0x20, 0x20, 0x70,
  0xF0, 0x10, 0xF0, 0x80, 0xF0,
  0xF0, 0x10, 0xF0, 0x10, 0xF0,
  0x90, 0x90, 0xF0, 0x10, 0x10,
  0xF0, 0x80, 0xF0, 0x10, 0xF0,
  0xF0, 0x80, 0xF0, 0x90, 0xF0,
  0xF0, 0x10, 0x20, 0x40, 0x40,
  0xF0, 0x90, 0xF0, 0x90, 0xF0,
  0xF0, 0x90, 0xF0, 0x10, 0xF0,
  0xF0, 0x90, 0xF0, 0x90, 0x90,
  0xE0, 0x90, 0xE0, 0x90, 0xE0,
  0xF0, 0x80, 0x80, 0x80, 0xF0,
  0xE0, 0x90, 0x90, 0x90, 0xE0,
  0xF0, 0x80, 0xF0, 0x80, 0xF0,
  0xF0, 0x80, 0xF0, 0x80, 0x80]

theorem length_glyphTable : glyphTable.length = glyphTableSize := rfl

/-- Memory, with what lies where. -/
structure Memory where
  ram : Ram
  programAddr : UInt16
  fontAddr : UInt16
  /-- The length of the program that was loaded last. -/
  programLen : Nat
  deriving DecidableEq

namespace Memory

/-- Memory with nothing in it but the glyphs. -/
def new (programAddr fontAddr : UInt16) : Except ConfigError Memory :=
  match Ram.zero.write? fontAddr.toNat glyphTable with
  | .error _ => .error .glyphsOutsideMemory
  | .ok ram => .ok ⟨ram, programAddr, fontAddr, 0⟩

/-- The address of the glyph of a digit. Numbers past `F` count on, into whatever lies there. -/
def glyphAddr (m : Memory) (digit : UInt8) : UInt16 :=
  m.fontAddr + digit.toUInt16 * 5

/-! ## Loading

Three things are checked, in this order: that the source ends, that its bytes are not too many for
the room from the address on, and that the write succeeds. -/

/-- Everything that a source yields, laid down at `addr`, and how much that was. -/
def place (m : Memory) (addr : UInt16) (source : Source) : Except Failure (Nat × Memory) :=
  match source.readAll with
  | .error e => .error (.io e)
  | .ok data =>
    if Ram.free addr.toNat < data.length then
      .error (.programTooLarge data.length addr (Ram.free addr.toNat))
    else
      -- only an empty image can get past the size and still have no place
      match m.ram.write? addr.toNat data with
      | .error _ => .error (.invalidConfig .loadOutsideMemory)
      | .ok ram => .ok (data.length, { m with ram })

/-- Zeros where a longer program used to end. -/
def clearTail (m : Memory) (len : Nat) : Memory :=
  let zeros := List.replicate (m.programLen - len) 0
  { m with ram := m.ram.overwrite (m.programAddr.toNat + len) zeros }

/-- A program from a source: its length, the memory with it, and the report of that. -/
def load (m : Memory) (source : Source) : Except Failure (Nat × Memory × Event) :=
  match m.place m.programAddr source with
  | .error e => .error e
  | .ok (len, m') =>
    .ok (len, { m'.clearTail len with programLen := len }, .programLoaded len m.programAddr)

/-- All of a program is laid down or nothing: its source has to end, and it has to fit. -/
theorem load_eq_ok_iff (m : Memory) (source : Source) (len : Nat) (m' : Memory) (loaded : Event) :
    m.load source = .ok (len, m', loaded) ↔
      source.failure = none ∧ m.programAddr.toNat + source.bytes.length ≤ Ram.size ∧
        len = source.bytes.length ∧
        m' = { clearTail { m with ram := m.ram.overwrite m.programAddr.toNat source.bytes } len with
          programLen := len } ∧
        loaded = .programLoaded len m.programAddr := by
  cases hfailure : source.failure with
  | some e => simp [load, place, Source.readAll, hfailure]
  | none =>
    by_cases hfits : m.programAddr.toNat + source.bytes.length ≤ Ram.size
    · have hfree : ¬ Ram.free m.programAddr.toNat < source.bytes.length := by
        rw [Ram.free]
        omega
      have hwrite : m.ram.write? m.programAddr.toNat source.bytes =
          .ok (m.ram.overwrite m.programAddr.toNat source.bytes) :=
        (Ram.write?_eq_ok_iff _ _ _ _).2 ⟨hfits, rfl⟩
      -- the source is read, the size is checked, and the write goes through
      have hload : m.load source = .ok (source.bytes.length,
          { clearTail { m with ram := m.ram.overwrite m.programAddr.toNat source.bytes }
              source.bytes.length with programLen := source.bytes.length },
          .programLoaded source.bytes.length m.programAddr) := by
        simp only [load, place, Source.readAll, hfailure, if_neg hfree, hwrite]
      rw [hload]
      constructor
      · intro h
        simp only [Except.ok.injEq, Prod.mk.injEq] at h
        obtain ⟨rfl, rfl, rfl⟩ := h
        exact ⟨rfl, hfits, rfl, rfl, rfl⟩
      · rintro ⟨-, -, rfl, rfl, rfl⟩
        rfl
    · have hwrite : m.ram.write? m.programAddr.toNat source.bytes =
          .error ⟨m.programAddr.toNat, source.bytes.length⟩ :=
        if_neg hfits
      -- what does not fit is too long, or else the write finds out
      by_cases hfree : Ram.free m.programAddr.toNat < source.bytes.length
      · simp [load, place, Source.readAll, hfailure, hfree, hfits]
      · simp [load, place, Source.readAll, hfailure, hfree, hwrite, hfits]

/-! ## The program image

The image is read from memory as it is now. A program that writes over itself has changed its image,
and a reset keeps what it has written. -/

/-- The image as it is now, with what the program has written over itself. -/
def program? (m : Memory) : Except Crash (List UInt8) :=
  match m.ram.read? m.programAddr.toNat m.programLen with
  | .error _ => .error .programOutsideMemory
  | .ok image => .ok image

/-- Zeros everywhere but in the glyphs and the image. -/
def reset? (m : Memory) : Except Crash Memory :=
  match m.program? with
  | .error e => .error e
  | .ok image =>
    let glyphs := Ram.zero.overwrite m.fontAddr.toNat glyphTable
    -- the image comes last: where the two overlap, it is the image that stays
    .ok { m with ram := glyphs.overwrite m.programAddr.toNat image }

end Memory

end Cosmac
