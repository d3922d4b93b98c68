import Cosmac.Dialect
import Cosmac.Failure

/-!
# Cosmac — frames and sprites

A frame is a rectangle of pixels that are lit or not. Sprites are XORed in; nothing else lights a
pixel.

A sprite has a row of eight pixels in each of its bytes, the highest bit on the left. Drawing one is
a matter of three steps, each a function of its own: `Sprite.bits` lists the bits that are set,
`Frame.land?` says where a bit lands, and `Frame.strike` toggles that pixel. A *collision* is a
strike on a pixel that was lit.

A frame can be without pixels, and then nothing can be drawn on it; `Frame.draw?` has no answer
there. A `Screen` is a frame that has some, by its type, so that what a machine draws on never has
to be asked about this.
-/

namespace Cosmac

/-- Pixels in rows, from the top; the pixel (x, y) is number `y * width + x`. -/
@[ext] structure Frame where
  width : Nat
  height : Nat
  pixels : Array Bool
  size_pixels : pixels.size = width * height
  deriving DecidableEq

/-- The bits that are set in a sprite, as columns and rows counted from its upper left corner. -/
def Sprite.bits (sprite : List UInt8) : List (Nat × Nat) :=
  sprite.zipIdx.flatMap fun (bits, row) =>
    ((List.range 8).filter fun col => bits.toNat.testBit (7 - col)).map fun col => (col, row)

namespace Frame

/-- A frame with no pixel lit. -/
def blank (width height : Nat) : Frame where
  width := width
  height := height
  pixels := Array.replicate (width * height) false
  size_pixels := Array.size_replicate

/-- How many pixels a frame can have at most. -/
def capacity : Nat := 0x7fffffffffffffff

/-- A frame with no pixel lit, where there can be one of that size. -/
def blank? (width height : Nat) : Except Crash Frame :=
  if width * height ≤ capacity then .ok (blank width height) else .error .frameTooLarge

def clear (f : Frame) : Frame :=
  blank f.width f.height

/-- Whether a pixel is lit; no answer outside the frame. -/
def isLit? (f : Frame) (x y : Nat) : Option Bool :=
  if x < f.width ∧ y < f.height then f.pixels[y * f.width + x]? else none

/-- How many pixels are lit. -/
def litCount (f : Frame) : Nat :=
  f.pixels.toList.count true

/-! ## Drawing

The origin of a sprite is brought onto the frame first, and the edge mode is asked for each bit that
lies further on. -/

/-- Where the place (x, y) of an unbounded plane lies on the frame. -/
def land? (f : Frame) (edges : SpriteEdges) (x y : Nat) : Option (Nat × Nat) :=
  match edges with
  | .wrap => some (x % f.width, y % f.height)
  -- nothing lies to the left or above, since places count from the upper left corner
  | .clip => if x < f.width ∧ y < f.height then some (x, y) else none

/-- The pixels that a sprite strikes, in the order of its bits. Its origin always wraps; the edge
mode decides about what comes after it. -/
def hits (f : Frame) (x y : UInt8) (sprite : List UInt8) (edges : SpriteEdges) :
    List (Nat × Nat) :=
  (Sprite.bits sprite).filterMap fun (col, row) =>
    f.land? edges (x.toNat % f.width + col) (y.toNat % f.height + row)

/-- Toggles the pixel (x, y). -/
def toggle (f : Frame) (x y : Nat) : Frame :=
  { f with
    pixels := f.pixels.modify (y * f.width + x) not
    size_pixels := by rw [Array.size_modify]; exact f.size_pixels }

/-- Toggles one pixel, and remembers whether it or an earlier one was lit. -/
def strike (s : Frame × Bool) (p : Nat × Nat) : Frame × Bool :=
  (s.1.toggle p.1 p.2, s.2 || (s.1.isLit? p.1 p.2).getD false)

/-- Strikes every pixel of a list; whether any was lit when it was struck. -/
def strikeAll (f : Frame) (ps : List (Nat × Nat)) : Frame × Bool :=
  ps.foldl strike (f, false)

/-- XORs a sprite in; whether it collided. -/
def imprint (f : Frame) (x y : UInt8) (sprite : List UInt8) (edges : SpriteEdges) :
    Frame × Bool :=
  f.strikeAll (f.hits x y sprite edges)

/-- XORs a sprite in, where there is a pixel that its origin can lie on. -/
def draw? (f : Frame) (x y : UInt8) (sprite : List UInt8) (edges : SpriteEdges) :
    Except Crash (Frame × Bool) :=
  if f.width = 0 ∨ f.height = 0 then .error .emptyFrame
  else .ok (f.imprint x y sprite edges)

/-! ## Single pixels

Pixels are stored in one array, row after row. Two pixels of a frame never share a place in it, and
this is all that the other facts about single pixels rest on. -/

/-- Where pixels are stored, every pixel has a place of its own. -/
theorem index_lt {w h x y : Nat} (hx : x < w) (hy : y < h) : y * w + x < w * h := by
  have hrow : (y + 1) * w ≤ h * w := Nat.mul_le_mul_right w hy
  rw [Nat.succ_mul, Nat.mul_comm h w] at hrow
  omega

theorem index_inj {w x y x' y' : Nat} (hx : x < w) (hx' : x' < w)
    (h : y * w + x = y' * w + x') : x = x' ∧ y = y' := by
  have hw : 0 < w := by omega
  -- the column is what is left over the rows
  have hcol : x = x' := by
    have := congrArg (· % w) h
    simpa [Nat.mul_add_mod', Nat.mod_eq_of_lt hx, Nat.mod_eq_of_lt hx'] using this
  subst hcol
  exact ⟨rfl, Nat.eq_of_mul_eq_mul_right hw (by omega)⟩

theorem isLit?_eq_none_iff (f : Frame) (x y : Nat) :
    f.isLit? x y = none ↔ ¬ (x < f.width ∧ y < f.height) := by
  unfold isLit?
  split
  case isTrue h =>
    have hlt : y * f.width + x < f.pixels.size := by
      rw [f.size_pixels]
      exact index_lt h.1 h.2
    simp [hlt, h]
  case isFalse h => simp [h]

/-- Toggling a pixel of the frame turns that pixel over and leaves every other one. -/
theorem isLit?_toggle (f : Frame) {x y : Nat} (hx : x < f.width) (x' y' : Nat) :
    (f.toggle x y).isLit? x' y' =
      if x = x' ∧ y = y' then (f.isLit? x' y').map not else f.isLit? x' y' := by
  -- outside the frame there is no pixel before and none after
  by_cases hin : x' < f.width ∧ y' < f.height
  · by_cases heq : x = x' ∧ y = y'
    · obtain ⟨rfl, rfl⟩ := heq
      simp [isLit?, toggle, hin, Array.getElem?_modify]
    · have hne : y * f.width + x ≠ y' * f.width + x' := fun h => heq (index_inj hx hin.1 h)
      simp [isLit?, toggle, hin, heq, Array.getElem?_modify, hne]
  · have hnone : f.isLit? x' y' = none := (isLit?_eq_none_iff f x' y').2 hin
    have hnone' : (f.toggle x y).isLit? x' y' = none :=
      (isLit?_eq_none_iff (f.toggle x y) x' y').2 hin
    rw [hnone, hnone']
    simp

/-! ## Drawing keeps the size

Strikes change single pixels, so the frame keeps its shape and a screen stays a screen. -/

theorem width_foldl_strike (ps : List (Nat × Nat)) (s : Frame × Bool) :
    (ps.foldl strike s).1.width = s.1.width := by
  induction ps generalizing s with
  | nil => rfl
  | cons p ps ih => exact ih _

theorem height_foldl_strike (ps : List (Nat × Nat)) (s : Frame × Bool) :
    (ps.foldl strike s).1.height = s.1.height := by
  induction ps generalizing s with
  | nil => rfl
  | cons p ps ih => exact ih _

@[simp] theorem width_imprint (f : Frame) (x y : UInt8) (sprite : List UInt8)
    (edges : SpriteEdges) : (f.imprint x y sprite edges).1.width = f.width :=
  width_foldl_strike _ _

@[simp] theorem height_imprint (f : Frame) (x y : UInt8) (sprite : List UInt8)
    (edges : SpriteEdges) : (f.imprint x y sprite edges).1.height = f.height :=
  height_foldl_strike _ _

end Frame

/-- A frame with at least one pixel: what a machine draws on. -/
@[ext] structure Screen where
  frame : Frame
  width_pos : 0 < frame.width
  height_pos : 0 < frame.height
  deriving DecidableEq

namespace Screen

/-- A screen with no pixel lit, where the size allows a screen. -/
def blank? (width height : Nat) : Except (Stopped ConfigError) Screen :=
  if h : 0 < width ∧ 0 < height then
    if width * height ≤ Frame.capacity then .ok ⟨.blank width height, h.1, h.2⟩
    else .error (.crashed .frameTooLarge)
  else .error (.failed .emptyDisplay)

def clear (s : Screen) : Screen where
  frame := s.frame.clear
  width_pos := s.width_pos
  height_pos := s.height_pos

/-- XORs a sprite in; whether it collided. -/
def draw (s : Screen) (x y : UInt8) (sprite : List UInt8) (edges : SpriteEdges) :
    Screen × Bool :=
  (⟨(s.frame.imprint x y sprite edges).1, by simpa using s.width_pos, by simpa using s.height_pos⟩,
    (s.frame.imprint x y sprite edges).2)

/-- On a screen, drawing always has an answer. -/
theorem draw?_eq (s : Screen) (x y : UInt8) (sprite : List UInt8) (edges : SpriteEdges) :
    s.frame.draw? x y sprite edges =
      .ok ((s.draw x y sprite edges).1.frame, (s.draw x y sprite edges).2) := by
  have hw := s.width_pos
  have hh := s.height_pos
  have h : ¬ (s.frame.width = 0 ∨ s.frame.height = 0) := by omega
  simp [Frame.draw?, h, draw]

end Screen

end Cosmac
