import Cosmac.Proofs.Frame.Stamps
import Mathlib.Algebra.Ring.Parity
import Mathlib.Data.Finset.Prod

/-!
# Cosmac — a draw, pixel by pixel

On a screen that is narrower than a sprite or lower, several bits of the sprite land on one pixel.
What a draw leaves there depends on how many: `Stamp.hitCount` counts them, bit by bit and without
drawing.

The strikes of a draw are a list, and the pixel in question occurs in it some number of times. Both
answers, what is left and whether it collides, can be read off that number by induction along the
list: each strike turns the pixel over, and collides if it finds it lit. On the other side there is
a set of bits with the places where they land. The list goes through that set once, so the two
numbers are the same.

* `Frame.isLit?_toggleAll` — a list of strikes turns a pixel over if it strikes it an odd number of
  times.
* `Frame.strikeAll_collides_iff` — one of them collides where it meets a pixel that was lit, or one
  that was struck before.
* `Stamp.count_hits` — the strikes of a draw on a pixel are the bits that land there.
* `Screen.stamp_pixel_by_pixel` — the three together: what a draw leaves, and whether it collides.
-/

namespace Cosmac

/-! ## Bits and where they land

The bits of a sprite are numbered by column and row. Where each lands is said for one bit alone,
with no regard to the others. -/

/-- Whether a bit of a sprite is set. The highest bit of a byte is on the left, and below the last
row there is nothing. -/
def Sprite.IsSet (sprite : List UInt8) (col row : Nat) : Prop :=
  (sprite.getD row 0).toNat.testBit (7 - col) = true

instance (sprite : List UInt8) (col row : Nat) : Decidable (Sprite.IsSet sprite col row) :=
  inferInstanceAs (Decidable (_ = _))

namespace Stamp

/-- Whether a bit of a draw lands on the pixel `p`. Its place is counted from the origin, which
lies on the frame; past the edges it comes in again or is left out. -/
def LandsAt (d : Stamp) (f : Frame) (col row : Nat) (p : Nat × Nat) : Prop :=
  match d.edges with
  | .wrap =>
    p.1 = (d.x.toNat % f.width + col) % f.width ∧ p.2 = (d.y.toNat % f.height + row) % f.height
  | .clip =>
    p.1 = d.x.toNat % f.width + col ∧ p.2 = d.y.toNat % f.height + row ∧
      p.1 < f.width ∧ p.2 < f.height

instance (d : Stamp) (f : Frame) (col row : Nat) (p : Nat × Nat) :
    Decidable (d.LandsAt f col row p) := by
  unfold LandsAt
  split
  · infer_instance
  · infer_instance

/-- How many set bits of a draw's sprite land on the pixel `p`. -/
def hitCount (d : Stamp) (f : Frame) (p : Nat × Nat) : Nat :=
  ((Finset.range 8 ×ˢ Finset.range d.sprite.length).filter fun bit =>
    Sprite.IsSet d.sprite bit.1 bit.2 ∧ d.LandsAt f bit.1 bit.2 p).card

end Stamp

/-! ## Strikes on one pixel

By induction along the strikes, with the number of strikes on one pixel in view. -/

namespace Frame

/-- A pixel is turned over by an odd number of strikes, and left as it was by an even one. -/
theorem isLit?_toggleAll {f : Frame} {ps : List (Nat × Nat)} (hin : ∀ p ∈ ps, p.1 < f.width)
    (x y : Nat) :
    (f.toggleAll ps).isLit? x y =
      (f.isLit? x y).map fun lit => lit ^^ decide (Odd (ps.count (x, y))) := by
  induction ps generalizing f with
  | nil =>
    show f.isLit? x y = _
    simp
  | cons p ps ih =>
    have hrest : ∀ q ∈ ps, q.1 < (f.toggle p.1 p.2).width :=
      fun q hq => hin q (List.mem_cons_of_mem p hq)
    rw [toggleAll_cons, ih hrest, isLit?_toggle f (hin p List.mem_cons_self)]
    by_cases heq : p = (x, y)
    · -- one strike more: the pixel is turned over once more, and the parity is the other one
      have hparity : decide (Odd (ps.count (x, y) + 1)) = !decide (Odd (ps.count (x, y))) := by
        simp only [Nat.odd_add_one, decide_not]
      rw [if_pos ⟨congrArg Prod.fst heq, congrArg Prod.snd heq⟩, heq, List.count_cons_self, hparity,
        Option.map_map]
      congr 1
      funext lit
      show (!lit ^^ _) = (lit ^^ !_)
      rw [Bool.not_xor, Bool.xor_not]
    · have hne : ¬ (p.1 = x ∧ p.2 = y) := fun h => heq (Prod.ext h.1 h.2)
      rw [if_neg hne, List.count_cons_of_ne heq]

/-- Whether a pixel is struck while it is lit: it was lit from the start, or an earlier strike has
lit it. -/
def MeetsLit (f : Frame) (ps : List (Nat × Nat)) (q : Nat × Nat) : Prop :=
  (f.isLit? q.1 q.2 = some true ∧ 1 ≤ ps.count q) ∨ 2 ≤ ps.count q

theorem meetsLit_cons_iff {f : Frame} {p : Nat × Nat} (hp : p.1 < f.width ∧ p.2 < f.height)
    (ps : List (Nat × Nat)) (q : Nat × Nat) :
    f.MeetsLit (p :: ps) q ↔
      (p = q ∧ f.isLit? p.1 p.2 = some true) ∨ (f.toggle p.1 p.2).MeetsLit ps q := by
  unfold MeetsLit
  rw [isLit?_toggle f hp.1]
  by_cases heq : p = q
  · obtain rfl := heq
    rw [List.count_cons_self, if_pos ⟨rfl, rfl⟩]
    cases hpixel : f.isLit? p.1 p.2 with
    | none => exact absurd hp ((isLit?_eq_none_iff f p.1 p.2).1 hpixel)
    | some lit =>
      cases lit with
      | true => simp
      | false =>
        -- it is dark, so the first strike lights it
        simp only [Option.map_some, Bool.not_false, Option.some.injEq, Bool.false_eq_true,
          false_and, and_false, false_or, true_and]
        omega
  · have hne : ¬ (p.1 = q.1 ∧ p.2 = q.2) := fun h => heq (Prod.ext h.1 h.2)
    rw [List.count_cons_of_ne heq, if_neg hne]
    simp only [heq, false_and, false_or]

/-- **When strikes collide**: some pixel is struck while it is lit. -/
theorem strikeAll_collides_iff {f : Frame} {ps : List (Nat × Nat)}
    (hin : ∀ p ∈ ps, p.1 < f.width ∧ p.2 < f.height) :
    (f.strikeAll ps).2 = true ↔ ∃ q, f.MeetsLit ps q := by
  induction ps generalizing f with
  | nil => simp [strikeAll, MeetsLit]
  | cons p ps ih =>
    have hp := hin p List.mem_cons_self
    have hrest : ∀ q ∈ ps, q.1 < (f.toggle p.1 p.2).width ∧ q.2 < (f.toggle p.1 p.2).height :=
      fun q hq => hin q (List.mem_cons_of_mem p hq)
    have hfirst : (f.isLit? p.1 p.2).getD false = true ↔ f.isLit? p.1 p.2 = some true := by
      cases f.isLit? p.1 p.2 with
      | none => simp
      | some lit => simp
    -- the first strike collides, or the others do on the frame that it leaves
    rw [strikeAll_cons, Bool.or_eq_true, ih hrest, hfirst]
    simp only [meetsLit_cons_iff hp, exists_or, exists_eq_left']

end Frame

/-! ## Strikes and bits

The list of bits that a draw goes through has every set bit, and has it once. -/

/-- The list has the bits that are set, and no others. -/
theorem Sprite.mem_bits_iff_isSet (sprite : List UInt8) (bit : Nat × Nat) :
    bit ∈ Sprite.bits sprite ↔
      bit ∈ Finset.range 8 ×ˢ Finset.range sprite.length ∧ Sprite.IsSet sprite bit.1 bit.2 := by
  obtain ⟨col, row⟩ := bit
  rw [Frame.mem_bits_iff, Finset.mem_product, Finset.mem_range, Finset.mem_range]
  constructor
  · rintro ⟨byte, hbyte, hcol, hset⟩
    obtain ⟨hrow, -⟩ := List.getElem?_eq_some_iff.1 hbyte
    refine ⟨⟨hcol, hrow⟩, ?_⟩
    rw [IsSet, List.getD_eq_getElem?_getD, hbyte]
    exact hset
  · rintro ⟨⟨hcol, hrow⟩, hset⟩
    rw [IsSet, List.getD_eq_getElem?_getD, List.getElem?_eq_getElem hrow, Option.getD_some] at hset
    exact ⟨sprite[row], List.getElem?_eq_getElem hrow, hcol, hset⟩

theorem Sprite.nodup_bits (sprite : List UInt8) : (Sprite.bits sprite).Nodup := by
  unfold Sprite.bits
  rw [List.nodup_flatMap]
  constructor
  · rintro ⟨byte, row⟩ -
    refine (List.nodup_range.filter _).map ?_
    intro col col' h
    exact congrArg Prod.fst h
  · -- bits of different bytes lie in different rows
    have hrows : (sprite.zipIdx.map Prod.snd).Nodup := by
      rw [List.zipIdx_map_snd]
      exact List.nodup_range'
    refine (List.pairwise_map.1 hrows).imp ?_
    rintro ⟨byte, row⟩ ⟨byte', row'⟩ hne bit hbit hbit'
    obtain ⟨col, -, rfl⟩ := List.mem_map.1 hbit
    obtain ⟨col', -, heq⟩ := List.mem_map.1 hbit'
    exact hne (congrArg Prod.snd heq).symm

namespace Stamp

/-- A bit lands on a pixel exactly if that is where drawing puts it. -/
theorem landsAt_iff (d : Stamp) (f : Frame) (col row : Nat) (p : Nat × Nat) :
    d.LandsAt f col row p ↔
      f.land? d.edges (d.x.toNat % f.width + col) (d.y.toNat % f.height + row) = some p := by
  unfold LandsAt Frame.land?
  cases d.edges with
  | wrap =>
    constructor
    · rintro ⟨hx, hy⟩
      exact congrArg some (Prod.ext hx.symm hy.symm)
    · intro h
      obtain rfl := Option.some.inj h
      exact ⟨rfl, rfl⟩
  | clip =>
    constructor
    · -- the bit lies where its place is, so the edge is past neither of them
      rintro ⟨hx, hy, hin⟩
      rw [hx, hy] at hin
      show (if _ then _ else _) = _
      rw [if_pos hin]
      exact congrArg some (Prod.ext hx.symm hy.symm)
    · intro h
      obtain ⟨hin, heq⟩ := (Option.ite_none_right_eq_some).1 h
      obtain rfl := Option.some.inj heq
      exact ⟨rfl, rfl, hin⟩

/-- A pixel is struck once for each bit that lands on it. -/
theorem count_hits (d : Stamp) (f : Frame) (p : Nat × Nat) :
    (d.hits f).count p = d.hitCount f p := by
  have hnodup : ((Sprite.bits d.sprite).filter fun bit => d.LandsAt f bit.1 bit.2 p).Nodup :=
    (Sprite.nodup_bits d.sprite).filter _
  -- the strikes on the pixel are the bits in the list that land there
  have hcount : (d.hits f).count p =
      ((Sprite.bits d.sprite).filter fun bit => d.LandsAt f bit.1 bit.2 p).length := by
    rw [hits, Frame.hits, List.count_filterMap, List.countP_eq_length_filter]
    congr 1
    apply List.filter_congr
    rintro ⟨col, row⟩ -
    rw [Bool.eq_iff_iff, beq_iff_eq, decide_eq_true_eq, landsAt_iff]
  rw [hcount, ← List.toFinset_card_of_nodup hnodup, hitCount]
  congr 1
  ext bit
  rw [List.mem_toFinset, List.mem_filter, Sprite.mem_bits_iff_isSet, Finset.mem_filter,
    decide_eq_true_eq, and_assoc]

end Stamp

namespace Screen

/-! ## Draws

What a draw leaves, and whether it collides, from the number of bits on each pixel. -/

/-- **A draw, pixel by pixel.** On a screen of any size every draw has an answer, and it keeps the
size. A pixel is lit after it exactly if either it was lit before or an odd number of bits has
landed on it, and not both. It collides exactly if on some pixel of the screen that was lit before
a bit has landed, or two on any. -/
theorem stamp_pixel_by_pixel (s : Screen) (d : Stamp) :
    s.frame.draw? d.x d.y d.sprite d.edges = .ok ((s.stamp d).1.frame, (s.stamp d).2) ∧
      (s.stamp d).1.frame.width = s.frame.width ∧ (s.stamp d).1.frame.height = s.frame.height ∧
      (∀ x y, (s.stamp d).1.frame.isLit? x y =
        (s.frame.isLit? x y).map fun lit => lit ^^ decide (Odd (d.hitCount s.frame (x, y)))) ∧
      ((s.stamp d).2 = true ↔ ∃ x y, x < s.frame.width ∧ y < s.frame.height ∧
        (s.frame.isLit? x y = some true ∧ 1 ≤ d.hitCount s.frame (x, y) ∨
          2 ≤ d.hitCount s.frame (x, y))) := by
  have hin : ∀ p ∈ d.hits s.frame, p.1 < s.frame.width ∧ p.2 < s.frame.height :=
    fun p hp => Stamp.lt_of_mem_hits hp
  refine ⟨s.draw?_eq d.x d.y d.sprite d.edges, ?_, ?_, ?_, ?_⟩
  · rw [frame_stamp, Frame.width_toggleAll]
  · rw [frame_stamp, Frame.height_toggleAll]
  · intro x y
    rw [frame_stamp, Frame.isLit?_toggleAll fun p hp => (hin p hp).1, Stamp.count_hits]
  · show (s.frame.strikeAll (d.hits s.frame)).2 = true ↔ _
    rw [Frame.strikeAll_collides_iff hin]
    simp only [Frame.MeetsLit, Stamp.count_hits]
    constructor
    · rintro ⟨⟨x, y⟩, hmeets⟩
      -- what is struck lies on the screen
      have hpos : 0 < (d.hits s.frame).count (x, y) := by
        rw [Stamp.count_hits]
        omega
      obtain ⟨hx, hy⟩ := hin (x, y) (List.count_pos_iff.1 hpos)
      exact ⟨x, y, hx, hy, hmeets⟩
    · rintro ⟨x, y, -, -, hmeets⟩
      exact ⟨(x, y), hmeets⟩

/-- A full row of a sprite on a screen of three pixels goes around: it strikes two of them three
times and the last one twice. -/
example :
    let d : Stamp := ⟨0, 0, [0xff], .wrap⟩
    (List.range 3).map (fun x => d.hitCount (.blank 3 1) (x, 0)) = [3, 3, 2] ∧
      ((Frame.blank 3 1).imprint d.x d.y d.sprite d.edges).1.pixels = #[true, true, false] := by
  decide

end Screen

end Cosmac
