import Cosmac.Frame

/-!
# Cosmac — lists of draws

Sprites are XORed in, so draws commute and every one undoes itself. A draw comes down to the pixels
that it strikes, and a list of draws to all of their strikes: what is left on the screen depends on
how often a pixel was struck, and not on the order.

This needs one observation. Which pixels a draw strikes depends on the size of the screen and not on
what is shown, and strikes keep the size. So the strikes of a list of draws can be written down
before any is made, and a permutation of the draws is a permutation of the strikes.

Collisions are another matter, as they depend on what is shown when a strike is made. Of two equal
draws in succession one collides as soon as there is anything to strike: the first bit that lands
meets a lit pixel then, or has lit it for the second.

* `Frame.toggleAll` is the picture that a list of strikes leaves; `toggleAll_perm` and
  `toggleAll_append_self` are the two laws.
* `strikeAll_of_lit` and `strikeAll_twice` — when a strike meets a lit pixel.
* `Stamp.hits` are the strikes of a draw; `hits_toggleAll` — they are the same on every screen of a
  size.
* `stampAll_commutes_and_cancels` — the laws for lists of draws, and the collisions of a draw that
  is made twice.
-/

namespace Cosmac

namespace Frame

/-! ## Strikes in any order

The laws for two strikes, and for lists of them. A list is brought into the order that is needed and
then followed one strike at a time. -/

/-- A pixel that is struck twice is as it was. -/
theorem toggle_toggle (f : Frame) (x y : Nat) : (f.toggle x y).toggle x y = f := by
  refine Frame.ext rfl rfl ?_
  apply Array.ext_getElem?
  intro k
  simp only [toggle, Array.getElem?_modify]
  split
  · rw [Option.map_map]
    cases f.pixels[k]? with
    | none => rfl
    | some lit => simp
  · rfl

/-- Two strikes can be made in either order, on one pixel or on two. -/
theorem toggle_comm (f : Frame) (x y x' y' : Nat) :
    (f.toggle x y).toggle x' y' = (f.toggle x' y').toggle x y := by
  refine Frame.ext rfl rfl ?_
  apply Array.ext_getElem?
  intro k
  simp only [toggle, Array.getElem?_modify]
  -- a pixel that both strike is turned over twice either way
  by_cases h : y * f.width + x = k
  · by_cases h' : y' * f.width + x' = k
    · rw [if_pos h, if_pos h', if_pos h', if_pos h]
    · rw [if_neg h', if_pos h, if_pos h, if_neg h']
  · by_cases h' : y' * f.width + x' = k
    · rw [if_pos h', if_neg h, if_neg h, if_pos h']
    · rw [if_neg h', if_neg h, if_neg h, if_neg h']

/-- Toggles every pixel of a list. -/
def toggleAll (f : Frame) (ps : List (Nat × Nat)) : Frame :=
  ps.foldl (fun f p => f.toggle p.1 p.2) f

theorem toggleAll_cons (f : Frame) (p : Nat × Nat) (ps : List (Nat × Nat)) :
    f.toggleAll (p :: ps) = (f.toggle p.1 p.2).toggleAll ps := rfl

theorem toggleAll_append (f : Frame) (ps qs : List (Nat × Nat)) :
    f.toggleAll (ps ++ qs) = (f.toggleAll ps).toggleAll qs :=
  List.foldl_append

/-- The order of strikes does not matter. -/
theorem toggleAll_perm {ps qs : List (Nat × Nat)} (h : ps.Perm qs) (f : Frame) :
    f.toggleAll ps = f.toggleAll qs :=
  h.foldl_eq' (fun _ _ _ _ g => toggle_comm g _ _ _ _) f

/-- Strikes that are all made twice leave the frame as it was. -/
theorem toggleAll_append_self (f : Frame) (ps : List (Nat × Nat)) :
    f.toggleAll (ps ++ ps) = f := by
  induction ps generalizing f with
  | nil => rfl
  | cons p ps ih =>
    -- bring the two strikes on `p` together
    have hmove : (p :: ps ++ p :: ps).Perm (p :: p :: (ps ++ ps)) := List.perm_middle.cons p
    rw [toggleAll_perm hmove, toggleAll_cons, toggleAll_cons, toggle_toggle]
    exact ih f

@[simp] theorem width_toggleAll (f : Frame) (ps : List (Nat × Nat)) :
    (f.toggleAll ps).width = f.width := by
  induction ps generalizing f with
  | nil => rfl
  | cons p ps ih => exact ih (f.toggle p.1 p.2)

@[simp] theorem height_toggleAll (f : Frame) (ps : List (Nat × Nat)) :
    (f.toggleAll ps).height = f.height := by
  induction ps generalizing f with
  | nil => rfl
  | cons p ps ih => exact ih (f.toggle p.1 p.2)

/-! ## Collisions

A strike collides if the pixel is lit at that moment. Drawing collects this along the way, so the
recursion has to be opened for any collisions before. -/

/-- Strikes toggle, and their collisions add to those before them. -/
theorem foldl_strike (ps : List (Nat × Nat)) (s : Frame × Bool) :
    ps.foldl strike s = (s.1.toggleAll ps, s.2 || (s.1.strikeAll ps).2) := by
  induction ps generalizing s with
  | nil => simp [toggleAll, strikeAll]
  | cons p ps ih =>
    simp only [strikeAll, List.foldl_cons] at ih ⊢
    rw [ih, ih (strike (s.1, false) p)]
    simp only [strike, toggleAll_cons, Bool.false_or, Bool.or_assoc]

theorem strikeAll_fst (f : Frame) (ps : List (Nat × Nat)) : (f.strikeAll ps).1 = f.toggleAll ps := by
  rw [strikeAll, foldl_strike]

/-- The first strike collides if the pixel is lit, the others on what it leaves. -/
theorem strikeAll_cons (f : Frame) (p : Nat × Nat) (ps : List (Nat × Nat)) :
    (f.strikeAll (p :: ps)).2 =
      ((f.isLit? p.1 p.2).getD false || ((f.toggle p.1 p.2).strikeAll ps).2) := by
  rw [strikeAll, List.foldl_cons, foldl_strike, strike, Bool.false_or]

/-- The second part of some strikes is made on what the first part leaves. -/
theorem strikeAll_append (f : Frame) (ps qs : List (Nat × Nat)) :
    (f.strikeAll (ps ++ qs)).2 = ((f.strikeAll ps).2 || ((f.toggleAll ps).strikeAll qs).2) := by
  rw [strikeAll, List.foldl_append, foldl_strike qs]
  show ((f.strikeAll ps).2 || ((f.strikeAll ps).1.strikeAll qs).2) = _
  rw [strikeAll_fst]

/-- A pixel that is lit stays so until it is struck, and then it collides. -/
theorem strikeAll_of_lit {f : Frame} {p : Nat × Nat} (hlit : f.isLit? p.1 p.2 = some true)
    {ps : List (Nat × Nat)} (hmem : p ∈ ps) (hin : ∀ q ∈ ps, q.1 < f.width) :
    (f.strikeAll ps).2 = true := by
  induction ps generalizing f with
  | nil => contradiction
  | cons q ps ih =>
    rw [strikeAll_cons]
    by_cases heq : q = p
    · rw [heq, hlit]
      rfl
    · -- another pixel is struck first, so this one is still lit when its turn comes
      have hrest : p ∈ ps := (List.mem_cons.1 hmem).resolve_left (Ne.symm heq)
      have hne : ¬ (q.1 = p.1 ∧ q.2 = p.2) := fun h => heq (Prod.ext h.1 h.2)
      have hstill : (f.toggle q.1 q.2).isLit? p.1 p.2 = some true := by
        rw [isLit?_toggle f (hin q List.mem_cons_self), if_neg hne, hlit]
      rw [ih hstill hrest fun r hr => hin r (List.mem_cons_of_mem q hr), Bool.or_true]

/-- A pixel that is struck twice is lit one of the two times. -/
theorem strikeAll_twice {f : Frame} {p : Nat × Nat} (hp : p.1 < f.width ∧ p.2 < f.height)
    {ps : List (Nat × Nat)} (hmem : p ∈ ps) (hin : ∀ q ∈ ps, q.1 < f.width) :
    (f.strikeAll (p :: ps)).2 = true := by
  rw [strikeAll_cons]
  cases hpixel : f.isLit? p.1 p.2 with
  | none => exact absurd hp ((isLit?_eq_none_iff f p.1 p.2).1 hpixel)
  | some lit =>
    cases lit with
    | true => rfl
    | false =>
      -- it was dark, so the first strike lights it
      have hlit : (f.toggle p.1 p.2).isLit? p.1 p.2 = some true := by
        rw [isLit?_toggle f hp.1, if_pos ⟨rfl, rfl⟩, hpixel]
        rfl
      rw [strikeAll_of_lit hlit hmem hin, Bool.or_true]

/-! ## What a sprite strikes

A set bit strikes the place where it lands. With wrapping that is always a pixel of the frame;
without it, a bit past the edge is lost. -/

/-- The bits of a sprite are those that are set, the highest of a byte in column zero. -/
theorem mem_bits_iff (sprite : List UInt8) (col row : Nat) :
    (col, row) ∈ Sprite.bits sprite ↔
      ∃ byte, sprite[row]? = some byte ∧ col < 8 ∧ byte.toNat.testBit (7 - col) = true := by
  unfold Sprite.bits
  constructor
  · intro hmem
    obtain ⟨⟨byte, row'⟩, hbyte, hcol⟩ := List.mem_flatMap.1 hmem
    obtain ⟨col', hbit, heq⟩ := List.mem_map.1 hcol
    obtain ⟨rfl, rfl⟩ := Prod.mk.inj heq
    obtain ⟨hlt, hset⟩ := List.mem_filter.1 hbit
    exact ⟨byte, List.mem_zipIdx_iff_getElem?.1 hbyte, List.mem_range.1 hlt, hset⟩
  · rintro ⟨byte, hbyte, hlt, hset⟩
    refine List.mem_flatMap.2 ⟨(byte, row), List.mem_zipIdx_iff_getElem?.2 hbyte, ?_⟩
    exact List.mem_map.2 ⟨col, List.mem_filter.2 ⟨List.mem_range.2 hlt, hset⟩, rfl⟩

/-- A bit is lost only past an edge, and only if the sprite is clipped. -/
theorem land?_isSome_iff (f : Frame) (edges : SpriteEdges) (x y : Nat) :
    (∃ p, f.land? edges x y = some p) ↔ edges = .wrap ∨ (x < f.width ∧ y < f.height) := by
  cases edges with
  | wrap => simp [land?]
  | clip => simp [land?]

/-- On a frame that has pixels, strikes land on it. -/
theorem lt_of_land? {f : Frame} (hw : 0 < f.width) (hh : 0 < f.height) {edges : SpriteEdges}
    {x y : Nat} {p : Nat × Nat} (h : f.land? edges x y = some p) :
    p.1 < f.width ∧ p.2 < f.height := by
  cases edges with
  | wrap =>
    obtain rfl := Option.some.inj h
    exact ⟨Nat.mod_lt _ hw, Nat.mod_lt _ hh⟩
  | clip =>
    simp only [land?] at h
    split at h
    · next hin =>
      obtain rfl := Option.some.inj h
      exact hin
    · contradiction

end Frame

/-! ## Draws

A draw on a screen has an answer, so it can be taken as a function, and a list of draws as one after
the other. -/

/-- A draw: a sprite, the place of its origin, and what becomes of it at the edges. -/
structure Stamp where
  x : UInt8
  y : UInt8
  sprite : List UInt8
  edges : SpriteEdges
  deriving Repr, DecidableEq

/-- Some bit that is set lands on the frame, either because it wraps or because it lies inside. -/
def Stamp.LandsOn (d : Stamp) (f : Frame) : Prop :=
  ∃ row byte col, d.sprite[row]? = some byte ∧ col < 8 ∧ byte.toNat.testBit (7 - col) = true ∧
    (d.edges = .wrap ∨
      d.x.toNat % f.width + col < f.width ∧ d.y.toNat % f.height + row < f.height)

/-- The pixels of a frame that a draw strikes. -/
def Stamp.hits (d : Stamp) (f : Frame) : List (Nat × Nat) :=
  f.hits d.x d.y d.sprite d.edges

namespace Stamp

/-- A draw lands on the frame if it strikes anything. -/
theorem landsOn_iff (d : Stamp) (f : Frame) : d.LandsOn f ↔ ∃ p, p ∈ d.hits f := by
  constructor
  · rintro ⟨row, byte, col, hbyte, hcol, hset, hlands⟩
    obtain ⟨p, hp⟩ := (Frame.land?_isSome_iff f d.edges _ _).2 hlands
    have hbit := (Frame.mem_bits_iff d.sprite col row).2 ⟨byte, hbyte, hcol, hset⟩
    exact ⟨p, List.mem_filterMap.2 ⟨(col, row), hbit, hp⟩⟩
  · rintro ⟨p, hp⟩
    obtain ⟨⟨col, row⟩, hbit, hland⟩ := List.mem_filterMap.1 hp
    obtain ⟨byte, hbyte, hcol, hset⟩ := (Frame.mem_bits_iff d.sprite col row).1 hbit
    exact ⟨row, byte, col, hbyte, hcol, hset,
      (Frame.land?_isSome_iff f d.edges _ _).1 ⟨p, hland⟩⟩

/-- What a draw strikes is on the screen. -/
theorem lt_of_mem_hits {d : Stamp} {s : Screen} {p : Nat × Nat} (h : p ∈ d.hits s.frame) :
    p.1 < s.frame.width ∧ p.2 < s.frame.height := by
  obtain ⟨_, -, hland⟩ := List.mem_filterMap.1 h
  exact Frame.lt_of_land? s.width_pos s.height_pos hland

/-- What a draw strikes depends on the size alone. -/
@[simp] theorem hits_toggleAll (d : Stamp) (f : Frame) (ps : List (Nat × Nat)) :
    d.hits (f.toggleAll ps) = d.hits f := by
  simp only [hits, Frame.hits, Frame.land?, Frame.width_toggleAll, Frame.height_toggleAll]

end Stamp

namespace Screen

/-- Makes a draw; whether it collided. -/
def stamp (s : Screen) (d : Stamp) : Screen × Bool :=
  s.draw d.x d.y d.sprite d.edges

/-- Makes draws one after the other. -/
def stampAll (s : Screen) (ds : List Stamp) : Screen :=
  ds.foldl (fun s d => (s.stamp d).1) s

theorem frame_stamp (s : Screen) (d : Stamp) :
    (s.stamp d).1.frame = s.frame.toggleAll (d.hits s.frame) :=
  Frame.strikeAll_fst _ _

/-- Draws leave what all of their strikes leave, each found on the first screen. -/
theorem frame_stampAll (s : Screen) (ds : List Stamp) :
    (s.stampAll ds).frame = s.frame.toggleAll (ds.flatMap fun d => d.hits s.frame) := by
  induction ds generalizing s with
  | nil => rfl
  | cons d ds ih =>
    show ((s.stamp d).1.stampAll ds).frame = _
    rw [ih, frame_stamp, List.flatMap_cons, Frame.toggleAll_append]
    -- the later draws strike the same pixels as they would have before the first
    simp only [Stamp.hits_toggleAll]

/-- Draws can be made in any order. -/
theorem stampAll_perm {ds ds' : List Stamp} (h : ds.Perm ds') (s : Screen) :
    s.stampAll ds = s.stampAll ds' := by
  apply Screen.ext
  rw [frame_stampAll, frame_stampAll]
  exact Frame.toggleAll_perm (h.flatMap_right _) s.frame

/-- A draw that is made again is undone. -/
theorem stamp_stamp (s : Screen) (d : Stamp) : ((s.stamp d).1.stamp d).1 = s := by
  apply Screen.ext
  rw [frame_stamp, frame_stamp, Stamp.hits_toggleAll, ← Frame.toggleAll_append]
  exact Frame.toggleAll_append_self s.frame _

/-- The collisions of two equal draws are those of one list that strikes everything twice. -/
theorem collision_stamp_stamp (s : Screen) (d : Stamp) :
    ((s.stamp d).2 || ((s.stamp d).1.stamp d).2) =
      (s.frame.strikeAll (d.hits s.frame ++ d.hits s.frame)).2 := by
  rw [Frame.strikeAll_append]
  show _ = ((s.frame.strikeAll (d.hits s.frame)).2 || _)
  congr 1
  show ((s.stamp d).1.frame.strikeAll (d.hits (s.stamp d).1.frame)).2 = _
  rw [frame_stamp, Stamp.hits_toggleAll]

/-- Of two equal draws one collides exactly if they land on the screen. -/
theorem stamp_stamp_collides_iff (s : Screen) (d : Stamp) :
    (s.stamp d).2 = true ∨ ((s.stamp d).1.stamp d).2 = true ↔ d.LandsOn s.frame := by
  rw [← Bool.or_eq_true, collision_stamp_stamp, Stamp.landsOn_iff]
  have hin : ∀ q ∈ d.hits s.frame, q.1 < s.frame.width ∧ q.2 < s.frame.height :=
    fun q hq => Stamp.lt_of_mem_hits hq
  cases hhits : d.hits s.frame with
  | nil =>
    -- nothing is struck, so nothing collides
    simp [Frame.strikeAll]
  | cons p ps =>
    rw [hhits] at hin
    have htwice : (s.frame.strikeAll (p :: (ps ++ p :: ps))).2 = true := by
      refine Frame.strikeAll_twice (hin p List.mem_cons_self) (by simp) ?_
      intro q hq
      refine (hin q ?_).1
      rcases List.mem_append.1 hq with hfirst | hsecond
      · exact List.mem_cons_of_mem p hfirst
      · exact hsecond
    simp only [List.cons_append, htwice, true_iff]
    exact ⟨p, List.mem_cons_self⟩

/-- **Draws commute and undo themselves.** On a screen of any size every draw has an answer; what a
list of draws leaves does not depend on their order, and two equal ones may be left out. A draw that
is made twice in succession restores the screen, and one of the two collides exactly if a bit of the
sprite lands on the screen. -/
theorem stampAll_commutes_and_cancels (s : Screen) :
    (∀ d : Stamp, s.frame.draw? d.x d.y d.sprite d.edges =
        .ok ((s.stamp d).1.frame, (s.stamp d).2)) ∧
      (∀ ds ds' : List Stamp, ds.Perm ds' → s.stampAll ds = s.stampAll ds') ∧
      (∀ (d : Stamp) (before between after : List Stamp),
        s.stampAll (before ++ d :: between ++ d :: after) =
          s.stampAll (before ++ between ++ after)) ∧
      ∀ d : Stamp, ((s.stamp d).1.stamp d).1 = s ∧
        ((s.stamp d).2 = true ∨ ((s.stamp d).1.stamp d).2 = true ↔ d.LandsOn s.frame) := by
  refine ⟨fun d => s.draw?_eq d.x d.y d.sprite d.edges, fun ds ds' h => stampAll_perm h s, ?_,
    fun d => ⟨stamp_stamp s d, stamp_stamp_collides_iff s d⟩⟩
  intro d before between after
  -- both of the equal draws may be made first, where they undo each other
  have hmove : (before ++ d :: between ++ d :: after).Perm (d :: d :: (before ++ between ++ after)) :=
    List.perm_middle.trans ((List.perm_middle.append_right after).cons d)
  rw [stampAll_perm hmove]
  show ((s.stamp d).1.stamp d).1.stampAll (before ++ between ++ after) = _
  rw [stamp_stamp]

end Screen

end Cosmac
