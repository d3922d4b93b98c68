import Cosmac.Host.Output
import Cosmac.Proofs.Session.Buzzer

/-!
# Cosmac — the picture of a frame

A terminal is drawn on with one picture for a frame: points in white where a pixel is lit, points in
black where it is not. The pixels of a frame lie in one row, so each point is got back from a number
by division. The facts below say that this undoes the numbering of `Frame.isLit?`, for every size
and not only for frames that are as high as they are wide.

A layer is a filter of that row, so the order of its points is the order of the numbers, and no
point comes twice. What is left is which points are in a layer, and that is one equation between a
remainder and a quotient on one side and a product and a sum on the other.

* `Picture.Shows` — what a picture has to be like to show a frame; `shows_ofFrame` — the picture of
  a frame is like that.
* `Picture.mem_points_iff` — a layer has the points whose pixels are lit, or those whose are not.
* `Picture.pairwise_points` — row by row, each from the left.
* `Display.shown_or_refused` — a terminal of the size of the frame is sent such a picture, once; any
  other is sent nothing.
-/

namespace Cosmac

/-- Row-major order: from the top, and each row from the left. -/
def Point.Before (p q : Point) : Prop :=
  p.row < q.row ∨ p.row = q.row ∧ p.column < q.column

/-- A frame that a terminal has room for, with the border around it. -/
structure Frame.FitsTerminal (f : Frame) : Prop where
  width : 1 ≤ f.width ∧ f.width ≤ 65533
  height : 1 ≤ f.height ∧ f.height ≤ 65533

namespace Picture

/-- Whether a point lies within the bounds of the canvas. The rows count downwards and heights
upwards, so the bounds are a negative height and zero. -/
def Reaches (picture : Picture) (q : Point) : Prop :=
  picture.xBounds.1 ≤ q.x ∧ q.x ≤ picture.xBounds.2 ∧
    picture.yBounds.1 ≤ q.y ∧ q.y ≤ picture.yBounds.2

/-- Each pixel of the frame is a point of one of the two layers, and there are no other points. -/
structure Shows (picture : Picture) (f : Frame) : Prop where
  columns : picture.columns = f.width
  rows : picture.rows = f.height
  disjoint : picture.white.Disjoint picture.black
  once : ∀ x y, x < f.width → y < f.height → (picture.white ++ picture.black).count ⟨x, y⟩ = 1
  white : ∀ x y, ⟨x, y⟩ ∈ picture.white ↔ f.isLit? x y = some true
  ordered : picture.white.Pairwise Point.Before ∧ picture.black.Pairwise Point.Before
  inside : ∀ q ∈ picture.white ++ picture.black, picture.Reaches q

/-! ## Numbers and points

The pixel with the number `n` is the point in column `n % width` and row `n / width`. -/

/-- A greater number is a later point: in a later row, or in the same one further to the right. -/
theorem before_of_lt (width : Nat) {n m : Nat} (h : n < m) :
    Point.Before ⟨n % width, n / width⟩ ⟨m % width, m / width⟩ := by
  have hn : width * (n / width) + n % width = n := Nat.div_add_mod n width
  have hm : width * (m / width) + m % width = m := Nat.div_add_mod m width
  rcases Nat.lt_or_eq_of_le (Nat.div_le_div_right (c := width) h.le) with hrow | hrow
  · exact .inl hrow
  · -- in one row it is the column that has grown
    rw [hrow] at hn
    exact .inr ⟨hrow, show n % width < m % width by omega⟩

/-- The points of a layer are those of the pixels that are as the layer wants them. -/
theorem mem_points_iff (f : Frame) (lit : Bool) (q : Point) :
    q ∈ points f lit ↔ f.isLit? q.column q.row = some lit := by
  -- a point is in the layer with the number that it comes from
  have hpoint : q ∈ points f lit ↔
      ∃ n, f.pixels[n]? = some lit ∧ (⟨n % f.width, n / f.width⟩ : Point) = q := by
    simp only [points, List.mem_filterMap, Prod.exists, List.mk_mem_zipIdx_iff_getElem?,
      Array.getElem?_toList, Option.ite_none_right_eq_some, Option.some.injEq]
    constructor
    · rintro ⟨pixel, n, hn, rfl, hq⟩
      exact ⟨n, hn, hq⟩
    · rintro ⟨n, hn, hq⟩
      exact ⟨lit, n, hn, rfl, hq⟩
  rw [hpoint]
  obtain ⟨column, row⟩ := q
  constructor
  · rintro ⟨n, hn, hq⟩
    obtain ⟨hcolumn, hrow⟩ : n % f.width = column ∧ n / f.width = row := by simpa using hq
    have hlt : n < f.width * f.height := by
      obtain ⟨hsize, -⟩ := Array.getElem?_eq_some_iff.mp hn
      rwa [f.size_pixels] at hsize
    -- there is a pixel, so no dimension is zero
    have hwidth : 0 < f.width := Nat.pos_of_mul_pos_right (Nat.zero_lt_of_lt hlt)
    have hin : column < f.width ∧ row < f.height := by
      rw [← hcolumn, ← hrow]
      exact ⟨Nat.mod_lt n hwidth, Nat.div_lt_of_lt_mul hlt⟩
    have hindex : row * f.width + column = n := by
      rw [← hcolumn, ← hrow]
      exact Nat.div_add_mod' n f.width
    rw [Frame.isLit?, if_pos hin, hindex]
    exact hn
  · intro hlit
    obtain ⟨hin, hpixel⟩ := Option.ite_none_right_eq_some.mp hlit
    -- the number of the pixel leads back to its column and row
    refine ⟨row * f.width + column, hpixel, ?_⟩
    have hcolumn : (row * f.width + column) % f.width = column := by
      rw [Nat.mul_add_mod', Nat.mod_eq_of_lt hin.1]
    have hrow : (row * f.width + column) / f.width = row := by
      rw [Nat.add_comm, Nat.add_mul_div_right _ _ (Nat.zero_lt_of_lt hin.1),
        Nat.div_eq_of_lt hin.1, Nat.zero_add]
    rw [hcolumn, hrow]

/-! ## Layers

Both layers are taken from the same numbers, which is why their points are in order and each pixel
is in one of them. -/

/-- The points of a layer come in row-major order. -/
theorem pairwise_points (f : Frame) (lit : Bool) : (points f lit).Pairwise Point.Before := by
  -- the numbers rise along the row of pixels, and a filter keeps them in order
  have hnumbers : f.pixels.toList.zipIdx.Pairwise fun a b => a.2 < b.2 := by
    apply List.pairwise_map.mp
    rw [List.zipIdx_map_snd]
    exact List.pairwise_lt_range'
  apply List.pairwise_filterMap.mpr
  refine hnumbers.imp ?_
  intro a b hlt p hp q hq
  have hp' := (Option.ite_none_right_eq_some.mp hp).2
  have hq' := (Option.ite_none_right_eq_some.mp hq).2
  rw [← Option.some.inj hp', ← Option.some.inj hq']
  exact before_of_lt f.width hlt

/-- No point comes twice in a layer. -/
theorem nodup_points (f : Frame) (lit : Bool) : (points f lit).Nodup := by
  refine (pairwise_points f lit).imp ?_
  rintro p q hbefore rfl
  unfold Point.Before at hbefore
  omega

/-- A point is in a layer once, or not at all. -/
theorem count_points (f : Frame) (lit : Bool) (q : Point) :
    (points f lit).count q = if f.isLit? q.column q.row = some lit then 1 else 0 := by
  rw [(nodup_points f lit).count]
  simp only [mem_points_iff]

/-- The picture of a frame shows that frame. -/
theorem shows_ofFrame (f : Frame) : (ofFrame f).Shows f where
  columns := rfl
  rows := rfl
  disjoint := by
    intro q hwhite hblack
    have hlit := (mem_points_iff f true q).mp hwhite
    rw [(mem_points_iff f false q).mp hblack] at hlit
    contradiction
  once := by
    intro x y hx hy
    show (points f true ++ points f false).count ⟨x, y⟩ = 1
    rw [List.count_append, count_points, count_points]
    show (if f.isLit? x y = some true then 1 else 0) + (if f.isLit? x y = some false then 1 else 0) = 1
    -- a pixel of the frame is lit or dark, and is in that layer alone
    cases hpixel : f.isLit? x y with
    | none => exact absurd ⟨hx, hy⟩ ((f.isLit?_eq_none_iff x y).mp hpixel)
    | some lit => cases lit <;> rfl
  white x y := mem_points_iff f true ⟨x, y⟩
  ordered := ⟨pairwise_points f true, pairwise_points f false⟩
  inside := by
    intro q hq
    have hin : q.column < f.width ∧ q.row < f.height := by
      rcases List.mem_append.mp hq with hq | hq
      · exact (Option.ite_none_right_eq_some.mp ((mem_points_iff f true q).mp hq)).1
      · exact (Option.ite_none_right_eq_some.mp ((mem_points_iff f false q).mp hq)).1
    show 0 ≤ (q.column : Int) ∧ (q.column : Int) ≤ f.width - 1 ∧
      -((f.height : Int) - 1) ≤ -(q.row : Int) ∧ -(q.row : Int) ≤ 0
    omega

/-- The last pixel of the first row, and the first one of the last row. -/
example :
    let picture := ofFrame (((Frame.blank 3 2).toggle 2 0).toggle 0 1)
    picture.white = [⟨2, 0⟩, ⟨0, 1⟩] ∧ picture.black = [⟨0, 0⟩, ⟨1, 0⟩, ⟨1, 1⟩, ⟨2, 1⟩] := by
  decide

/-- A frame that fits has a picture. -/
theorem ofFrame?_of_fitsTerminal {f : Frame} (h : f.FitsTerminal) :
    ofFrame? f = .ok (ofFrame f) := by
  have hwidth := h.width
  have hheight := h.height
  unfold ofFrame? outer
  rw [if_pos (show f.width % 65536 + 2 < 65536 ∧ f.height % 65536 + 2 < 65536 by omega)]

end Picture

namespace Display

/-- **The picture on a terminal is the frame.** A terminal that was set up for the size of the frame
is sent exactly one picture, and that picture shows the frame; the frame is presented unless that
call is refused. A terminal that was set up for another size refuses the frame and is sent nothing.
-/
theorem shown_or_refused (host : Host) (f : Frame) (width height : Nat) :
    (f.width = width ∧ f.height = height → f.FitsTerminal →
      ∃ picture done, picture.Shows f ∧
        (terminal width height).present host f =
          (if done then .ok () else .error (.failed (.refused "draw")), .terminal width height,
            { host with calls := host.calls.push ⟨.draw picture, done⟩ })) ∧
      (¬ (f.width = width ∧ f.height = height) →
        (terminal width height).present host f =
          (.error (.failed .frameSize), .terminal width height, host)) := by
  constructor
  · intro hsize hfits
    -- the host has the last word, and carries the call out or refuses it
    have hpicture := Picture.ofFrame?_of_fitsTerminal hfits
    rcases host.call_cases (.draw (.ofFrame f)) with hcall | hcall
    · refine ⟨.ofFrame f, true, Picture.shows_ofFrame f, ?_⟩
      simp only [present, if_pos hsize, hpicture, hcall]
      rfl
    · refine ⟨.ofFrame f, false, Picture.shows_ofFrame f, ?_⟩
      simp only [present, if_pos hsize, hpicture, hcall]
      rfl
  · intro hsize
    simp only [present, if_neg hsize]

/-- A frame of three columns and two rows is shown on a terminal of that size. One of two columns
and three rows refuses it, though it has as many points. -/
theorem shown_upright_only :
    let f := ((Frame.blank 3 2).toggle 2 0).toggle 0 1
    let host := Host.start [] fun _ _ => false
    (f.width = 3 ∧ f.height = 2) ∧ f.FitsTerminal ∧
      (∃ picture done, picture.Shows f ∧
        (terminal 3 2).present host f =
          (if done then .ok () else .error (.failed (.refused "draw")), .terminal 3 2,
            { host with calls := host.calls.push ⟨.draw picture, done⟩ })) ∧
      ¬ (f.width = 2 ∧ f.height = 3) ∧
      (terminal 2 3).present host f = (.error (.failed .frameSize), .terminal 2 3, host) := by
  intro f host
  have hsize : f.width = 3 ∧ f.height = 2 := ⟨rfl, rfl⟩
  have hfits : f.FitsTerminal := ⟨by decide, by decide⟩
  have hother : ¬ (f.width = 2 ∧ f.height = 3) := by decide
  exact ⟨hsize, hfits, (shown_or_refused host f 3 2).1 hsize hfits, hother,
    (shown_or_refused host f 2 3).2 hother⟩

end Display

end Cosmac
