import Cosmac.Frame

/-!
# Cosmac — pictures

What a terminal is asked to draw: a bordered canvas whose points are the pixels of a frame, the
unlit ones in black and the lit ones in white. Columns count to the right and rows downwards, so the
point of a pixel has its row, negated, as height.

* `Picture.ofFrame` — both layers of a frame, row by row; `Picture.ofFrame?` — the same, if a
  terminal has room for the border.

* `Picture.xBounds` and `Picture.yBounds` — how far the canvas reaches.

* `Picture.text` — a picture as a transcript shows it, with the first and the last point of a layer
  that has many.
-/

namespace Cosmac

/-- A pixel by its column and row. -/
structure Point where
  column : Nat
  row : Nat
  deriving Repr, DecidableEq

/-- How far to the right a point lies. -/
def Point.x (q : Point) : Int :=
  q.column

/-- How high a point lies. The first row lies highest, at zero. -/
def Point.y (q : Point) : Int :=
  -(q.row : Int)

/-- A canvas with two layers of points. -/
structure Picture where
  columns : Nat
  rows : Nat
  black : List Point
  white : List Point
  deriving Repr, DecidableEq

namespace Picture

/-- The bounds of the canvas from left to right: the first column and the last. -/
def xBounds (p : Picture) : Int × Int :=
  (0, (p.columns : Int) - 1)

/-- The bounds of the canvas from the bottom to the top: the last row and the first. -/
def yBounds (p : Picture) : Int × Int :=
  (-((p.rows : Int) - 1), 0)

/-- The pixels of a frame that are lit, or those that are not, row by row. -/
def points (f : Frame) (lit : Bool) : List Point :=
  f.pixels.toList.zipIdx.filterMap fun (pixel, n) =>
    if pixel = lit then some ⟨n % f.width, n / f.width⟩ else none

/-- The picture of a frame. -/
def ofFrame (f : Frame) : Picture where
  columns := f.width
  rows := f.height
  black := points f false
  white := points f true

/-- How far a border reaches around `n` points. -/
def outer (n : Nat) : Nat :=
  -- the number of points is cut to sixteen bits before the border is added
  n % 65536 + 2

/-- The picture of a frame, if a terminal has room for its border. Terminals measure with
sixteen-bit numbers. -/
def ofFrame? (f : Frame) : Except Crash Picture :=
  if outer f.width < 65536 ∧ outer f.height < 65536 then .ok (ofFrame f)
  else .error .pictureTooLarge

/-! ## Text -/

/-- A coordinate that is not below zero. -/
def coordinate (x : Int) : String :=
  toString x.toNat ++ ".0"

/-- A coordinate that was negated, which shows even where it is zero. -/
def negated (y : Int) : String :=
  "-" ++ toString y.natAbs ++ ".0"

def pointText (q : Point) : String :=
  "(" ++ coordinate q.x ++ ", " ++ negated q.y ++ ")"

/-- How many points are shown one by one. -/
def shownPoints : Nat := 64

/-- All the points of a layer, or the first and the last where there are many. -/
def pointsText (ps : List Point) : String :=
  match ps.head?, ps.getLast? with
  | some first, some last =>
    if ps.length ≤ shownPoints then "[" ++ ", ".intercalate (ps.map pointText) ++ "]"
    else "[" ++ pointText first ++ ".." ++ pointText last ++ "]"
  | _, _ => "[]"

def layerText (colour : String) (ps : List Point) : String :=
  colour ++ ":" ++ toString ps.length ++ pointsText ps

/-- A picture with its border, its bounds and its layers. -/
def text (p : Picture) : String :=
  "rect=[0, 0, " ++ toString (outer p.columns) ++ ", " ++ toString (outer p.rows)
    ++ "] title=CHIP-8 borders=Every bg=Black x=[" ++ coordinate p.xBounds.1 ++ ", "
    ++ coordinate p.xBounds.2 ++ "] y=[" ++ negated p.yBounds.1 ++ ", " ++ coordinate p.yBounds.2
    ++ "] marker=Block "
    ++ layerText "Black" p.black ++ " " ++ layerText "White" p.white

end Picture

end Cosmac
