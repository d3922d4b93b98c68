import Cosmac.Pattern.Tree
import Cosmac.Text.Numeral

/-!
# Cosmac — escapes

What a backslash makes of the characters after it: a character by its code point or by a letter, a
set of characters, an edge. `Escape.read` reads one, from what follows the backslash.

No brace that is opened in a pattern is ever closed here, so a code point or a property in braces is
always a flaw, and so is the name of a kind of edge.
-/

namespace Cosmac.Pattern.Escape

/-! ## Code points

Two, four or eight digits, in hexadecimal. In a loose pattern, blanks may stand between them. -/

/-- The value of `n` hexadecimal digits after some others. -/
def hexDigits (loose : Bool) : Nat → Nat → Source → Except Defect (Nat × Source)
  | 0, value, s => .ok (value, s)
  | _ + 1, _, .done p => .error ⟨.escapeOpen, .none p⟩
  | n + 1, value, .more p c rest =>
    match Numeral.digit? 16 c with
    | none => .error ⟨.hexDigit, ⟨p, rest.place⟩⟩
    | some digit => hexDigits loose n (16 * value + digit) (rest.skip loose)

/-- The character with a code point, if there is one. -/
def charOf? (n : Nat) : Option Char :=
  if n.isValidChar then some (Char.ofNat n) else none

/-- What is wrong with a code point in braces, from what follows the first of them. -/
def braceDefect (loose : Bool) (brace : Place) (s : Source) : Defect :=
  match ((s.skip loose).gather loose (fun c => (Numeral.digit? 16 c).isSome) false).2 with
  | .done p => ⟨.escapeOpen, ⟨brace, p⟩⟩
  | .more p _ rest => ⟨.hexDigit, ⟨p, rest.place⟩⟩

/-- A character by its code point, which has `n` digits. Two make a byte. -/
def readHex (loose : Bool) (start : Place) (n : Nat) (s : Source) :
    Except Defect (Atom × Source) :=
  match s.skip loose with
  | .done p => .error ⟨.escapeOpen, .none p⟩
  | .more p '\x7b' rest => .error (braceDefect loose p rest)
  | t => do
    let (value, after) ← hexDigits loose n 0 t
    match charOf? value with
    | some c => return (.literal ⟨⟨start, after.place⟩, c, n = 2⟩, after)
    | none => throw ⟨.hexValue, ⟨t.place, after.place⟩⟩

/-! ## Properties -/

/-- The characters that have a property, whose name is one letter. -/
def readProperty (loose : Bool) (start : Place) (s : Source) : Except Defect (Atom × Source) :=
  match s.skip loose with
  | .done p => .error ⟨.escapeOpen, .none p⟩
  | .more _ '\x7b' rest => .error ⟨.escapeOpen, .none rest.last⟩
  | .more p '\\' rest => .error ⟨.propertyName, ⟨p, rest.place⟩⟩
  | .more _ _ rest => .ok (.property ⟨start, (rest.skip loose).place⟩, rest.skip loose)

/-! ## Edges of words -/

/-- Whether a character can be in the name of a kind of edge. -/
def isEdgeNameChar (c : Char) : Bool :=
  c.isAlpha || c = '-'

/-- The edge of a word. A brace after it opens a name, or else a count, which is left to be read. -/
def readWordEdge (loose : Bool) (span : Span) (s : Source) : Except Defect (Atom × Source) :=
  match s with
  | .more brace '\x7b' rest =>
    match rest.skip loose with
    | .done p => .error ⟨.edgeNameOrCountOpen, ⟨span.start, p⟩⟩
    | t =>
      let (name, after) := t.gather loose isEdgeNameChar false
      if name.isEmpty then .ok (.wordEdge span, s)
      else .error ⟨.edgeNameOpen, ⟨brace, after.place⟩⟩
  | _ => .ok (.wordEdge span, s)

/-! ## All escapes

Digits would refer to groups, which is not supported. Signs stand for themselves. Letters have
meanings, or none and are refused. -/

/-- Whether a character stands for itself after a backslash: any ASCII character but letters, digits
and angles. -/
def standsForItself (c : Char) : Bool :=
  c.toNat < 0x80 && !c.isAlphanum && c ≠ '<' && c ≠ '>'

/-- Letters that stand for control characters. -/
def controls : List (Char × Char) := [
  ('a', '\x07'), ('f', '\x0c'), ('t', '\t'), ('n', '\n'), ('r', '\r'), ('v', '\x0b')]

/-- An escape that starts at a place, from what follows the backslash. -/
def read (loose : Bool) (start : Place) (s : Source) : Except Defect (Atom × Source) :=
  match s with
  | .done p => .error ⟨.escapeOpen, ⟨start, p⟩⟩
  | .more _ c rest =>
    let span : Span := ⟨start, rest.place⟩
    if c.isDigit then .error ⟨.backreference, span⟩
    else if standsForItself c then .ok (.literal ⟨span, c, false⟩, rest)
    else
      match c with
      | 'x' => readHex loose start 2 rest
      | 'u' => readHex loose start 4 rest
      | 'U' => readHex loose start 8 rest
      | 'p' | 'P' => readProperty loose start rest
      | 'd' | 's' | 'w' => .ok (.kind span false, rest)
      | 'D' | 'S' | 'W' => .ok (.kind span true, rest)
      | 'A' | 'z' => .ok (.edge span, rest)
      | 'b' => readWordEdge loose span rest
      | 'B' | '<' | '>' => .ok (.wordEdge span, rest)
      | _ =>
        match controls.lookup c with
        | some control => .ok (.literal ⟨span, control, false⟩, rest)
        | none => .error ⟨.escapeUnknown, span⟩

end Cosmac.Pattern.Escape
