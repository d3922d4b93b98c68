import Cosmac.Text.Character

/-!
# Cosmac — patterns as they are written

The text of a pattern, with the place of each of its characters. Reading a pattern means taking
characters off the front, so what is left is a text of the same kind.

A pattern can be written loosely: then blanks and comments may stand between its parts. A comment
goes from `#` to the end of the line. `Source.gather` takes a run of characters off the front, and
`Source.skip` what may stand between two parts.
-/

namespace Cosmac.Pattern

/-! ## Places

Places are what errors are reported with: bytes from the start, and line and column for a reader. -/

/-- A place in a text. Lines and columns count from one. -/
structure Place where
  /-- How many bytes lie before it. -/
  offset : Nat
  line : Nat
  column : Nat
  deriving Repr, DecidableEq

namespace Place

/-- The start of a text. -/
def first : Place := ⟨0, 1, 1⟩

/-- The place after a character. -/
def after (p : Place) (c : Char) : Place :=
  if c = '\n' then ⟨p.offset + c.utf8Size, p.line + 1, 1⟩
  else ⟨p.offset + c.utf8Size, p.line, p.column + 1⟩

def diagnostic (p : Place) : String :=
  "Position(o: " ++ toString p.offset ++ ", l: " ++ toString p.line ++ ", c: "
    ++ toString p.column ++ ")"

end Place

/-- What lies between two places. -/
structure Span where
  start : Place
  stop : Place
  deriving Repr, DecidableEq

namespace Span

/-- Nothing, at a place. -/
def none (p : Place) : Span := ⟨p, p⟩

def diagnostic (s : Span) : String :=
  "Span(" ++ s.start.diagnostic ++ ", " ++ s.stop.diagnostic ++ ")"

end Span

/-! ## Texts

A text is like a list of characters in which every place is known, the end included, so that nothing
has to be counted again when something is wrong. -/

/-- A text with the place of each of its characters, and the place of its end. -/
inductive Source
  | done (here : Place)
  | more (here : Place) (c : Char) (rest : Source)
  deriving Repr, DecidableEq

/-- A character with the place it takes. -/
structure Mark where
  char : Char
  span : Span
  deriving Repr, DecidableEq

namespace Source

/-- A text that starts at a place. -/
def ofList (p : Place) : List Char → Source
  | [] => .done p
  | c :: rest => .more p c (ofList (p.after c) rest)

/-- Where a text starts. -/
def place : Source → Place
  | .done p => p
  | .more p _ _ => p

/-- Where a text ends. -/
def last : Source → Place
  | .done p => p
  | .more _ _ rest => rest.last

/-- How many characters a text has. -/
def length : Source → Nat
  | .done _ => 0
  | .more _ _ rest => rest.length + 1

def head? : Source → Option Char
  | .done _ => none
  | .more _ c _ => some c

/-- The characters of a kind at the front, and what follows them. Where the text is loose, there
may be blanks and comments around them. -/
def gather (loose : Bool) (kind : Char → Bool) (inComment : Bool) : Source → List Mark × Source
  | .done p => ([], .done p)
  | .more p c rest =>
    if inComment then rest.gather loose kind (c ≠ '\n')
    else if kind c then
      let gathered := rest.gather loose kind false
      (⟨c, ⟨p, rest.place⟩⟩ :: gathered.1, gathered.2)
    else if loose && Blank.isBlank c then rest.gather loose kind false
    else if loose && c = '#' then rest.gather loose kind true
    else ([], .more p c rest)

/-- What follows the blanks and comments at the front, which only a loose text can have. -/
def skip (loose : Bool) (s : Source) : Source :=
  (s.gather loose (fun _ => false) false).2

/-- What follows the blanks at the front. -/
def skipBlanks (s : Source) : Source :=
  (s.gather false Blank.isBlank false).2

/-- The next character. In a loose text, blanks are passed over to find one, and `#` once; where
there is none after that, the very first character counts. -/
def ahead? (loose : Bool) (s : Source) : Option Char :=
  if loose then
    match s.skipBlanks with
    | .more _ '#' rest => rest.skipBlanks.head?.or s.head?
    | t => t.head?.or s.head?
  else s.head?

end Source

end Cosmac.Pattern
