import Cosmac.Pattern.Escape

/-!
# Cosmac — sets in brackets

A set is written in brackets: characters, ranges, escapes, named classes and further sets in
brackets, one after the other; two operations on sets are read from left to right. `Bracket.read`
reads one, from what follows the bracket that opens it.

Brackets lie in one another. Those that are open are kept in a list, the innermost first, each with
what has been read in it so far. So the reading is one loop that looks at one character at a time,
and does not have to call itself for a bracket inside.

* `Bracket.enter` opens a bracket, with the members that can only come first.

* `Bracket.readMember` reads a character, an escape or a range.

* `Bracket.readOn` is the loop: it opens, closes, combines and adds members.
-/

namespace Cosmac.Pattern

/-- A bracket that is open. -/
structure Bracket where
  /-- From the bracket to where the reading of its members starts. -/
  head : Span
  negated : Bool
  /-- An operation whose right side is being read, with its left side. -/
  pending : Option (SetOp × CharSet)
  /-- Where the members start that are being read. -/
  start : Place
  /-- Those read so far, latest first. -/
  members : List CharSet

namespace Bracket

/-- With one more member. -/
def push (b : Bracket) (member : CharSet) : Bracket :=
  { b with members := member :: b.members }

/-- All that has been read in a bracket. -/
def content (b : Bracket) : CharSet :=
  let operand := CharSet.ofMembers b.start b.members.reverse
  match b.pending with
  | none => operand
  | some (op, left) => .combined ⟨left.span.start, operand.span.stop⟩ op left operand

/-- With an operation after what has been read. -/
def operate (b : Bracket) (op : SetOp) (here : Place) : Bracket :=
  { b with pending := some (op, b.content), start := here, members := [] }

/-- The set, when its bracket is closed. -/
def close (b : Bracket) (stop : Place) : CharSet :=
  .bracketed ⟨b.head.start, stop⟩ b.negated b.content

/-- The text ends while a bracket is open. -/
def openDefect (b : Bracket) : Defect := ⟨.bracketOpen, b.head⟩

/-! ## Opening

Where a bracket comes first in a set, or hyphens do, they are members and not marks. The text that
is left after them must not be at its end. -/

/-- A bracket with the members that need no escape where they come first: hyphens, or else a
bracket. -/
def openMembers (loose : Bool) (start : Place) (negated : Bool) (s : Source) :
    Except Defect (Bracket × Source) :=
  let (hyphens, t) := s.gather loose (· = '-') false
  let opened (members : List Mark) (t : Source) : Bracket × Source :=
    (⟨⟨start, t.place⟩, negated, none, s.place,
      members.reverse.map fun m => .atom (.literal (.ofMark m))⟩, t)
  match t with
  | .done p => .error ⟨.bracketOpen, if hyphens.isEmpty then ⟨start, p⟩ else .none start⟩
  | .more p c rest =>
    if hyphens.isEmpty && c = ']' then
      match rest.skip loose with
      | .done q => .error ⟨.bracketOpen, ⟨start, q⟩⟩
      | u => .ok (opened [⟨c, ⟨p, rest.place⟩⟩] u)
    else .ok (opened hyphens t)

/-- Opens a bracket at a place, from what follows it. -/
def enter (loose : Bool) (start : Place) (s : Source) : Except Defect (Bracket × Source) :=
  match s.skip loose with
  | .more _ '^' rest => openMembers loose start true (rest.skip loose)
  | t => openMembers loose start false t

/-! ## Members

What looks like a named class but is none opens a bracket of its own, so the attempt to read one
leaves no error behind. -/

/-- The names of classes of ASCII characters. -/
def asciiClasses : List String := [
  "alnum", "alpha", "ascii", "blank", "cntrl", "digit", "graph", "lower", "print", "punct", "space",
  "upper", "word", "xdigit"]

/-- A class of ASCII characters by its name, as in `[:alpha:]`, from what follows the bracket. What
looks different opens a bracket. -/
def asciiClass? (start : Place) (s : Source) : Option (CharSet × Source) :=
  match s with
  | .more _ ':' s =>
    let (negated, s) := match s with
      | .more _ '^' rest => (true, rest)
      | _ => (false, s)
    let (name, s) := s.gather false (· ≠ ':') false
    match s with
    | .more _ ':' (.more _ ']' rest) =>
      if asciiClasses.contains (String.ofList (name.map (·.char))) then
        some (.ascii ⟨start, rest.place⟩ negated, rest)
      else none
    | _ => none
  | _ => none

/-- A character or an escape. -/
def readAtom (b : Bracket) (loose : Bool) : Source → Except Defect (Atom × Source)
  | .done _ => .error b.openDefect
  | .more p '\\' rest => Escape.read loose p rest
  | .more p c rest => .ok (.literal ⟨⟨p, rest.place⟩, c, false⟩, rest)

/-- What can be a member: not an edge, which has no characters. -/
def member : Atom → Except Defect CharSet
  | .any span | .edge span | .wordEdge span => .error ⟨.notInBrackets, span⟩
  | a => .ok (.atom a)

/-- What can be an end of a range: a character. -/
def rangeEnd : Atom → Except Defect Literal
  | .literal l => .ok l
  | a => .error ⟨.rangeEnd, a.span⟩

/-- A range, or a member by itself. A hyphen makes no range before the closing bracket, and two of
them are an operation. -/
def readMember (b : Bracket) (loose : Bool) (s : Source) : Except Defect (CharSet × Source) := do
  let (first, s) ← b.readAtom loose s
  match s.skip loose with
  | .done _ => throw b.openDefect
  | .more p c rest =>
    -- a hyphen is a member where nothing that could end a range follows it
    if c ≠ '-' || rest.ahead? loose = some ']' || rest.ahead? loose = some '-' then
      return (← member first, .more p c rest)
    else
      let (second, s) ← b.readAtom loose (rest.skip loose)
      let low ← rangeEnd first
      let high ← rangeEnd second
      if high.char < low.char then
        throw ⟨.rangeBackwards, ⟨low.span.start, high.span.stop⟩⟩
      return (.range low high, s)

/-! ## Whole sets

The loop is given more rounds than there are characters, as each round takes one at least. -/

/-- The operation that a character written twice stands for. -/
def operation? : Char → Option SetOp
  | '&' => some .intersection
  | '-' => some .difference
  | '~' => some .symmetricDifference
  | _ => none

/-- The operation that a text starts with, and what follows it. -/
def operator? (c : Char) (rest : Source) : Option (SetOp × Source) :=
  match rest with
  | .more _ d after => if c = d then (operation? c).map fun op => (op, after) else none
  | .done _ => none

/-- Reads on until the outermost bracket is closed. Every round takes a character at least. -/
def readOn (loose : Bool) :
    Nat → Bracket → List Bracket → Source → Except Defect (CharSet × Source)
  | 0, b, _, _ => .error b.openDefect
  | fuel + 1, b, outer, s =>
    match s.skip loose with
    | .done _ => .error b.openDefect
    | .more p '[' rest =>
      match asciiClass? p rest with
      | some (ascii, s) => readOn loose fuel (b.push ascii) outer s
      | none => do
        let (inner, s) ← Bracket.enter loose p rest
        readOn loose fuel inner (b :: outer) s
    | .more _ ']' rest =>
      match outer with
      | [] => .ok (b.close rest.place, rest)
      | o :: outer => readOn loose fuel (o.push (b.close rest.place)) outer rest
    | .more p c rest =>
      match operator? c rest with
      | some (op, s) => readOn loose fuel (b.operate op s.place) outer s
      | none => do
        let (member, s) ← b.readMember loose (.more p c rest)
        readOn loose fuel (b.push member) outer s

/-- A set whose bracket is opened at a place, from what follows the bracket. -/
def read (loose : Bool) (start : Place) (s : Source) : Except Defect (CharSet × Source) := do
  let (b, t) ← Bracket.enter loose start s
  readOn loose (t.length + 1) b [] t

end Bracket

end Cosmac.Pattern
