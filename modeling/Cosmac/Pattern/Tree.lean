import Cosmac.Pattern.Flaw

/-!
# Cosmac — patterns as trees

What a pattern consists of, as far as it matters for whether the pattern is accepted: what
something matches is left out unless it decides that, and everything that can be complained about
has its place.

* `Atom` is what can stand both in brackets and outside.
* `CharSet` is what stands in brackets, `Tree` a whole pattern.
-/

namespace Cosmac.Pattern

/-! ## Single parts -/

/-- A character that stands for itself, in any spelling. -/
structure Literal where
  span : Span
  char : Char
  /-- Whether it is given as a byte. -/
  byte : Bool
  deriving Repr, DecidableEq

/-- A character as it is. -/
def Literal.ofMark (m : Mark) : Literal := ⟨m.span, m.char, false⟩

inductive Atom
  | literal (l : Literal)
  /-- Any character. -/
  | any (span : Span)
  /-- A place at an end of a line or of the text. -/
  | edge (span : Span)
  /-- A place at an end of a word, or one that is not. -/
  | wordEdge (span : Span)
  /-- Digits, blanks or letters, or what is none. -/
  | kind (span : Span) (negated : Bool)
  /-- The characters that have a property. -/
  | property (span : Span)
  deriving Repr, DecidableEq

def Atom.span : Atom → Span
  | literal l => l.span
  | any span | edge span | wordEdge span | kind span _ | property span => span

/-! ## Flags

Only two of the flags matter for whether a pattern is accepted, and one for how it is read. The
others are kept because none may be given twice. -/

/-- What can be switched in the middle of a pattern. -/
inductive Flag
  | ignoreCase
  | multiLine
  | dotMatchesNewLine
  | swapGreed
  | unicode
  | carriageReturns
  /-- Blanks and comments may stand between the parts. -/
  | loose
  deriving Repr, DecidableEq

/-- A flag that is switched, and where it is named. -/
structure FlagSetting where
  flag : Flag
  on : Bool
  span : Span
  deriving Repr, DecidableEq

/-- A flag after some settings. -/
def Flag.after (flag : Flag) (settings : List FlagSetting) (before : Bool) : Bool :=
  ((settings.find? (·.flag = flag)).map (·.on)).getD before

/-! ## Sets of characters

A set is a union of members in most cases. The operations are kept with both sides, as each side can
need something that is not to be had. -/

/-- How two sets are combined. -/
inductive SetOp
  | intersection
  | difference
  | symmetricDifference
  deriving Repr, DecidableEq

inductive CharSet
  /-- No characters, at a place. -/
  | empty (here : Place)
  | atom (a : Atom)
  | range (low high : Literal)
  /-- A class of ASCII characters that has a name. -/
  | ascii (span : Span) (negated : Bool)
  | bracketed (span : Span) (negated : Bool) (content : CharSet)
  | union (span : Span) (members : List CharSet)
  | combined (span : Span) (op : SetOp) (left right : CharSet)
  deriving Repr

namespace CharSet

def span : CharSet → Span
  | empty here => .none here
  | atom a => a.span
  | range low high => ⟨low.span.start, high.span.stop⟩
  | ascii span _ | bracketed span _ _ | union span _ | combined span _ _ _ => span

/-- What has been read in a row from a place on: nothing, one member, or several. -/
def ofMembers (here : Place) : List CharSet → CharSet
  | [] => .empty here
  | [member] => member
  | first :: rest =>
    .union ⟨first.span.start, ((rest.getLast?).getD first).span.stop⟩ (first :: rest)

end CharSet

/-! ## Patterns -/

inductive Tree
  | empty
  /-- Flags that are switched for what follows. -/
  | flags (settings : List FlagSetting)
  | atom (a : Atom)
  | set (s : CharSet)
  | repeated (span : Span) (item : Tree)
  /-- A group, with the flags that are switched inside. -/
  | group (span : Span) (settings : List FlagSetting) (content : Tree)
  | sequence (span : Span) (items : List Tree)
  | alternatives (span : Span) (branches : List Tree)
  deriving Repr

namespace Tree

/-- The place that an item takes; what takes none has no place that anything asks for. -/
def span? : Tree → Option Span
  | empty | flags _ => none
  | atom a => some a.span
  | set s => some s.span
  | repeated span _ | group span _ _ | sequence span _ | alternatives span _ => some span

/-- The items of a branch. -/
def ofItems (span : Span) : List Tree → Tree
  | [] => .empty
  | [item] => item
  | items => .sequence span items

end Tree

end Cosmac.Pattern
