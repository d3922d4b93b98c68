import Cosmac.Pattern.Parse

/-!
# Cosmac — which patterns are accepted

A pattern is accepted when it is well-formed, when its parts do not lie in one another too deeply,
and when it asks for nothing that is not to be had. `Pattern.check` says whether it is; of several
reasons to refuse it, the first of this list counts, and of those of one sort the first in the
pattern.

What can be had depends on two flags. A pattern speaks about characters, or else about bytes, but
then it must not match bytes that are no text. And it can ignore case, for which it has no table,
unless it speaks about bytes.

* `Tree.tooDeep?` — the first part that lies too deep.

* `CharSet.extent` — how much a set has, which decides whether it needs the other case of its
  characters.

* `Tree.survey` — goes through a pattern with the flags as they are at each place.

An edge of a word among characters needs a table as well. That is found out last, when everything
else was in order, so the survey only remembers it.
-/

namespace Cosmac.Pattern

/-! ## Depth

Everything that has parts counts, single characters do not. The outermost part that lies too deep is
the one that is reported. -/

/-- How deeply the parts of a pattern may lie in one another. -/
def depthLimit : Nat := 250

/-- A part that lies at a depth, with a way to look for others inside. -/
def deeper (depth : Nat) (span : Span) (inside : Option Span) : Option Span :=
  if depthLimit ≤ depth then some span else inside

mutual

/-- The first part of a set that lies too deep, if the set itself lies at a depth. -/
def CharSet.tooDeep? (depth : Nat) : CharSet → Option Span
  | .empty _ | .atom _ | .range _ _ | .ascii _ _ => none
  | .bracketed span _ content => deeper depth span (content.tooDeep? (depth + 1))
  | .union span members => deeper depth span (CharSet.anyTooDeep? (depth + 1) members)
  | .combined span _ left right =>
    deeper depth span ((left.tooDeep? (depth + 1)).or (right.tooDeep? (depth + 1)))

/-- The first part of some sets that lies too deep. -/
def CharSet.anyTooDeep? (depth : Nat) : List CharSet → Option Span
  | [] => none
  | s :: rest => (s.tooDeep? depth).or (CharSet.anyTooDeep? depth rest)

end

mutual

/-- The first part of a pattern that lies too deep, if the pattern itself lies at a depth. -/
def Tree.tooDeep? (depth : Nat) : Tree → Option Span
  | .empty | .flags _ | .atom _ => none
  | .set s => s.tooDeep? depth
  | .repeated span item => deeper depth span (item.tooDeep? (depth + 1))
  | .group span _ content => deeper depth span (content.tooDeep? (depth + 1))
  | .sequence span items => deeper depth span (Tree.anyTooDeep? (depth + 1) items)
  | .alternatives span branches => deeper depth span (Tree.anyTooDeep? (depth + 1) branches)

/-- The first part of some patterns that lies too deep. -/
def Tree.anyTooDeep? (depth : Nat) : List Tree → Option Span
  | [] => none
  | t :: rest => (t.tooDeep? depth).or (Tree.anyTooDeep? depth rest)

end

/-! ## What can be had

Whether something is lacking is asked of the single parts under a mode, which is what the flags
before them have made of it. -/

/-- The flags that matter for what can be had. -/
structure Mode where
  ignoreCase : Bool
  unicode : Bool
  deriving Repr, DecidableEq

namespace Mode

/-- How a pattern starts. -/
def initial : Mode := ⟨false, true⟩

/-- With some flags switched. -/
def set (m : Mode) (settings : List FlagSetting) : Mode where
  ignoreCase := Flag.ignoreCase.after settings m.ignoreCase
  unicode := Flag.unicode.after settings m.unicode

/-- Whether a table of the cases of all characters is needed. -/
def needsCases (m : Mode) : Bool :=
  m.ignoreCase && m.unicode

/-- A byte above the ASCII ones, and a character above them, as such. -/
def isWide (c : Char) : Bool :=
  0x80 ≤ c.toNat

/-- What an atom lacks, in brackets or outside. -/
def lack? (m : Mode) : Atom → Option Lack
  | .literal l =>
    if !m.unicode && l.byte && isWide l.char then some ⟨.bytes, l.span⟩ else none
  | .any span => if m.unicode then none else some ⟨.bytes, span⟩
  | .edge _ | .wordEdge _ => none
  | .kind span negated =>
    if m.unicode then some ⟨.kind, span⟩ else if negated then some ⟨.bytes, span⟩ else none
  | .property span => some ⟨if m.unicode then .property else .wideCharacter, span⟩

/-- What a character lacks in brackets. -/
def memberLack? (m : Mode) (l : Literal) : Option Lack :=
  (m.lack? (.literal l)).or
    (if !m.unicode && isWide l.char then some ⟨.wideCharacter, l.span⟩ else none)

end Mode

/-- Fails for something that is lacking. -/
def demand : Option Lack → Except Lack Unit
  | some lack => .error lack
  | none => .ok ()

/-! ## Sets

Ignoring case would add the other case of every character. An empty set and a full one stay what
they are, so that it is only asked for where a set is neither. Which it is has to be known for every
set inside, and combining sets can bring back either. -/

/-- How much a set has. A set that has nothing, or everything, is the same in either case. -/
inductive Extent
  | nothing
  | everything
  | something
  deriving Repr, DecidableEq

namespace Extent

def negate : Extent → Extent
  | nothing => everything
  | everything => nothing
  | something => something

def union : Extent → Extent → Extent
  | nothing, e => e
  | e, nothing => e
  | everything, everything => everything
  | _, _ => something

def combine : SetOp → Extent → Extent → Extent
  | .intersection, everything, everything => everything
  | .intersection, nothing, _ => nothing
  | .intersection, _, nothing => nothing
  | .difference, nothing, _ => nothing
  | .difference, e, nothing => e
  | .difference, everything, everything => nothing
  | .symmetricDifference, nothing, e => e
  | .symmetricDifference, e, nothing => e
  | .symmetricDifference, everything, everything => nothing
  | _, _, _ => something

end Extent

/-- A set of some extent needs the other case of its characters, if case is ignored. -/
def Mode.demandCases (m : Mode) (span : Span) (e : Extent) : Except Lack Unit :=
  demand (if m.needsCases && e = .something then some ⟨.otherCase, span⟩ else none)

/-- A set that is closed, and negated or not. To negate a set of bytes gives bytes that are no
text. -/
def Mode.closeSet (m : Mode) (span : Span) (negated : Bool) (e : Extent) : Except Lack Extent := do
  m.demandCases span e
  demand (if !m.unicode && negated then some ⟨.bytes, span⟩ else none)
  return if negated then e.negate else e

mutual

/-- The extent of a set, if it lacks nothing. -/
def CharSet.extent (m : Mode) : CharSet → Except Lack Extent
  | .empty _ => .ok .nothing
  | .atom (.literal l) => do
    demand (m.memberLack? l)
    return .something
  | .atom a => do
    demand (m.lack? a)
    return .something
  | .range low high => do
    demand (m.memberLack? low)
    demand (m.memberLack? high)
    return .something
  | .ascii span negated => m.closeSet span negated .something
  | .bracketed span negated content => do
    m.closeSet span negated (← content.extent m)
  | .union _ members => CharSet.extentOfAll m members
  | .combined _ op left right => do
    let l ← left.extent m
    let r ← right.extent m
    m.demandCases right.span r
    m.demandCases left.span l
    return Extent.combine op l r

/-- The extent of some sets together. -/
def CharSet.extentOfAll (m : Mode) : List CharSet → Except Lack Extent
  | [] => .ok .nothing
  | s :: rest => do
    let e ← s.extent m
    return e.union (← CharSet.extentOfAll m rest)

end

/-! ## Patterns

Flags that stand by themselves hold for what follows them, up to the end of their group. A survey
therefore returns the mode that it ends with, and a group restores the one before. -/

/-- What has been found out about the start of a pattern. -/
structure Survey where
  mode : Mode
  /-- Whether the edge of a word is asked for. Among bytes, the words are ASCII ones. -/
  wordEdges : Bool
  deriving Repr, DecidableEq

mutual

/-- Goes on with a pattern, if it lacks nothing. Flags hold until the group ends in which they are
switched. -/
def Tree.survey (v : Survey) : Tree → Except Lack Survey
  | .empty => .ok v
  | .flags settings => .ok { v with mode := v.mode.set settings }
  | .atom a => do
    demand (v.mode.lack? a)
    match a with
    | .literal l =>
      demand (if v.mode.needsCases then some ⟨.otherCase, l.span⟩ else none)
      return v
    | .wordEdge _ => return { v with wordEdges := v.wordEdges || v.mode.unicode }
    | _ => return v
  | .set s => do
    let _ ← s.extent v.mode
    return v
  | .repeated _ item => item.survey v
  | .group _ settings content => do
    let inside ← content.survey { v with mode := v.mode.set settings }
    return { inside with mode := v.mode }
  | .sequence _ items => Tree.surveyAll v items
  | .alternatives _ branches => Tree.surveyAll v branches

/-- Goes on with some patterns, one after the other. -/
def Tree.surveyAll (v : Survey) : List Tree → Except Lack Survey
  | [] => .ok v
  | t :: rest => do Tree.surveyAll (← t.survey v) rest

end

/-- Whether a pattern is accepted. -/
def check (text : String) : Except PatternError Unit :=
  match parse text with
  | .error d => .error (.illFormed d)
  | .ok t =>
    match t.tooDeep? 0 with
    | some span => .error (.illFormed ⟨.nesting depthLimit, span⟩)
    | none =>
      match t.survey ⟨.initial, false⟩ with
      | .error lack => .error (.unavailable lack)
      | .ok v => if v.wordEdges then .error .wordEdge else .ok ()

end Cosmac.Pattern
