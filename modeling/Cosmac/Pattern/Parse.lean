import Cosmac.Pattern.Bracket
import Cosmac.Pattern.Group

/-!
# Cosmac — reading patterns

A pattern has branches with bars between them; a branch has items one after the other; an item can
be a group, which is a pattern in parentheses. `Pattern.parse` reads all of it.

Groups lie in one another. Those that are open are kept in a list, the innermost first; a `Level` is
what has been read so far of a group, or of the pattern itself.

* `Level` — branches and items, latest first, with the places where they start.

* `Progress.openGroup` and `Progress.closeGroup` — from one level to another and back.

* `Progress.repeat` — a sign of repetition takes the last item of its level.

* `Progress.step` — what a character begins; `Progress.readOn` — one after the other.
-/

namespace Cosmac.Pattern

/-! ## Levels

A branch of one item is that item, and a level of one branch is that branch: parts are only made
where there are several. -/

/-- What has been read of a group, or of the whole pattern. -/
structure Level where
  /-- Where the first branch starts. -/
  first : Place
  /-- The branches that are ended, latest first. -/
  branches : List Tree
  /-- Where the branch starts that is being read. -/
  start : Place
  /-- Its items, latest first. -/
  items : List Tree

namespace Level

/-- Nothing has been read yet. -/
def new (here : Place) : Level := ⟨here, [], here, []⟩

/-- With one more item. -/
def push (l : Level) (item : Tree) : Level :=
  { l with items := item :: l.items }

/-- The branch that is being read, if it ends here. -/
def branch (l : Level) (here : Place) : Tree :=
  .ofItems ⟨l.start, here⟩ l.items.reverse

/-- A bar ends a branch at a place, and another one starts after it. -/
def bar (l : Level) (here after : Place) : Level :=
  { l with branches := l.branch here :: l.branches, start := after, items := [] }

/-- All that has been read, if it ends here. -/
def close (l : Level) (here : Place) : Tree :=
  if l.branches.isEmpty then l.branch here
  else .alternatives ⟨l.first, here⟩ (l.branch here :: l.branches).reverse

/-- The last item with the place it takes, if it is one that can be repeated, and what is before
it. -/
def repeatable? (l : Level) : Option (Tree × Span × Level) :=
  match l.items with
  | [] => none
  | item :: before => item.span?.map fun span => (item, span, { l with items := before })

end Level

/-! ## Groups

A group remembers whether the text outside was loose, as flags that are switched inside end with it.
Names are remembered over the whole pattern. -/

/-- A group that is open. -/
structure OpenGroup where
  parenthesis : Span
  settings : List FlagSetting
  /-- What was read before it. -/
  outside : Level
  /-- Whether what is outside is loose. -/
  loose : Bool

/-- A pattern that is being read. -/
structure Progress where
  level : Level
  /-- The groups that are open, innermost first. -/
  groups : List OpenGroup
  /-- The names that groups have been given. -/
  names : List (List Char × Span)
  loose : Bool

namespace Progress

/-- With one more item. -/
def push (g : Progress) (item : Tree) : Progress :=
  { g with level := g.level.push item }

/-- In a group that is opened here. -/
def enter (g : Progress) (parenthesis : Span) (settings : List FlagSetting) (here : Place) :
    Progress :=
  { g with
    level := .new here
    groups := ⟨parenthesis, settings, g.level, g.loose⟩ :: g.groups
    loose := Flag.loose.after settings g.loose }

/-- What a parenthesis begins. -/
def openGroup (g : Progress) (parenthesis : Span) (s : Source) :
    Except Defect (Progress × Source) := do
  let (opening, s) ← Opening.read g.loose parenthesis s
  match opening with
  | .flags settings =>
    return ({ g.push (.flags settings) with loose := Flag.loose.after settings g.loose }, s)
  | .group settings => return (g.enter parenthesis settings s.place, s)
  | .namedGroup name span =>
    match g.names.lookup name with
    | some earlier => throw ⟨.groupNameTwice earlier, span⟩
    | none => return ({ g with names := (name, span) :: g.names }.enter parenthesis [] s.place, s)

/-- Closes the innermost group with a parenthesis. -/
def closeGroup (g : Progress) (parenthesis : Span) : Except Defect Progress :=
  match g.groups with
  | [] => .error ⟨.groupNotOpened, parenthesis⟩
  | group :: groups =>
    let content := g.level.close parenthesis.start
    .ok { g with
      level := group.outside.push
        (.group ⟨group.parenthesis.start, parenthesis.stop⟩ group.settings content)
      groups
      loose := group.loose }

/-! ## Repetitions

What can be repeated is the last item of the level, if it takes a place in the pattern. Flags by
themselves take none. -/

/-- Repeats the last item, from what follows the sign of repetition. A question mark after the sign
belongs to it. -/
def «repeat» (g : Progress) (sign : Place) (s : Source) : Except Defect (Progress × Source) :=
  match g.level.repeatable? with
  | none => .error ⟨.nothingToRepeat, .none sign⟩
  | some (item, span, level) =>
    let s := match s with
      | .more _ '?' rest => rest
      | _ => s
    .ok ({ g with level := level.push (.repeated ⟨span.start, s.place⟩ item) }, s)

/-- What is wrong with a count, which is in braces, from what follows the first of them. The second
is always missing. -/
def countDefect (g : Progress) (brace : Place) (s : Source) : Defect :=
  if g.level.repeatable?.isNone then ⟨.nothingToRepeat, .none brace⟩
  else
    let number := (s.skip g.loose).skipBlanks
    let (digits, after) := number.gather g.loose Char.isDigit false
    match after.skipBlanks with
    | .done p => ⟨.countOpen, ⟨brace, p⟩⟩
    | .more p _ _ =>
      match Numeral.nat 10 0xffffffff (digits.map (·.char)) with
      | .ok _ => ⟨.countOpen, ⟨brace, p⟩⟩
      | .error .empty => ⟨.countWithoutDigits, ⟨number.place, after.place⟩⟩
      | .error _ => ⟨.countTooLarge, ⟨number.place, after.place⟩⟩

/-! ## Whole patterns

A pattern ends well where no group is open. Otherwise the innermost one is reported. -/

/-- Reads what starts with a character. -/
def step (g : Progress) (p : Place) (c : Char) (rest : Source) :
    Except Defect (Progress × Source) :=
  let span : Span := ⟨p, rest.place⟩
  match c with
  | '(' => g.openGroup span rest
  | ')' => (g.closeGroup span).map fun g => (g, rest)
  | '|' => .ok ({ g with level := g.level.bar p rest.place }, rest)
  | '[' => (Bracket.read g.loose p rest).map fun (set, s) => (g.push (.set set), s)
  | '?' | '*' | '+' => g.repeat p rest
  | '\x7b' => .error (g.countDefect p rest)
  | '\\' => (Escape.read g.loose p rest).map fun (a, s) => (g.push (.atom a), s)
  | '.' => .ok (g.push (.atom (.any span)), rest)
  | '^' | '$' => .ok (g.push (.atom (.edge span)), rest)
  | _ => .ok (g.push (.atom (.literal ⟨span, c, false⟩)), rest)

/-- The pattern, if it ends here. -/
def finish (g : Progress) (here : Place) : Except Defect Tree :=
  match g.groups with
  | [] => .ok (g.level.close here)
  | group :: _ => .error ⟨.groupOpen, group.parenthesis⟩

/-- Reads on to the end. Every round takes a character at least. -/
def readOn : Nat → Progress → Source → Except Defect Tree
  | 0, g, s => g.finish s.place
  | fuel + 1, g, s =>
    match s.skip g.loose with
    | .done p => g.finish p
    | .more p c rest => do
      let (g, s) ← g.step p c rest
      readOn fuel g s

end Progress

/-- A pattern. -/
def parse (text : String) : Except Defect Tree :=
  let s := Source.ofList .first text.toList
  Progress.readOn s.length ⟨.new .first, [], [], false⟩ s

end Cosmac.Pattern
