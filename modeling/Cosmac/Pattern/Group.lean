import Cosmac.Pattern.Tree
import Cosmac.Text.Character

/-!
# Cosmac — how groups begin

What follows the parenthesis that opens a group: a name, flags, or nothing in particular. Flags can
also stand alone in parentheses; then they hold for what follows, and there is no group.

`Opening.read` reads this, from what follows the parenthesis.
-/

namespace Cosmac.Pattern

/-- What a parenthesis begins. -/
inductive Opening
  /-- Flags by themselves; the parenthesis is closed already. -/
  | flags (settings : List FlagSetting)
  /-- A group, with the flags that are switched inside. -/
  | group (settings : List FlagSetting)
  | namedGroup (name : List Char) (span : Span)

namespace Opening

/-! ## Names -/

/-- Whether a character can stand in a name. It starts with a letter. -/
def isNameChar (first : Bool) (c : Char) : Bool :=
  if first then c = '_' || Alphabetic.isAlphabetic c
  else ['_', '.', '[', ']'].contains c || Alphanumeric.isAlphanumeric c

/-- The characters of a name up to the angle that ends it, and what follows that. -/
def nameChars (first : Bool) : Source → Except Defect (List Char × Span × Source)
  | .done p => .error ⟨.groupNameOpen, .none p⟩
  | .more p c rest =>
    if c = '>' then .ok ([], .none p, rest)
    else if isNameChar first c then
      (nameChars false rest).map fun (name, span, after) => (c :: name, ⟨p, span.stop⟩, after)
    else .error ⟨.groupNameCharacter, ⟨p, rest.place⟩⟩

/-- A name, which is not empty, and what follows it. -/
def readName (s : Source) : Except Defect (List Char × Span × Source) :=
  match nameChars true s with
  | .ok ([], span, _) => .error ⟨.groupNameEmpty, span⟩
  | result => result

/-! ## Flags

Each flag can be given once, and one hyphen can stand among them, with a flag after it. -/

/-- The flags by their letters. -/
def letters : List (Char × Flag) := [
  ('i', .ignoreCase), ('m', .multiLine), ('s', .dotMatchesNewLine), ('U', .swapGreed),
  ('u', .unicode), ('R', .carriageReturns), ('x', .loose)]

/-- Flags up to the character that ends them, which is left. Those after a hyphen are switched off.
`settings` are the flags before, `hyphen` is where they are negated, and `last` whether that was the
last thing to be read. -/
def readFlags (settings : List FlagSetting) (hyphen : Option Span) (last : Bool) :
    Source → Except Defect (List FlagSetting × Source)
  | .done p => .error ⟨.flagsOpen, .none p⟩
  | .more p c rest =>
    let span : Span := ⟨p, rest.place⟩
    if c = ':' || c = ')' then
      match hyphen, last with
      | some negation, true => .error ⟨.negationOfNothing, negation⟩
      | _, _ => .ok (settings, .more p c rest)
    else if c = '-' then
      match hyphen with
      | some earlier => .error ⟨.negationTwice earlier, span⟩
      | none => readFlags settings (some span) true rest
    else
      match letters.lookup c with
      | none => .error ⟨.flagUnknown, span⟩
      | some flag =>
        match settings.find? (·.flag = flag) with
        | some earlier => .error ⟨.flagTwice earlier.span, span⟩
        | none => readFlags (settings ++ [⟨flag, hyphen.isNone, span⟩]) hyphen false rest

/-! ## Openings

What looks ahead or behind is refused where it is recognised, before its content is read. -/

/-- Flags with what they are for, from what follows the question mark. Without any, the mark is
taken for one of repetition. -/
def readSettings (parenthesis : Span) (mark : Place) (s : Source) :
    Except Defect (Opening × Source) :=
  match s with
  | .done _ => .error ⟨.groupOpen, parenthesis⟩
  | s => do
    let (settings, s) ← readFlags [] none false s
    match s with
    | .more _ ')' rest =>
      if settings.isEmpty then throw ⟨.nothingToRepeat, .none mark⟩
      return (.flags settings, rest)
    | .more _ _ rest => return (.group settings, rest)
    | .done _ => return (.group settings, s)

/-- A name, from what follows the angle. -/
def readNamed (s : Source) : Except Defect (Opening × Source) := do
  let (name, span, s) ← readName s
  return (.namedGroup name span, s)

/-- What a parenthesis begins, from what follows it. -/
def read (loose : Bool) (parenthesis : Span) (s : Source) : Except Defect (Opening × Source) :=
  let refused (rest : Source) : Except Defect (Opening × Source) :=
    .error ⟨.lookAround, ⟨parenthesis.start, rest.place⟩⟩
  match s.skip loose with
  | .more mark '?' s =>
    match s with
    | .more _ '=' rest | .more _ '!' rest => refused rest
    | .more _ '<' (.more _ '=' rest) | .more _ '<' (.more _ '!' rest) => refused rest
    | .more _ '<' rest => readNamed rest
    | .more _ 'P' (.more _ '<' rest) => readNamed rest
    | s => readSettings parenthesis mark s
  | s => .ok (.group [], s)

end Opening

end Cosmac.Pattern
