import Cosmac.Log

/-!
# Cosmac — log filters

A filter keeps the events that are grave enough. It is a list of rules; each says how grave an
event must be, for all parts or for those whose name starts with a given text. Of the rules that
apply to an event the most specific one decides; an event without any is dropped.

A rule can ask for more: for a field, which the event must then have, or for a span that the event
lies in, or a field's value, which is known of spans alone. Nothing here lies in a span, so rules of
the last two kinds keep nothing.
-/

namespace Cosmac

/-! ## Rules -/

/-- A field that an event must have. -/
structure FieldTest where
  name : String
  value : Option String
  deriving Repr, DecidableEq

/-- A rule. Without a least level it keeps nothing. -/
structure FilterRule where
  /-- What the name of a part has to start with. -/
  target : String
  span : Option String
  field : Option FieldTest
  least : Option Level
  deriving Repr, DecidableEq

abbrev LogFilter := List FilterRule

namespace FilterRule

/-- A rule about all events of some parts. -/
def ofLevel (target : String) (least : Option Level) : FilterRule :=
  ⟨target, none, none, least⟩

/-- Whether the rule speaks about spans. What value a field has can only be known of those. -/
def isAboutSpans (r : FilterRule) : Bool :=
  r.span.isSome || r.field.any (·.value.isSome)

/-- Whether the rule speaks about an event. -/
def applies (r : FilterRule) (e : Event) : Bool :=
  !r.isAboutSpans
    && r.target.toList.isPrefixOf e.part.target.toList
    && r.field.all fun f => e.fieldNames.contains f.name

/-- Whether the rule keeps an event that it speaks about. -/
def keeps (r : FilterRule) (e : Event) : Bool :=
  r.least.any fun least => least.gravity ≤ e.level.gravity

/-- Whether a rule decides before another one: a longer text goes first, then the rule that has a
field, then the field that comes later in the alphabet. A rule precedes its equals. -/
def precedes (r s : FilterRule) : Bool :=
  if r.target.length ≠ s.target.length then s.target.length < r.target.length
  else
    match r.field, s.field with
    | _, none => true
    | none, some _ => false
    | some f, some g => g.name ≤ f.name

end FilterRule

/-! ## Filters

All rules that apply are compared with each other, so their order in the text matters only between
equals. -/

namespace LogFilter

/-- What is kept unless something else is asked for. -/
def standard : LogFilter := [.ofLevel "chip8" (some .info)]

/-- The rule that decides about an event. -/
def deciding (f : LogFilter) (e : Event) : Option FilterRule :=
  (f.filter (·.applies e)).foldl (fun best r =>
    match best with
    | some b => if r.precedes b then some r else some b
    | none => some r) none

/-- Whether an event is kept. -/
def keeps (f : LogFilter) (e : Event) : Bool :=
  (f.deciding e).any (·.keeps e)

end LogFilter

end Cosmac
