import Cosmac.Pattern.Source
import Cosmac.Text.Character

/-!
# Cosmac — what can be wrong with a pattern

A pattern can be ill-formed, which is a `Flaw` of its text, or ask for something that is not to be
had here, which is a `Want`: patterns know no tables of Unicode, and match nothing but text.

Both have a place in the pattern. An edge of a word needs those tables too, but is missed only when
everything else is in order, and then has no place.

* `Defect` and `Lack` — a flaw or a want, with its place.

* `PatternError` — why a pattern is refused; `PatternError.diagnostic` — how this is reported, in
  front of the whole pattern.
-/

namespace Cosmac.Pattern

/-! ## Flaws -/

/-- What can be wrong with the text of a pattern. Something is *open* if the text ends before it
does. -/
inductive Flaw
  /-- There is nothing before a sign of repetition. -/
  | nothingToRepeat
  | countOpen
  | countWithoutDigits
  | countTooLarge
  | groupOpen
  | groupNotOpened
  | groupNameOpen
  | groupNameEmpty
  | groupNameCharacter
  | groupNameTwice (earlier : Span)
  /-- A group that looks ahead or behind. -/
  | lookAround
  | flagsOpen
  | flagUnknown
  | flagTwice (earlier : Span)
  | negationTwice (earlier : Span)
  /-- There is no flag after a sign of negation. -/
  | negationOfNothing
  | bracketOpen
  /-- An end of a range is no character. -/
  | rangeEnd
  | rangeBackwards
  /-- Something stands in brackets that is no set of characters. -/
  | notInBrackets
  | escapeOpen
  | escapeUnknown
  | hexDigit
  /-- A code point that is none of a character. -/
  | hexValue
  | propertyName
  /-- A digit after a backslash would stand for what a group has matched. -/
  | backreference
  | edgeNameOpen
  /-- What follows an edge of a word could be the name of a kind of edge, or a count. -/
  | edgeNameOrCountOpen
  /-- Groups, brackets and the like lie in one another too deeply. -/
  | nesting (limit : Nat)
  deriving Repr, DecidableEq

namespace Flaw

/-- A flaw that is shown with the place of something that came before it. -/
private def since (name : String) (earlier : Span) : String :=
  name ++ " \x7b original: " ++ earlier.diagnostic ++ " \x7d"

def diagnostic : Flaw → String
  | nothingToRepeat => "RepetitionMissing"
  | countOpen => "RepetitionCountUnclosed"
  | countWithoutDigits => "RepetitionCountDecimalEmpty"
  | countTooLarge => "DecimalInvalid"
  | groupOpen => "GroupUnclosed"
  | groupNotOpened => "GroupUnopened"
  | groupNameOpen => "GroupNameUnexpectedEof"
  | groupNameEmpty => "GroupNameEmpty"
  | groupNameCharacter => "GroupNameInvalid"
  | groupNameTwice earlier => since "GroupNameDuplicate" earlier
  | lookAround => "UnsupportedLookAround"
  | flagsOpen => "FlagUnexpectedEof"
  | flagUnknown => "FlagUnrecognized"
  | flagTwice earlier => since "FlagDuplicate" earlier
  | negationTwice earlier => since "FlagRepeatedNegation" earlier
  | negationOfNothing => "FlagDanglingNegation"
  | bracketOpen => "ClassUnclosed"
  | rangeEnd => "ClassRangeLiteral"
  | rangeBackwards => "ClassRangeInvalid"
  | notInBrackets => "ClassEscapeInvalid"
  | escapeOpen => "EscapeUnexpectedEof"
  | escapeUnknown => "EscapeUnrecognized"
  | hexDigit => "EscapeHexInvalidDigit"
  | hexValue => "EscapeHexInvalid"
  | propertyName => "UnicodeClassInvalid"
  | backreference => "UnsupportedBackreference"
  | edgeNameOpen => "SpecialWordBoundaryUnclosed"
  | edgeNameOrCountOpen => "SpecialWordOrRepetitionUnexpectedEof"
  | nesting limit => "NestLimitExceeded(" ++ toString limit ++ ")"

end Flaw

/-- A flaw and where it is. -/
structure Defect where
  flaw : Flaw
  span : Span
  deriving Repr, DecidableEq

/-! ## Wants -/

/-- What a well-formed pattern can ask for in vain. -/
inductive Want
  /-- Bytes that are no text. -/
  | bytes
  /-- A character of several bytes, in a set of bytes. -/
  | wideCharacter
  /-- The characters that have a property. -/
  | property
  /-- The digits, blanks or letters of all scripts. -/
  | kind
  /-- The other case of a character. -/
  | otherCase
  deriving Repr, DecidableEq

def Want.diagnostic : Want → String
  | bytes => "InvalidUtf8"
  | wideCharacter => "UnicodeNotAllowed"
  | property => "UnicodePropertyNotFound"
  | kind => "UnicodePerlClassNotFound"
  | otherCase => "UnicodeCaseUnavailable"

/-- Something that is asked for in vain, and where. -/
structure Lack where
  want : Want
  span : Span
  deriving Repr, DecidableEq

/-! ## Reports

A reason that has a place is found while the pattern is read or while it is translated, and is
wrapped in the error of each stage that hands it on. The word edge comes from the last stage and is
wrapped less. -/

/-- Why a pattern is refused. -/
inductive PatternError
  | illFormed (d : Defect)
  | unavailable (l : Lack)
  /-- It asks for the edge of a word. -/
  | wordEdge
  deriving Repr, DecidableEq

namespace PatternError

/-- A reason with a place, in front of the whole pattern. -/
private def located (stage kind pattern : String) (span : Span) : String :=
  "Syntax(" ++ stage ++ "(Error \x7b kind: " ++ kind ++ ", pattern: " ++ Quoted.text pattern
    ++ ", span: " ++ span.diagnostic ++ " \x7d))"

/-- What is said about an edge of a word. -/
def wordEdgeText : String :=
  "cannot build DFAs for regexes with Unicode word boundaries; switch to ASCII word boundaries, "
    ++ "or heuristically enable Unicode word boundaries or use a different regex engine"

/-- How the refusal of a pattern is reported. -/
def diagnostic (pattern : String) : PatternError → String
  | illFormed d => inner (located "Parse" d.flaw.diagnostic pattern d.span)
  | unavailable l => inner (located "Translate" l.want.diagnostic pattern l.span)
  | wordEdge => outer ("Unsupported(" ++ Quoted.text wordEdgeText ++ ")")
where
  outer (kind : String) : String := "BuildError \x7b kind: " ++ kind ++ " \x7d"
  inner (kind : String) : String := outer ("NFA(" ++ outer kind ++ ")")

end PatternError

end Cosmac.Pattern
