import Cosmac.Failure
import Cosmac.LogFilter.Basic
import Cosmac.Pattern.Check
import Cosmac.Text.Character
import Cosmac.Text.Numeral

/-!
# Cosmac — reading log filters

The rules of a filter stand between commas. A rule is written `part[span{field=value}]=level`, where
most can be left out; a lone word is a level if there is one of that name, and otherwise a part of
which everything is kept.

Where the parts of a rule begin and end is found without the blanks around it, but counted in bytes
from the start of the text that has them. A rule after a blank is therefore cut in the wrong places,
and a place inside a character is no place to cut at.
-/

namespace Cosmac

/-! ## Cutting texts

A text is cut at a number of bytes from its start, counted in UTF-8. A number that leads into the
middle of a character, or past the end, is no place to cut at. -/

namespace Cut

/-- A text without the blanks at its ends. -/
def trim (cs : List Char) : List Char :=
  ((cs.dropWhile Blank.isBlank).reverse.dropWhile Blank.isBlank).reverse

/-- How many bytes a text takes. -/
def bytes : List Char → Nat
  | [] => 0
  | c :: rest => c.utf8Size + bytes rest

/-- The two parts of a text that is cut after `n` bytes. -/
def at? : Nat → List Char → Option (List Char × List Char)
  | 0, cs => some ([], cs)
  | _ + 1, [] => none
  | n + 1, c :: rest =>
    if c.utf8Size ≤ n + 1 then
      (at? (n + 1 - c.utf8Size) rest).map fun (before, after) => (c :: before, after)
    else none

/-- What stands between two places of a text. -/
def between? (start stop : Nat) (cs : List Char) : Option (List Char) :=
  match at? start cs with
  | none => none
  | some (_, rest) => (at? (stop - start) rest).map (·.1)

end Cut

/-! ## What can be wrong -/

/-- What can be wrong with a rule. -/
inductive FilterError
  /-- A rule starts with a character that no name starts with, or something is left open. -/
  | malformed
  /-- What stands after `=` is no level. -/
  | unknownLevel
  /-- The value of a field is a pattern that is refused. -/
  | value (pattern : String) (e : Pattern.PatternError)
  deriving Repr, DecidableEq

namespace FilterError

/-- What is reported, by the kind of error. -/
private def ofKind (kind : String) : String :=
  "ParseError \x7b kind: " ++ kind ++ " \x7d"

def diagnostic : FilterError → String
  | malformed => ofKind "Other(None)"
  | unknownLevel => ofKind "Level(ParseLevelFilterError(()))"
  | value pattern e => ofKind ("Field(" ++ e.diagnostic pattern ++ ")")

end FilterError

/-! ## Places in a rule

The text without blanks is gone through with a count of the bytes before the place that has been
reached. The pieces of the rule are then cut from the other text by that count. -/

/-- A place in a rule. -/
structure Cursor where
  /-- How many bytes lie before it. -/
  offset : Nat
  /-- What has not been looked at. -/
  rest : List Char
  deriving Repr, DecidableEq

namespace Cursor

/-- The next place where one of these characters stands, or the end. -/
def seek (c : Cursor) (marks : List Char) : Cursor where
  offset := c.offset + Cut.bytes (c.rest.takeWhile fun x => !marks.contains x)
  rest := c.rest.dropWhile fun x => !marks.contains x

/-- One character on, which is of one byte. -/
def next (c : Cursor) : Cursor :=
  ⟨c.offset + 1, c.rest.tail⟩

end Cursor

namespace FilterRule

/-! ## Levels -/

/-- Levels by name, `off` being none. -/
def named : List (String × Option Level) := [
  ("off", none),
  ("error", some .error),
  ("warn", some .warn),
  ("info", some .info),
  ("debug", some .debug),
  ("trace", some .trace)]

/-- Levels by number, from none to the least grave. -/
def numbered : List (Option Level) :=
  [none, some .error, some .warn, some .info, some .debug, some .trace]

/-- The level of a text: a number in any spelling, or a name in any case. -/
def level? (text : String) : Option (Option Level) :=
  match Numeral.nat 10 0xffffffffffffffff text.toList with
  | .ok n => numbered[n]?
  | .error _ => named.lookup text.toLower

/-! ## The parts of a rule

From the outside in: a rule is a part, perhaps with a scope in brackets, perhaps with a level after
`=`. Each reader stops at a mark and leaves it to the next one. -/

/-- Whether a rule may start with a character. -/
def opens (c : Char) : Bool :=
  Alphanumeric.isAlphanumeric c || ['-', ':', '_', '['].contains c

/-- What a text has between two places. -/
def piece (cs : List Char) (start stop : Nat) : Except (Stopped FilterError) String :=
  match Cut.between? start stop cs with
  | some piece => .ok (String.ofList piece)
  | none => .error (.crashed .cutCharacter)

/-- The level of a rule, with `=` before it; where nothing stands, everything is kept. -/
def readLevel (cs : List Char) (c : Cursor) : Except (Stopped FilterError) (Option Level) :=
  match c.rest with
  | [] => .ok (some .trace)
  | '=' :: _ => do
    let text ← piece cs c.next.offset (Cut.bytes cs)
    if text.isEmpty then return some .trace
    match level? text with
    | some least => return least
    | none => throw (.failed .unknownLevel)
  | _ => .error (.failed .malformed)

/-- A field, with its value if there is one. What stands after a second `=` is left out. -/
def fieldOf (text : String) : FieldTest :=
  match text.splitOn "=" with
  | name :: value :: _ => ⟨name, some value⟩
  | _ => ⟨text, none⟩

/-- Refuses a value that is neither a number nor a pattern. -/
def checkValue (field : FieldTest) : Except (Stopped FilterError) Unit :=
  match field.value with
  | none => .ok ()
  | some value =>
    -- a number is compared as one, so it need not be a pattern
    if Scientific.isNumber value.toList then .ok ()
    else (Pattern.check value).mapError fun e => .failed (.value value e)

/-- The field of a rule, up to the bracket after it. -/
def readField (cs : List Char) (c : Cursor) : Except (Stopped FilterError) (FieldTest × Cursor) :=
  let stop := c.seek ['\x7d']
  if stop.rest.isEmpty then .error (.failed .malformed)
  else do
    let text ← piece cs c.offset stop.offset
    if text.isEmpty then throw (.failed .malformed)
    let field := fieldOf text
    checkValue field
    match stop.next.rest with
    | ']' :: _ => return (field, stop.next)
    | _ => throw (.failed .malformed)

/-- What a rule has in brackets, up to the one that closes. A span without a name can be meant only
where there is no field. -/
def readScope (cs : List Char) (c : Cursor) :
    Except (Stopped FilterError) (Option String × Option FieldTest × Cursor) :=
  let stop := c.seek [']', '\x7b']
  match stop.rest with
  | [] => .error (.failed .malformed)
  | ']' :: _ => do
    let span ← piece cs c.offset stop.offset
    return (some span, none, stop)
  -- a brace: the span ends here, and a field begins
  | _ => do
    let span ← piece cs c.offset stop.offset
    let (field, stop) ← readField cs stop.next
    return (if span.isEmpty then none else some span, some field, stop)

/-- Reads a rule. Its parts are found in the text without blanks, and cut from the one with them. -/
def parse (text : String) : Except (Stopped FilterError) FilterRule :=
  let cs := text.toList
  let start : Cursor := ⟨0, Cut.trim cs⟩
  if !(start.rest.head?.any opens) then .error (.failed .malformed)
  else
    let stop := start.seek ['=', '[']
    match stop.rest with
    | [] =>
      -- a lone word is a level if there is one of that name, and a part otherwise
      match level? text with
      | some least => .ok (ofLevel "" least)
      | none => .ok (ofLevel text (some .trace))
    | '=' :: _ => do
      let target ← piece cs 0 stop.offset
      let least ← readLevel cs stop
      return ofLevel target least
    | _ => do
      let target ← piece cs 0 stop.offset
      let (span, field, stop) ← readScope cs stop.next
      let least ← readLevel cs stop.next
      return ⟨target, span, field, least⟩

end FilterRule

/-- Rules with commas between them; with none, errors are kept. -/
def LogFilter.parse (text : String) : Except (Stopped FilterError) LogFilter :=
  match (text.splitOn ",").filter (· ≠ "") with
  | [] => .ok [.ofLevel "" (some .error)]
  | rules => rules.mapM FilterRule.parse

end Cosmac
