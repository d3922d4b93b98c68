import Cosmac.CommandLine.Arguments

/-!
# Cosmac — command lines

A command line is read from left to right. A setting has its value after `=`, or in the next
argument; the next argument is looked at first for what it is, and an option is never a value.
After `--` everything is a plain word.

An argument that stands alone is *pending*: its value is read only when the next argument that is
accepted, or the end, settles it. So where a wrong value is followed by an argument that is not
accepted at all, the latter is the error.

`CommandLine.parse` is the whole reading.
-/

namespace Cosmac.CommandLine

/-! ## Kinds of argument -/

inductive Token
  /-- `--` -/
  | separator
  /-- `--name` or `--name=value` -/
  | long (name : String) (value : Option String)
  /-- `-xyz` -/
  | short (letters : List Char)
  /-- Anything else, a lone `-` included. -/
  | word
  deriving Repr, DecidableEq

namespace Token

/-- The name and the value of a long option, apart at the first `=`. -/
def splitValue (cs : List Char) : Token :=
  let name := String.ofList (cs.takeWhile (· ≠ '='))
  match cs.dropWhile (· ≠ '=') with
  | [] => .long name none
  | _ :: value => .long name (some (String.ofList value))

/-- What kind of argument a text is, before `--`. -/
def ofArg (arg : String) : Token :=
  match arg.toList with
  | ['-', '-'] => .separator
  | '-' :: '-' :: rest => splitValue rest
  | '-' :: c :: rest => .short (c :: rest)
  | _ => .word

end Token

/-! ## The state of the reading -/

/-- An argument whose value has not been read yet. -/
inductive Pending
  | program (text : String)
  | setting (s : Setting) (text : Option String)
  deriving Repr, DecidableEq

structure State where
  draft : Draft
  program : Option String
  /-- The options that were given. -/
  given : List Opt
  pending : Option Pending
  /-- A word for the program has been accepted. -/
  programTaken : Bool
  /-- `--` has been read. -/
  optionsEnded : Bool

namespace State

def start : State where
  draft := .standard
  program := none
  given := []
  pending := none
  programTaken := false
  optionsEnded := false

/-- Notes that an option was given; refused if it was before. -/
def note (st : State) (o : Opt) : Except UsageError State :=
  if st.given.contains o then .error .givenTwice
  else .ok { st with given := o :: st.given }

/-- Gives a setting its value. A missing value is noticed before an option given twice, and that
before a value that cannot be read. -/
def put (st : State) (s : Setting) (text : Option String) : Except UsageError State :=
  match text with
  | none => .error .invalidValue
  | some text =>
    match st.note (.setting s) with
    | .error e => .error e
    | .ok st => (st.draft.assign s text).map fun draft => { st with draft }

/-- Reads the value of the pending argument, if there is one. -/
def settle (st : State) : Except UsageError State :=
  match st.pending with
  | none => .ok st
  | some (.program text) =>
    (Value.path text).map fun p => { st with pending := none, program := some p }
  | some (.setting s text) => { st with pending := none }.put s text

/-- Turns a switch on. -/
def turnOn (st : State) (s : Switch) : Except UsageError State :=
  match s with
  | .help => .error .helpRequested
  | .version => .error .versionRequested
  | .mute => (st.note (.switch .mute)).map fun st =>
    { st with draft := { st.draft with mute := true } }
  | .disassemble => (st.note (.switch .disassemble)).map fun st =>
    { st with draft := { st.draft with disassemble := true } }

/-- Accepts a word that is no value: the program, once. -/
def acceptProgram (st : State) (text : String) : Except UsageError State :=
  if st.programTaken then .error .unknownArgument
  else st.settle.map fun st =>
    { st with pending := some (.program text), programTaken := true }

/-- Accepts a long option. -/
def acceptLong (st : State) (name : String) (value : Option String) : Except UsageError State :=
  match Opt.ofName? name, value with
  -- these two are noticed before the pending value is read
  | none, _ => .error .unknownArgument
  | some (.switch _), some _ => .error .unexpectedValue
  -- the others are accepted, so the pending value is read first
  | some (.switch s), none => st.settle.bind fun st => st.turnOn s
  | some (.setting s), some text => st.settle.bind fun st => st.put s (some text)
  | some (.setting s), none => st.settle.map fun st =>
    { st with pending := some (.setting s none) }

/-- Accepts a group of letters. Both letters that exist end the reading, so only the first one
matters. -/
def acceptShort (st : State) (letters : List Char) : Except UsageError State :=
  match letters with
  | 'h' :: _ => st.settle.bind fun st => st.turnOn .help
  | 'V' :: _ => st.settle.bind fun st => st.turnOn .version
  | _ => .error .unknownArgument

/-- Accepts a word: the value that is waited for, or else the program. -/
def acceptWord (st : State) (text : String) : Except UsageError State :=
  match st.pending with
  | some (.setting s none) => .ok { st with pending := some (.setting s (some text)) }
  | _ => st.acceptProgram text

/-- Accepts an argument. -/
def accept (st : State) (arg : String) : Except UsageError State :=
  if st.optionsEnded then st.acceptProgram arg
  else
    match Token.ofArg arg with
    -- a setting that still waits for its value will not get one
    | .separator => .ok { st with optionsEnded := true }
    | .long name value => st.acceptLong name value
    | .short letters => st.acceptShort letters
    | .word => st.acceptWord arg

/-- Accepts arguments from left to right, and settles the last. -/
def acceptAll (st : State) : List String → Except UsageError State
  | [] => st.settle
  | arg :: rest =>
    match st.accept arg with
    | .error e => .error e
    | .ok st => st.acceptAll rest

end State

/-- What a command line says. -/
def parse (args : List String) : Except UsageError Arguments :=
  match State.start.acceptAll args with
  | .error e => .error e
  | .ok st =>
    match st.program with
    | none => .error .missingProgram
    | some program => .ok { st.draft with program }

end Cosmac.CommandLine
