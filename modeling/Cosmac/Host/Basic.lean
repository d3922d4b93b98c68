import Cosmac.Host.Picture

/-!
# Cosmac — the host

A session runs inside a host: a terminal that delivers events and is drawn on, and a speaker. The
host is a value. It has a queue of the events that are still to come, a rule that says which calls
it refuses, and a record of the calls that were made.

* `Host.call` makes one call: it is recorded, and carried out unless it is refused.

* `Host.callInTurn` makes several up to the first refusal, `Host.callAll` makes them all.

The rule can be any function of the number of calls before and of the call itself, so whatever is
proved of a host is proved for every pattern of refusals. What is seen and heard from outside is the
record: a call that was refused is in it as well, but marked.
-/

namespace Cosmac

/-! ## Events and calls -/

/-- What a terminal has in store, in the order in which it comes out. -/
inductive TerminalEvent
  /-- A key with a character on it. -/
  | key (c : Char)
  | escape
  /-- Anything that a session has no use for: other keys, a change of size. -/
  | other
  /-- Nothing more for now: what is behind it comes at a later poll. -/
  | pause
  /-- Asking for an event fails. -/
  | pollFailure
  /-- There is an event, but reading it fails. -/
  | readFailure
  deriving Repr, DecidableEq

/-- What a host can be asked to do. -/
inductive HostCall
  | enterRawMode
  | leaveRawMode
  | enterAlternateScreen
  | leaveAlternateScreen
  | openTerminal
  | hideCursor
  | showCursor
  | clear
  | draw (picture : Picture)
  /-- Switches the speaker on, or off where the pitch is zero. -/
  | sound (pitch : Nat)
  deriving Repr, DecidableEq

namespace HostCall

/-- The name by which a call is refused and reported. -/
def name : HostCall → String
  | enterRawMode => "raw_on"
  | leaveRawMode => "raw_off"
  | enterAlternateScreen => "alt_on"
  | leaveAlternateScreen => "alt_off"
  | openTerminal => "term_new"
  | hideCursor => "hide_cursor"
  | showCursor => "show_cursor"
  | clear => "clear"
  | draw _ => "draw"
  | sound pitch => if pitch = 0 then "silence" else "beep"

/-- A call with what it is given. -/
def text : HostCall → String
  | draw picture => "draw " ++ picture.text
  | sound pitch => (sound pitch).name ++ " " ++ toString pitch
  | c => c.name

end HostCall

/-- A call that was made, and whether it was carried out. -/
structure CallRecord where
  call : HostCall
  done : Bool
  deriving Repr, DecidableEq

/-- A call as a transcript shows it: one that was refused is marked. -/
def CallRecord.text (r : CallRecord) : String :=
  if r.done then r.call.text else r.call.text ++ "!"

/-! ## Hosts -/

structure Host where
  /-- The events to come. -/
  queue : List TerminalEvent
  /-- Whether a call is refused, given how many were made before it. -/
  refuses : Nat → HostCall → Bool
  /-- The calls made so far. -/
  calls : Array CallRecord

namespace Host

/-- A host at the start. -/
def start (queue : List TerminalEvent) (refuses : Nat → HostCall → Bool) : Host :=
  ⟨queue, refuses, #[]⟩

/-- Makes a call. -/
def call (h : Host) (c : HostCall) : Except HostError Unit × Host :=
  if h.refuses h.calls.size c then
    (.error (.refused c.name), { h with calls := h.calls.push ⟨c, false⟩ })
  else (.ok (), { h with calls := h.calls.push ⟨c, true⟩ })

/-- Makes calls one after the other, as long as none is refused. -/
def callInTurn (h : Host) : List HostCall → Except HostError Unit × Host
  | [] => (.ok (), h)
  | c :: rest =>
    match h.call c with
    | (.error e, h') => (.error e, h')
    | (.ok (), h') => h'.callInTurn rest

/-- Makes calls one after the other, whether they are refused or not. -/
def callAll (h : Host) (cs : List HostCall) : Host :=
  cs.foldl (fun h c => (h.call c).2) h

end Host

end Cosmac
