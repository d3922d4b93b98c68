import Cosmac.Host.Basic
import Cosmac.Keypad
import Cosmac.Log

/-!
# Cosmac — input devices

Where a session gets its keys from, once per batch: a terminal, or a fixed set of keys.

A terminal reports that a key was pressed, never that it was lifted. So a press counts for a number
of polls, and pressing again starts the count anew. `Keyboard.read` takes events off the queue until
there is nothing more for now, a failure, or the wish to quit; `InputDevice.poll` lets the counts
age first, and shows the keys on the keypad unless reading failed.

* `KeyMap.key?` — which key a character stands for. A key map is data from outside: it can have a
  character twice, and numbers that name no key.

* `Keyboard` and `InputDevice` — the counts with the key map, and the two kinds of device.

* `InputDevice.pollsToEnd?` — after how many polls a device is sure to have ended a session.
-/

namespace Cosmac

/-! ## Key maps -/

/-- Which key of the pad a character stands for, as pairs. A number past `F` names no key. -/
abbrev KeyMap := List (Char × Nat)

namespace KeyMap

/-- The key of a character. A later pair replaces an earlier one. -/
def key? (m : KeyMap) (c : Char) : Option Nat :=
  (m.reverse.find? fun pair => pair.1 = c).map (·.2)

/-- Every key under its own digit. -/
def literal : KeyMap :=
  "0123456789abcdef".toList.zip (List.range 16)

/-- The pad as a square on the left of the keyboard: `1234`, `qwer`, `asdf`, `zxcv`. -/
def conventional : KeyMap :=
  "x123qweasdzc4rfv".toList.zip (List.range 16)

end KeyMap

/-! ## The terminal's keyboard -/

/-- What an input device wants after a poll. -/
inductive Control
  | proceed
  | quit
  deriving Repr, DecidableEq

/-- For how many polls a press counts. -/
def holdPolls : Nat := 6

/-- For how many polls, this one included, each key still counts as down. -/
abbrev Held := Vector Nat 16

structure Keyboard where
  held : Held
  keymap : KeyMap
  deriving DecidableEq

/-- What came of reading events: the counts, what is left of the queue, reports, and how it
ended. -/
structure Reading where
  held : Held
  rest : List TerminalEvent
  log : List Event
  result : Except (Stopped HostError) Control

namespace Keyboard

/-- Reads events until there is nothing more for now. An event that fails, crashes or asks to quit
is used up; what is behind it stays. -/
def read (keymap : KeyMap) (held : Held) : List TerminalEvent → Reading
  | [] => ⟨held, [], [], .ok .proceed⟩
  | .pause :: rest => ⟨held, rest, [], .ok .proceed⟩
  | .escape :: rest => ⟨held, rest, [], .ok .quit⟩
  | .pollFailure :: rest => ⟨held, rest, [], .error (.failed (.refused "poll"))⟩
  | .readFailure :: rest => ⟨held, rest, [], .error (.failed (.refused "read"))⟩
  | .other :: rest => read keymap held rest
  | .key c :: rest =>
    -- keys are looked up in lower case, but reported as they were typed
    match keymap.key? c.toLower with
    | some key =>
      if h : key < 16 then read keymap (held.set key holdPolls) rest
      else ⟨held, rest, [], .error (.crashed .noSuchKey)⟩
    | none =>
      let reading := read keymap held rest
      { reading with log := .unmappedKey c :: reading.log }

/-- One poll has passed. -/
def age (held : Held) : Held :=
  held.map (· - 1)

/-- The keypad of some counts. -/
def keypad (held : Held) : Keypad :=
  .ofHeld fun key => decide (0 < held.get key)

end Keyboard

/-! ## Devices

The fixed device stands in for a keyboard where nobody types. It makes no calls, and can never fail.
-/

inductive InputDevice
  | terminal (keyboard : Keyboard)
  /-- Holds the same keys down for ever, and asks to quit after a number of polls, if given one. -/
  | fixed (keys : List Nat) (pollsLeft : Option Nat)
  deriving DecidableEq

/-- A finished poll. -/
structure Poll where
  device : InputDevice
  host : Host
  keypad : Keypad
  log : List Event
  result : Except (Stopped HostError) Control

namespace InputDevice

/-- Takes the keyboard over. -/
def openTerminal (keymap : KeyMap) (host : Host) : Except HostError InputDevice × Host :=
  match host.call .enterRawMode with
  | (.error e, host) => (.error e, host)
  | (.ok (), host) => (.ok (.terminal ⟨Vector.replicate 16 0, keymap⟩), host)

/-- Gives the keyboard back. -/
def close (d : InputDevice) (host : Host) : Host :=
  match d with
  | .terminal _ => host.callAll [.leaveRawMode]
  | .fixed .. => host

/-- The keypad with exactly some keys down. -/
def pressed (keys : List Nat) : Keypad :=
  keys.foldl (fun k key => k.setKey key true) .released

/-- Brings a keypad up to date. Presses that were read before a failure count at the next poll. -/
def poll (d : InputDevice) (host : Host) (keypad : Keypad) : Poll :=
  match d with
  | .terminal keyboard =>
    let reading := Keyboard.read keyboard.keymap (Keyboard.age keyboard.held) host.queue
    { device := .terminal { keyboard with held := reading.held }
      host := { host with queue := reading.rest }
      keypad := match reading.result with
        -- asking to quit still shows the keys
        | .ok _ => Keyboard.keypad reading.held
        | .error _ => keypad
      log := reading.log
      result := reading.result }
  | .fixed _ (some 0) => ⟨d, host, keypad, [], .ok .quit⟩
  | .fixed keys left => ⟨.fixed keys (left.map (· - 1)), host, pressed keys, [], .ok .proceed⟩

/-- A number of polls after which a device has failed or asked to quit, if it ever will. -/
def pollsToEnd? (d : InputDevice) (queue : List TerminalEvent) : Option Nat :=
  match d with
  | .terminal _ =>
    if queue.any fun e => e = .escape ∨ e = .pollFailure ∨ e = .readFailure then
      some (queue.length + 1)
    else none
  | .fixed _ left => left.map (· + 1)

end InputDevice

end Cosmac
