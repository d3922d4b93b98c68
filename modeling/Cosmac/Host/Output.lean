import Cosmac.Host.Basic

/-!
# Cosmac — displays and speakers

What a session is seen and heard by: a display, which is a terminal or keeps its frames in memory,
and a speaker, which is the host's or silent. Either may be refused by the host; what is refused has
not happened, and the device is as it was.
-/

namespace Cosmac

/-! ## Displays

A terminal has the size that it was opened with; frames of another size are refused. The recorder
stands in for a terminal where nobody looks, and takes frames of any size. -/

inductive Display
  /-- A terminal that was set up for frames of one size. -/
  | terminal (width height : Nat)
  /-- Counts the frames it was shown and keeps the last one. -/
  | recorder (frames : Nat) (last : Option Frame)
  deriving DecidableEq

namespace Display

/-- Takes the terminal over. Where a call is refused, those before it are not undone. -/
def openTerminal (width height : Nat) (host : Host) : Except HostError Display × Host :=
  match host.callInTurn [.enterAlternateScreen, .openTerminal, .hideCursor, .clear] with
  | (.error e, host) => (.error e, host)
  | (.ok (), host) => (.ok (.terminal width height), host)

/-- Gives the terminal back. -/
def close (d : Display) (host : Host) : Host :=
  match d with
  | .terminal .. => host.callAll [.showCursor, .leaveAlternateScreen]
  | .recorder .. => host

/-- Shows a frame. A terminal that was set up for another size is not even asked, nor one that has
no room for the picture. -/
def present (d : Display) (host : Host) (f : Frame) :
    Except (Stopped HostError) Unit × Display × Host :=
  match d with
  | .terminal width height =>
    if f.width = width ∧ f.height = height then
      match Picture.ofFrame? f with
      | .error c => (.error (.crashed c), d, host)
      | .ok picture =>
        let called := host.call (.draw picture)
        (called.1.mapError .failed, d, called.2)
    else (.error (.failed .frameSize), d, host)
  | .recorder frames _ => (.ok (), .recorder (frames + 1) (some f), host)

end Display

/-! ## Speakers

A speaker is told when the tone is to start and when it is to stop. It does not know what for. -/

inductive Speaker
  /-- The host's speaker, and whether it was last switched on. -/
  | beeper (beeping : Bool)
  /-- Makes no sound; counts how often it was to start and to stop. -/
  | mute (starts stops : Nat)
  deriving Repr, DecidableEq

namespace Speaker

/-- The tone of the buzzer, in hertz. -/
def pitch : Nat := 2093

/-- Switches the buzzer on or off. A speaker that refuses stays as it was. -/
def switch (s : Speaker) (host : Host) (on : Bool) : Except HostError Unit × Speaker × Host :=
  match s with
  | .beeper beeping =>
    match host.call (.sound (if on then pitch else 0)) with
    | (.ok (), host) => (.ok (), .beeper on, host)
    -- no sound was made, so it is still as it was
    | (.error e, host) => (.error e, .beeper beeping, host)
  | .mute starts stops =>
    if on then (.ok (), .mute (starts + 1) stops, host)
    else (.ok (), .mute starts (stops + 1), host)

end Speaker

end Cosmac
