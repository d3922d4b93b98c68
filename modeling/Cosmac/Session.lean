import Cosmac.Host.Output
import Cosmac.Host.Input
import Cosmac.Scheduler

/-!
# Cosmac — sessions

A session connects a machine to input, display and speaker. A *cycle* polls the input, runs a batch,
shows the frame if one is due, and switches the buzzer when its state changes. The *main loop* runs
cycles until the input asks to quit or a number of batches have run, and leaves the buzzer off.

How much time passes before each batch is a parameter, the clock, so that a session is a function of
its surroundings.

* `Session.present` and `Session.soundAs` — the two stages of a cycle that call the host.

* `Session.cycle` — one cycle. It can be left early by the input, the batch, the display and the
  speaker, and has then done what comes before.

* `Session.mainLoop` — cycles and their end. An orderly end winds up; a failure or a crash does not.

* `Session.roundsToEnd` — how far a main loop has to be followed to come to its end.
-/

namespace Cosmac

structure Session where
  input : InputDevice
  display : Display
  speaker : Speaker
  machine : Machine
  scheduler : Scheduler
  /-- How long a batch is to take, in nanoseconds; for pacing alone. -/
  batchInterval : Nat
  /-- Whether the buzzer was last switched on. -/
  sounding : Bool

/-- How a cycle ended. -/
inductive CycleResult
  | ran (report : Report)
  | quit
  | failed (e : Failure)
  | crashed (c : Crash)
  deriving DecidableEq

/-- A finished cycle. One that fails or crashes has changed what it changed up to there. -/
structure Cycle where
  session : Session
  host : Host
  log : Log
  result : CycleResult

/-- Totals of a main loop. -/
structure Summary where
  batches : Nat
  executed : Nat
  faults : Nat
  frames : Nat
  deriving Repr, DecidableEq

namespace Summary

def zero : Summary := ⟨0, 0, 0, 0⟩

/-- With one more batch. -/
def add (s : Summary) (r : Report) : Summary where
  batches := s.batches + 1
  executed := s.executed + r.executed
  faults := s.faults + r.faults
  frames := s.frames + if r.frameReady then 1 else 0

end Summary

namespace Session

/-- A silent session around a machine. -/
def new (config : Config) (machine : Machine) (input : InputDevice) (display : Display)
    (speaker : Speaker) : Except Failure Session :=
  match Scheduler.new config with
  | .error e => .error e
  | .ok scheduler => .ok {
      input, display, speaker, machine, scheduler
      batchInterval := interval config.batchHz
      sounding := false }

/-! ## Cycles

The stages of a cycle come one after the other, and each can end it. What a stage has changed by
then stays changed. -/

/-- Shows the frame of the machine if one is due. -/
def present (s : Session) (host : Host) (due : Bool) :
    Except (Stopped HostError) Unit × Session × Host :=
  if due then
    let shown := s.display.present host s.machine.screen.frame
    (shown.1, { s with display := shown.2.1 }, shown.2.2)
  else (.ok (), s, host)

/-- Switches the buzzer if it is not as it should be. Where the speaker refuses, the session
remembers the old state, and so asks again. -/
def soundAs (s : Session) (host : Host) (active : Bool) : Except HostError Unit × Session × Host :=
  if active = s.sounding then (.ok (), s, host)
  else
    match s.speaker.switch host active with
    | (.ok (), speaker, host) => (.ok (), { s with speaker, sounding := active }, host)
    | (.error e, speaker, host) => (.error e, { s with speaker }, host)

/-- What a cycle does once its batch has run. -/
def follow (s : Session) (host : Host) (log : Log) (report : Report) : Cycle :=
  match s.present host report.frameReady with
  | (.error (.failed e), s, host) => ⟨s, host, log, .failed (.io e)⟩
  | (.error (.crashed c), s, host) => ⟨s, host, log, .crashed c⟩
  | (.ok (), s, host) =>
    match s.soundAs host report.soundActive with
    | (.error e, s, host) => ⟨s, host, log, .failed (.io e)⟩
    | (.ok (), s, host) => ⟨s, host, log, .ran report⟩

/-- One batch, as if `elapsed` had passed since the one before. -/
def cycle (s : Session) (host : Host) (elapsed : Nat) : Cycle :=
  let poll := s.input.poll host s.machine.keypad
  let s := { s with input := poll.device, machine := { s.machine with keypad := poll.keypad } }
  let log := poll.log.toArray
  match poll.result with
  | .error (.failed e) => ⟨s, poll.host, log, .failed (.io e)⟩
  | .error (.crashed c) => ⟨s, poll.host, log, .crashed c⟩
  | .ok .quit => ⟨s, poll.host, log, .quit⟩
  | .ok .proceed =>
    let batch := s.scheduler.batch s.machine elapsed
    -- debts and machine are kept even where the batch has no report
    let s := { s with machine := batch.machine, scheduler := batch.scheduler }
    match batch.result with
    | .error c => ⟨s, poll.host, log ++ batch.log, .crashed c⟩
    | .ok report => s.follow poll.host (log ++ batch.log) report

/-! ## The main loop

The loop is followed for a number of rounds, so that a session which never ends has a value for each
of them. -/

/-- A main loop so far. -/
structure Progress where
  session : Session
  host : Host
  log : Log
  summary : Summary

/-- Why a main loop stops running cycles. -/
inductive Stop
  | limit
  | quit
  | failed (e : Failure)
  | crashed (c : Crash)
  /-- It was not followed to its end. -/
  | unfinished
  deriving DecidableEq

/-- Cycles until something stops them, at most as many as the last argument says. `clock n` is
the time that passes before batch number `n`. -/
def cycles (limit : Option Nat) (clock : Nat → Nat) : Nat → Progress → Progress × Stop
  | 0, p => (p, .unfinished)
  | rounds + 1, p =>
    -- the limit is looked at before a cycle, so none runs at a limit of zero
    if limit.any (· ≤ p.summary.batches) then (p, .limit)
    else
      let c := p.session.cycle p.host (clock p.summary.batches)
      let p' := { p with session := c.session, host := c.host, log := p.log ++ c.log }
      match c.result with
      | .ran report => cycles limit clock rounds { p' with summary := p.summary.add report }
      | .quit => ({ p' with log := p'.log.push .quitRequested }, .quit)
      | .failed e => (p', .failed e)
      | .crashed c => (p', .crashed c)

/-- How a main loop ended. -/
inductive LoopResult
  | finished (summary : Summary)
  | failed (e : Failure)
  | crashed (c : Crash)
  | unfinished
  deriving DecidableEq

/-- A main loop with its end. -/
structure MainLoop where
  session : Session
  host : Host
  log : Log
  result : LoopResult

/-- A main loop before its first cycle. -/
def begin (s : Session) (host : Host) : Progress :=
  ⟨s, host, #[.starting s.machine.registers.pc], .zero⟩

/-- The orderly end of a main loop: the buzzer is switched off, and the totals are reported. -/
def wind (p : Progress) : MainLoop :=
  match p.session.soundAs p.host false with
  | (.error e, s, host) => ⟨s, host, p.log, .failed (.io e)⟩
  | (.ok (), s, host) =>
    let total := p.summary
    ⟨s, host, p.log.push (.stopped total.batches total.executed total.faults), .finished total⟩

/-- The end of a main loop that stopped. A failure ends it at once, with the buzzer as it is. -/
def conclude (p : Progress) : Stop → MainLoop
  | .limit => wind p
  | .quit => wind p
  | .failed e => ⟨p.session, p.host, p.log, .failed e⟩
  | .crashed c => ⟨p.session, p.host, p.log, .crashed c⟩
  | .unfinished => ⟨p.session, p.host, p.log, .unfinished⟩

/-- Runs cycles until the input asks to quit or `limit` batches have run; `rounds` bounds how far
that is followed. -/
def mainLoop (s : Session) (host : Host) (limit : Option Nat) (clock : Nat → Nat)
    (rounds : Nat) : MainLoop :=
  let stopped := cycles limit clock rounds (s.begin host)
  conclude stopped.1 stopped.2

/-- Enough rounds for a main loop to end: every batch counts towards the limit, and every poll
towards the end of the input. A loop with neither has no end. -/
def roundsToEnd (s : Session) (host : Host) (limit : Option Nat) : Nat :=
  match limit, s.input.pollsToEnd? host.queue with
  | some n, some polls => min (n + 1) polls
  | some n, none => n + 1
  | none, some polls => polls
  | none, none => 0

end Session

end Cosmac
