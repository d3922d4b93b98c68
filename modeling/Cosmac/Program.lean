import Cosmac.CommandLine.Parse
import Cosmac.FileTree
import Cosmac.Instruction.Listing
import Cosmac.LogFilter.Parse
import Cosmac.Session

/-!
# Cosmac — the program

A run of the whole program, from its command line to its exit, as a function of the arguments, of
what the environment says about the log, and of the files, the host, the clock and a random key.

A program image is listed or played. `Program.start` does everything up to the first cycle: whatever
is wrong with the arguments, the files or the image is noticed before the terminal is taken over.
What it leaves to do is a `Playing` session, whose main loop then runs. `Playing.finish` gives the
devices back, however that ended, and writes the log file.

* `Exit` — how a run ends, what it has printed, and how it has left files and host.

* `Program.filterOf` — the filter of the log, from the command line or the environment.

* `Program.boot` — the machine with the image; `Program.connect` — the session with its devices.

* `Program.play` and `Program.start` — the checks in their order; `Program.run` — all of it.
-/

namespace Cosmac.Program

open CommandLine (Arguments UsageError)

/-! ## Exits

A run that fails prints a diagnostic and exits with one, a command line that is not followed exits
with two, and a crash has the code of the system for it. -/

/-- How a run ends. -/
inductive Status
  | exited (code : Nat)
  | crashed (c : Crash)
  /-- The main loop was not followed to its end. -/
  | unfinished
  deriving Repr, DecidableEq

/-- A finished run: what it printed, and how it left its surroundings. -/
structure Exit where
  status : Status
  stdout : List String
  stderr : List String
  files : FileTree
  host : Host

/-- The version that is printed on request. -/
def version : String := "chip8 0.2.0"

namespace Exit

/-- An error that is reported in the form of its diagnostic. -/
def failed (diagnostic : String) (files : FileTree) (host : Host) : Exit :=
  ⟨.exited 1, [], ["Error: " ++ diagnostic], files, host⟩

/-- A crash, of which nothing is reported. -/
def crashed (c : Crash) (files : FileTree) (host : Host) : Exit :=
  ⟨.crashed c, [], [], files, host⟩

/-- A command line that is not followed. -/
def usage (e : UsageError) (files : FileTree) (host : Host) : Exit :=
  match e with
  | .helpRequested => ⟨.exited 0, CommandLine.Opt.usage, [], files, host⟩
  | .versionRequested => ⟨.exited 0, [version], [], files, host⟩
  | _ => ⟨.exited 2, [], ["error: " ++ e.message], files, host⟩

end Exit

/-! ## Listing -/

/-- Prints the listing of the image. -/
def list (a : Arguments) (files : FileTree) (host : Host) : Exit :=
  match files.read a.program with
  | .error e => .failed (HostError.file e).diagnostic files host
  | .ok image =>
    let rows := Listing.ofBytes a.config.dialect.jumpRegister a.config.programAddr.toNat image
    ⟨.exited 0, rows.map (·.text), [], files, host⟩

/-! ## Log files

The file has the events of the whole run that the filter keeps, and is written at the end. A run
that is declined later than the log file was opened leaves it empty. -/

/-- The lines of a log file: what the filter keeps. -/
def logLines (filter : LogFilter) (log : Log) : List String :=
  (log.toList.filter filter.keeps).map (·.fileLine)

/-- The exit with a log written to its file. -/
def Exit.withLog (e : Exit) (path : String) (filter : LogFilter) (log : Log) : Exit :=
  let text := String.join ((logLines filter log).map (· ++ "\n"))
  match e.files.write path text.toUTF8.toList with
  | .ok files => { e with files }
  | .error _ => e

/-! ## Before the terminal is taken over

Nothing here touches the host. What goes wrong is reported as an error of the run, so the terminal
stays as it is. -/

/-- The bytes of a file as a source. -/
def sourceOf (files : FileTree) (path : String) : Source :=
  match files.read path with
  | .ok bytes => ⟨bytes, none⟩
  | .error e => ⟨[], some (.file e)⟩

/-- The filter of the log. One that is asked for has to be right. Otherwise the environment may set
one, for which the standard one stands in if it cannot be read. -/
def filterOf (a : Arguments) (logVariable : Option String) : Except (Stopped FilterError) LogFilter :=
  match a.logFilter, logVariable with
  | some text, _ => LogFilter.parse text
  | none, none => .ok .standard
  | none, some text =>
    match LogFilter.parse text with
    | .error (.failed _) => .ok .standard
    | parsed => parsed

/-- A machine with the image in it, and the report of that. -/
def boot (a : Arguments) (files : FileTree) (entropy : ChaCha.Key) :
    Except (Stopped Failure) (Machine × Event) :=
  match Machine.new a.config entropy with
  | .error e => .error e
  | .ok machine =>
    match machine.load (sourceOf files a.program) with
    | .error e => .error (.failed e)
    | .ok (_, machine, loaded) => .ok (machine, loaded)

/-! ## With the terminal

The display is opened first and closed last. Whatever fails after it was opened closes it again. -/

/-- A session on the terminal; or why there is none, and the host without it. -/
def connect (a : Arguments) (machine : Machine) (host : Host) : Except String Session × Host :=
  match Display.openTerminal a.config.width a.config.height host with
  | (.error e, host) => (.error e.diagnostic, host)
  | (.ok display, host) =>
    match InputDevice.openTerminal a.keymap.keymap host with
    -- a display that was opened is closed again
    | (.error e, host) => (.error e.diagnostic, display.close host)
    | (.ok input, host) =>
      let speaker := if a.mute then Speaker.mute 0 0 else Speaker.beeper false
      match Session.new a.config machine input display speaker with
      | .error e => (.error e.diagnostic, display.close (input.close host))
      | .ok session => (.ok session, host)

/-- A run that has come to its main loop. -/
structure Playing where
  arguments : Arguments
  filter : LogFilter
  files : FileTree
  session : Session
  host : Host
  /-- What was reported before the main loop. -/
  log : Log

namespace Playing

/-- After how many batches the main loop is to stop. -/
def limit (p : Playing) : Option Nat :=
  p.arguments.maxBatches.map (·.toNat)

/-- What is printed after an orderly end. -/
def farewell (p : Playing) (s : Summary) : String :=
  "ran " ++ toString s.executed ++ " instructions in " ++ toString s.batches ++ " batches; "
    ++ toString s.faults ++ " faults (see " ++ p.arguments.logFile ++ ")"

/-- Gives the devices back, the keyboard first. -/
def release (l : Session.MainLoop) : Host :=
  l.session.display.close (l.session.input.close l.host)

/-- The exit after a main loop. -/
def finish (p : Playing) (l : Session.MainLoop) : Exit :=
  let exit : Exit := match l.result with
    | .finished summary => ⟨.exited 0, [], [p.farewell summary], p.files, release l⟩
    | .failed e => .failed e.diagnostic p.files (release l)
    | .crashed c => .crashed c p.files (release l)
    | .unfinished => ⟨.unfinished, [], [], p.files, l.host⟩
  exit.withLog p.arguments.logFile p.filter (p.log ++ l.log)

end Playing

/-! ## The whole run

The order of the checks can be seen from outside: each has an error of its own, and the first that
fails is the one that is reported. -/

/-- A run up to its main loop, or to its exit if it has none. -/
inductive Start
  | ended (exit : Exit)
  | playing (p : Playing)

/-- Goes on to the main loop. The log file is emptied before the image is read. -/
def play (a : Arguments) (logVariable : Option String) (files : FileTree) (host : Host)
    (entropy : ChaCha.Key) : Start :=
  match filterOf a logVariable with
  | .error (.failed e) => .ended (.failed e.diagnostic files host)
  | .error (.crashed c) => .ended (.crashed c files host)
  | .ok filter =>
    -- the image may be this very file: it is empty by the time it is read
    match files.write a.logFile [] with
    | .error e => .ended (.failed (HostError.file e).diagnostic files host)
    | .ok files =>
      match boot a files entropy with
      | .error (.failed e) => .ended (.failed e.diagnostic files host)
      | .error (.crashed c) => .ended (.crashed c files host)
      | .ok (machine, loaded) =>
        match connect a machine host with
        | (.error diagnostic, host) =>
          .ended ((Exit.failed diagnostic files host).withLog a.logFile filter #[loaded])
        | (.ok session, host) => .playing ⟨a, filter, files, session, host, #[loaded]⟩

/-- Everything up to the first cycle. `logVariable` is the text that the environment has for the
filter of the log, if there is one. -/
def start (args : List String) (logVariable : Option String) (files : FileTree) (host : Host)
    (entropy : ChaCha.Key) : Start :=
  match CommandLine.parse args with
  | .error e => .ended (.usage e files host)
  | .ok a =>
    match a.config.check with
    | .error e => .ended (.failed (Failure.invalidConfig e).diagnostic files host)
    | .ok () =>
      -- a directory can be opened, and fails only when it is read
      match files.find a.program with
      | .error e => .ended (.failed (HostError.file e).diagnostic files host)
      | .ok _ =>
        if a.disassemble then .ended (list a files host)
        else play a logVariable files host entropy

/-- A run of the program. -/
def run (args : List String) (logVariable : Option String) (files : FileTree) (host : Host)
    (entropy : ChaCha.Key) (clock : Nat → Nat) : Exit :=
  match start args logVariable files host entropy with
  | .ended exit => exit
  | .playing p =>
    let rounds := p.session.roundsToEnd p.host p.limit
    p.finish (p.session.mainLoop p.host p.limit clock rounds)

end Cosmac.Program
