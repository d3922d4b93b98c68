import Cosmac.Program

/-!
# Cosmac — the command line

The outer layer of the program: it looks at the files that a command line names, carries out the
calls that a session makes, and lets real time pass. What happens is decided elsewhere; the loop
here is the main loop, one round at a time.

Pictures are drawn with escape sequences. Keys come from standard input, where that is no terminal:
a character is a press, an escape character asks to quit, and a line break ends a poll.

Nothing is proved about this module, and it is kept as thin as it can be. Before the run it takes
down what the system says about the files, with what may not be opened or replaced, so that the run
itself asks a value and not the system. Afterwards it writes the one file that has changed.
-/

namespace Cosmac.Terminal

open Program (Playing Start Exit)

/-! ## Files

A file tree is made of what lies at the two paths of the command line and on the way to them.
Nothing else is asked for by a run. -/

/-- What the system has said about a file, in the words of the program. -/
def fileError : IO.Error → FileError
  | .noFileOrDirectory .. => .notFound
  | .permissionDenied .. => .permissionDenied
  | .inappropriateType .. => .isADirectory
  | e => .other 5 "Uncategorized" (toString e)

/-- Takes down what lies at a place, and whether it may be opened. -/
def probe (t : FileTree) (place : Place) : IO FileTree := do
  try
    let bytes ← IO.FS.readBinFile ("/" ++ "/".intercalate place)
    return { t with nodes := (place, .file bytes.toList) :: t.nodes }
  catch e =>
    match fileError e with
    | .notFound => return t
    | .isADirectory => return { t with nodes := (place, .directory) :: t.nodes }
    | refusal =>
      return { t with
        nodes := (place, .file []) :: t.nodes
        refusals := ((.toOpen, place), refusal) :: t.refusals }

/-- Takes down whether the file at a place may be replaced, if there is one. -/
def probeWriting (t : FileTree) (place : Place) : IO FileTree := do
  try
    let _ ← IO.FS.Handle.mk ("/" ++ "/".intercalate place) .readWrite
    return t
  catch e =>
    match fileError e with
    | .notFound | .isADirectory => return t
    | refusal => return { t with refusals := ((.toWrite, place), refusal) :: t.refusals }

/-- The places on the way to a path, and its own at the end. -/
def placesOf (directory : Place) (text : String) : List Place :=
  match Path.parse text with
  | .ok path => path.places directory
  | .error _ => []

/-- The files that a command line names, with what lies on the way to them. -/
def filesOf (args : List String) : IO FileTree := do
  let directory := ((← IO.currentDir).toString.splitOn "/").filter (· ≠ "")
  let mut files : FileTree := ⟨directory, [], []⟩
  if let .ok a := CommandLine.parse args then
    for place in placesOf directory a.program ++ placesOf directory a.logFile do
      files ← probe files place
    if let some place := (placesOf directory a.logFile).getLast? then
      files ← probeWriting files place
  return files

/-- Writes the log file, if the run has one. -/
def save (args : List String) (before after : FileTree) : IO Unit := do
  if let .ok a := CommandLine.parse args then
    if after ≠ before then
      if let .ok bytes := after.read a.logFile then
        IO.FS.writeBinFile a.logFile (ByteArray.mk bytes.toArray)

/-! ## The terminal -/

/-- The events that a text stands for. -/
def eventsOf (text : String) : List TerminalEvent :=
  text.toList.map fun c =>
    if c = '\x1b' then .escape
    else if c = '\n' then .pause
    else .key c

/-- The events that standard input has in store. -/
def readEvents : IO (List TerminalEvent) := do
  let stdin ← IO.getStdin
  if ← stdin.isTty then
    return []
  return eventsOf (← stdin.readToEnd)

/-- The lines of a picture inside its border. -/
def render (p : Picture) : String :=
  let blank := Array.replicate (p.columns * p.rows) ' '
  let pixels := p.white.foldl (fun a q => a.setIfInBounds (q.row * p.columns + q.column) '█') blank
  let edge := "+" ++ String.ofList (List.replicate p.columns '-') ++ "+\r\n"
  let line (row : Nat) : String :=
    let row := pixels.extract (row * p.columns) ((row + 1) * p.columns)
    "|" ++ String.ofList row.toList ++ "|\r\n"
  edge ++ String.join ((List.range p.rows).map line) ++ edge

/-- What a terminal is sent for a call. -/
def sequence : HostCall → String
  | .enterAlternateScreen => "\x1b[?1049h"
  | .leaveAlternateScreen => "\x1b[?1049l"
  | .hideCursor => "\x1b[?25l"
  | .showCursor => "\x1b[?25h"
  | .clear => "\x1b[2J"
  | .draw picture => "\x1b[H" ++ render picture
  | .sound pitch => if pitch = 0 then "" else "\x07"
  | .openTerminal | .enterRawMode | .leaveRawMode => ""

/-- Carries out the calls that were made since there were `done` of them. -/
def carryOut (host : Host) (done : Nat) : IO Unit := do
  let stdout ← IO.getStdout
  for record in host.calls.extract done host.calls.size do
    stdout.putStr (sequence record.call)
  stdout.flush

/-! ## Real time

A round is told how long ago the round before it began, and then waits for as long as the interval
of a batch leaves over. -/

/-- Rounds of the main loop until it stops, each at its time. -/
partial def drive (p : Playing) (progress : Session.Progress) (last : Nat) :
    IO Session.MainLoop := do
  let now ← IO.monoNanosNow
  let (next, stop) := Session.cycles p.limit (fun _ => now - last) 1 progress
  carryOut next.host progress.host.calls.size
  if stop ≠ .unfinished then
    return Session.conclude next stop
  let busy := (← IO.monoNanosNow) - now
  IO.sleep (UInt32.ofNat ((next.session.batchInterval - busy) / 1000000))
  drive p next now

/-- Plays a session to its end. -/
def play (p : Playing) : IO Exit := do
  carryOut p.host 0
  let host := { p.host with queue := ← readEvents }
  let l ← drive p (p.session.begin host) (← IO.monoNanosNow)
  let exit := p.finish l
  carryOut exit.host l.host.calls.size
  return exit

/-- A key from outside. -/
def entropy : IO ChaCha.Key := do
  let bytes ← IO.getRandomBytes 32
  return Vector.ofFn fun k =>
    (bytes.extract (4 * k.val) (4 * k.val + 4)).toList.foldl
      (fun word b => word * 256 + b.toUInt32) 0

def exitCode (e : Exit) : UInt32 :=
  match e.status with
  | .exited code => UInt32.ofNat code
  | .crashed _ | .unfinished => 101

end Cosmac.Terminal

open Cosmac in
def main (args : List String) : IO UInt32 := do
  let files ← Terminal.filesOf args
  let host := Host.start [] fun _ _ => false
  let logVariable ← IO.getEnv "RUST_LOG"
  let exit ← match Program.start args logVariable files host (← Terminal.entropy) with
    | .ended exit => pure exit
    | .playing p => Terminal.play p
  Terminal.save args files exit.files
  for line in exit.stdout do
    IO.println line
  for line in exit.stderr do
    IO.eprintln line
  return Terminal.exitCode exit
