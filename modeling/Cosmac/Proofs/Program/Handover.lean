import Cosmac.Program
import Cosmac.Proofs.Machine.Reset
import Cosmac.Proofs.Session.Devices
import Mathlib

/-!
# Cosmac — taking the terminal over and giving it back

A run of the program takes the terminal over when there is nothing left that could be wrong with its
command line, its files or its image, and gives it back on every way out.

There are two halves to this. The first is about what happens before the terminal: `start` goes
through its checks one after the other, and each of them either ends the run, with the host as it
was, or lets it pass to the next. What a check asks is put down as data, so that a run that is
declined can be told from its arguments and its files alone. The second half is about the calls. A
run that comes as far as the terminal has one of three transcripts: the terminal was not to be had,
or could not be read from, or was played on. Whatever the main loop comes to, what follows it is the
same closing, so the third has one form for every end.

That a terminal was given back is then a statement about transcripts, and has nothing more to do
with runs.

* `Barred` and `Declined` — what keeps a run from the terminal; `start_cases` — nothing else does.
* `Transcript` is what a run has asked of its host by its end; `exists_calls_followed` — every run
  that goes on to the terminal and exits has one.
* `GivenBack` says what the last calls of a run have to be; `Transcript.givenBack`.
* `terminal_given_back` — a run that is declined makes no call, and one that has taken the terminal
  over ends with the calls that give it back. `run_gives_back` — so does the program itself.
-/

namespace Cosmac.Program

open CommandLine (Arguments)

/-! ## Runs that are declined

The checks come in the order of `start` and `play`: the configuration, the program file, a listing
instead of a run, the filter of the log, the log file, and the image. The last two depend on each
other, as a log file can be the program file. -/

/-- What keeps a run with some arguments from the terminal. -/
inductive Barred (logVariable : Option String) (files : FileTree) (a : Arguments) : Prop
  | config {e : ConfigError} (h : a.config.check = .error e)
  | missing {e : FileError} (h : files.find a.program = .error e)
  | listing (h : a.disassemble = true)
  | filter {text : String} {e : Stopped FilterError} (hgiven : a.logFilter = some text)
    (h : LogFilter.parse text = .error e)
  /-- A filter that the environment sets and that cannot be read is passed over, but reading it may
  crash. -/
  | logVariable {text : String} {c : Crash} (hnone : a.logFilter = none)
    (hset : logVariable = some text) (h : LogFilter.parse text = .error (.crashed c))
  | logFile {e : FileError} (h : files.write a.logFile [] = .error e)
  /-- The log file is emptied first, so it is the files after that which count. -/
  | unreadable {files' : FileTree} {e : FileError} (hwrite : files.write a.logFile [] = .ok files')
    (h : files'.read a.program = .error e)
  | tooLarge {files' : FileTree} {image : List UInt8}
    (hwrite : files.write a.logFile [] = .ok files') (hread : files'.read a.program = .ok image)
    (h : Ram.size < a.config.programAddr.toNat + image.length)

/-- A command line that cannot be followed, or whose arguments keep the run from the terminal. -/
def Declined (args : List String) (logVariable : Option String) (files : FileTree) : Prop :=
  ∀ a, CommandLine.parse args = .ok a → Barred logVariable files a

/-- There is no filter exactly if one that was asked for is wrong, or if none was and reading the
one of the environment crashes. -/
theorem filterOf_eq_error_iff (a : Arguments) (logVariable : Option String)
    (e : Stopped FilterError) :
    filterOf a logVariable = .error e ↔
      (∃ text, a.logFilter = some text ∧ LogFilter.parse text = .error e) ∨
        ∃ text c, a.logFilter = none ∧ logVariable = some text ∧
          LogFilter.parse text = .error (.crashed c) ∧ e = .crashed c := by
  unfold filterOf
  cases hgiven : a.logFilter with
  | some text => simp
  | none =>
    cases hset : logVariable with
    | none => simp
    | some text =>
      -- only a crash of the reader is passed on
      rcases hparse : LogFilter.parse text with (e' | c) | filter
      · simp [hparse]
      · simp [hparse, eq_comm]
      · simp [hparse]

/-! ## Booting

To boot is to power a machine on with the program file as its source, so what is known of new
machines and of loads says when there is a machine to play with, and which one it is. -/

/-- Booting is powering on from the program file, with the event that tells of it. -/
theorem boot_eq_powerOn (a : Arguments) (files : FileTree) (entropy : ChaCha.Key) :
    (boot a files entropy).map (·.1) =
      Machine.powerOn a.config entropy (sourceOf files a.program) := by
  unfold boot Machine.powerOn
  cases Machine.new a.config entropy with
  | error e => rfl
  | ok start =>
    cases hload : start.load (sourceOf files a.program) with
    | error e =>
      simp only [hload]
      rfl
    | ok loaded =>
      simp only [hload]
      rfl

/-- There is a machine to play with where the image can be read and fits. -/
theorem exists_boot_iff {a : Arguments} (hcheck : a.config.check = .ok ()) (files : FileTree)
    (entropy : ChaCha.Key) :
    (∃ booted, boot a files entropy = .ok booted) ↔
      ∃ image, files.read a.program = .ok image ∧
        a.config.programAddr.toNat + image.length ≤ Ram.size := by
  have hvalid : a.config.Valid := (Config.check_eq_ok_iff _).1 hcheck
  -- the options leave the size of the screen alone
  have hsize : a.config.width * a.config.height ≤ Frame.capacity := by
    show 64 * 32 ≤ Frame.capacity
    decide
  have hboot := boot_eq_powerOn a files entropy
  constructor
  · rintro ⟨booted, hbooted⟩
    rw [hbooted] at hboot
    obtain ⟨-, -, hfailure, hfits, -⟩ := (Machine.powerOn_eq_ok_iff _ _ _ _).1 hboot.symm
    unfold sourceOf at hfailure hfits
    cases hread : files.read a.program with
    | error e =>
      simp only [hread, reduceCtorEq] at hfailure
    | ok image =>
      simp only [hread] at hfits
      exact ⟨image, rfl, hfits⟩
  · rintro ⟨image, hread, hfits⟩
    have hsource : sourceOf files a.program = .ofBytes image := by
      simp only [sourceOf, hread, Source.ofBytes]
    -- the image is read, and a machine of a valid configuration has room for it
    have hon := (Machine.powerOn_eq_ok_iff a.config entropy (.ofBytes image) _).2
      ⟨hvalid, hsize, rfl, hfits, rfl⟩
    rw [hsource, hon] at hboot
    cases hbooted : boot a files entropy with
    | error e =>
      simp only [hbooted, Except.map, reduceCtorEq] at hboot
    | ok booted => exact ⟨booted, rfl⟩

/-- A run whose machine has its image: it takes the terminal over, and plays if it gets it. -/
def embark (a : Arguments) (filter : LogFilter) (files : FileTree) (booted : Machine × Event)
    (host : Host) : Start :=
  match connect a booted.1 host with
  | (.error diagnostic, host) =>
    .ended ((Exit.failed diagnostic files host).withLog a.logFile filter #[booted.2])
  | (.ok session, host) => .playing ⟨a, filter, files, session, host, #[booted.2]⟩

/-! ## The checks in their order

Each check is a case distinction on its result. On the way down the cases that end the run are
`Barred` by the check that failed; what is left at the bottom is a run that goes on to the terminal.
-/

/-- A command line that is in order, with a program that is there, is played. -/
theorem start_eq_play {args : List String} {a : Arguments} {files : FileTree} {node : Node}
    (hparse : CommandLine.parse args = .ok a) (hcheck : a.config.check = .ok ())
    (hfind : files.find a.program = .ok node) (hplay : a.disassemble = false) (host : Host)
    (logVariable : Option String) (entropy : ChaCha.Key) :
    start args logVariable files host entropy = play a logVariable files host entropy := by
  simp only [start, hparse, hcheck, hfind, hplay, Bool.false_eq_true, if_false]

/-- With a filter, a log file and a machine there is nothing left to check. -/
theorem play_eq_embark {a : Arguments} {logVariable : Option String} {files files' : FileTree}
    {filter : LogFilter} {booted : Machine × Event} {entropy : ChaCha.Key}
    (hfilter : filterOf a logVariable = .ok filter)
    (hwrite : files.write a.logFile [] = .ok files') (hboot : boot a files' entropy = .ok booted)
    (host : Host) : play a logVariable files host entropy = embark a filter files' booted host := by
  simp only [play, hfilter, hwrite, hboot]
  rfl

/-- An image that cannot be loaded cannot be read or does not fit. -/
theorem barred_of_no_boot {a : Arguments} {files files' : FileTree} {entropy : ChaCha.Key}
    (logVariable : Option String) (hcheck : a.config.check = .ok ())
    (hwrite : files.write a.logFile [] = .ok files')
    (hboot : ¬ ∃ booted, boot a files' entropy = .ok booted) : Barred logVariable files a := by
  rw [exists_boot_iff hcheck] at hboot
  cases hread : files'.read a.program with
  | error e => exact .unreadable hwrite hread
  | ok image =>
    refine .tooLarge hwrite hread ?_
    by_contra hfits
    exact hboot ⟨image, hread, Nat.le_of_not_lt hfits⟩

/-- Arguments that keep a run from the terminal lead to no machine to play with. -/
theorem not_barred_of_boot {a : Arguments} {logVariable : Option String}
    {files files' : FileTree} {node : Node} {filter : LogFilter}
    (hcheck : a.config.check = .ok ()) (hfind : files.find a.program = .ok node)
    (hplay : a.disassemble = false)
    (hfilter : filterOf a logVariable = .ok filter)
    (hwrite : files.write a.logFile [] = .ok files') {image : List UInt8}
    (hread : files'.read a.program = .ok image)
    (hfits : a.config.programAddr.toNat + image.length ≤ Ram.size) :
    ¬ Barred logVariable files a := by
  -- each of the obstacles is a check with the other answer
  rintro (h | h | h | ⟨hgiven, h⟩ | ⟨hnone, hset, h⟩ | h | ⟨hwrite', h⟩ | ⟨hwrite', hread', h⟩)
  · rw [hcheck] at h
    contradiction
  · rw [hfind] at h
    contradiction
  · rw [hplay] at h
    contradiction
  · rw [(filterOf_eq_error_iff a logVariable _).2 (.inl ⟨_, hgiven, h⟩)] at hfilter
    contradiction
  · rw [(filterOf_eq_error_iff a logVariable _).2 (.inr ⟨_, _, hnone, hset, h, rfl⟩)] at hfilter
    contradiction
  · rw [hwrite] at h
    contradiction
  · obtain rfl := Except.ok.inj (hwrite.symm.trans hwrite')
    rw [hread] at h
    contradiction
  · obtain rfl := Except.ok.inj (hwrite.symm.trans hwrite')
    obtain rfl := Except.ok.inj (hread.symm.trans hread')
    exact absurd hfits (Nat.not_le_of_lt h)

/-- What is left to check once the program was found: the filter, the log file and the image. -/
theorem play_cases {a : Arguments} {files : FileTree} {node : Node}
    (hcheck : a.config.check = .ok ()) (hfind : files.find a.program = .ok node)
    (hplay : a.disassemble = false) (logVariable : Option String) (host : Host)
    (entropy : ChaCha.Key) :
    (Barred logVariable files a ∧
        ∃ exit, play a logVariable files host entropy = .ended exit ∧ exit.host = host) ∨
      (¬ Barred logVariable files a ∧ ∃ filter files' booted,
        play a logVariable files host entropy = embark a filter files' booted host) := by
  cases hfilter : filterOf a logVariable with
  | error stopped =>
    have hbarred : Barred logVariable files a := by
      rcases (filterOf_eq_error_iff a logVariable stopped).1 hfilter with
        ⟨text, hgiven, hparse⟩ | ⟨text, c, hnone, hset, hparse, -⟩
      · exact .filter hgiven hparse
      · exact .logVariable hnone hset hparse
    refine .inl ⟨hbarred, ?_⟩
    cases stopped with
    | failed e => exact ⟨.failed e.diagnostic files host, by simp only [play, hfilter], rfl⟩
    | crashed c => exact ⟨.crashed c files host, by simp only [play, hfilter], rfl⟩
  | ok filter =>
    cases hwrite : files.write a.logFile [] with
    | error e =>
      exact .inl ⟨.logFile hwrite, .failed (HostError.file e).diagnostic files host,
        by simp only [play, hfilter, hwrite], rfl⟩
    | ok files' =>
      cases hboot : boot a files' entropy with
      | error stopped =>
        have hnone : ¬ ∃ booted, boot a files' entropy = .ok booted := by
          simp only [hboot, reduceCtorEq, exists_false, not_false_eq_true]
        refine .inl ⟨barred_of_no_boot logVariable hcheck hwrite hnone, ?_⟩
        cases stopped with
        | failed e =>
          exact ⟨.failed e.diagnostic files' host, by simp only [play, hfilter, hwrite, hboot], rfl⟩
        | crashed c =>
          exact ⟨.crashed c files' host, by simp only [play, hfilter, hwrite, hboot], rfl⟩
      | ok booted =>
        -- all three have passed, and there is nothing else that bars a run
        obtain ⟨image, hread, hfits⟩ := (exists_boot_iff hcheck files' entropy).1 ⟨booted, hboot⟩
        exact .inr ⟨not_barred_of_boot hcheck hfind hplay hfilter hwrite hread hfits, filter, files',
          booted, play_eq_embark hfilter hwrite hboot host⟩

/-- **A run is declined and leaves the host alone, or it goes on to the terminal.** -/
theorem start_cases (args : List String) (logVariable : Option String) (files : FileTree)
    (host : Host) (entropy : ChaCha.Key) :
    (Declined args logVariable files ∧
        ∃ exit, start args logVariable files host entropy = .ended exit ∧ exit.host = host) ∨
      (¬ Declined args logVariable files ∧ ∃ a filter files' booted,
        start args logVariable files host entropy = embark a filter files' booted host) := by
  cases hparse : CommandLine.parse args with
  | error e =>
    have hdeclined : Declined args logVariable files := by
      intro a ha
      rw [hparse] at ha
      contradiction
    refine .inl ⟨hdeclined, .usage e files host, by simp only [start, hparse], ?_⟩
    cases e with
    | _ => rfl
  | ok a =>
    have hdeclined : Declined args logVariable files ↔ Barred logVariable files a := by
      simp only [Declined, hparse, Except.ok.injEq, forall_eq']
    rw [hdeclined]
    cases hcheck : a.config.check with
    | error e =>
      exact .inl ⟨.config hcheck, .failed (Failure.invalidConfig e).diagnostic files host,
        by simp only [start, hparse, hcheck], rfl⟩
    | ok _ =>
      cases hfind : files.find a.program with
      | error e =>
        exact .inl ⟨.missing hfind, .failed (HostError.file e).diagnostic files host,
          by simp only [start, hparse, hcheck, hfind], rfl⟩
      | ok node =>
        cases hlist : a.disassemble with
        | true =>
          refine .inl ⟨.listing hlist, list a files host,
            by simp only [start, hparse, hcheck, hfind, hlist, if_true], ?_⟩
          unfold list
          cases files.read a.program with
          | _ => rfl
        | false =>
          -- the command line is in order and the program is there
          rw [start_eq_play hparse hcheck hfind hlist]
          rcases play_cases hcheck hfind hlist logVariable host entropy with h | ⟨hbarred, h⟩
          · exact .inl h
          · exact .inr ⟨hbarred, a, h⟩

/-! ## What is asked of the host

Opening the display is a row of calls that stops at the first refusal. Opening the keyboard is one
call; if that is refused the display is closed again. -/

/-- The calls that take the terminal over, to draw on it. -/
def takeover : List HostCall :=
  [.enterAlternateScreen, .openTerminal, .hideCursor, .clear]

/-- The terminal is taken over. -/
def opened : List CallRecord :=
  takeover.map (·.carriedOut)

/-- What a run that goes on to the terminal has asked of its host by its end. -/
inductive Transcript : List CallRecord → Prop
  /-- The terminal was not to be had. -/
  | refused {earlier later : List HostCall} {c : HostCall} (h : takeover = earlier ++ c :: later) :
    Transcript (earlier.map (·.carriedOut) ++ [⟨c, false⟩])
  /-- It could be drawn on, but not be read from. -/
  | unheard {closing : List CallRecord}
    (h : closing.map (·.call) = [.showCursor, .leaveAlternateScreen]) :
    Transcript (opened ++ ⟨.enterRawMode, false⟩ :: closing)
  | played {output closing : List CallRecord} (houtput : ∀ r ∈ output, r.call.isOutput = true)
    (h : closing.map (·.call) = [.leaveRawMode, .showCursor, .leaveAlternateScreen]) :
    Transcript (opened ++ ⟨.enterRawMode, true⟩ :: (output ++ closing))

/-- What a host has recorded since there were `before` its calls. -/
def Transcribed (before after : Host) : Prop :=
  ∃ records, after.calls.toList = before.calls.toList ++ records ∧ Transcript records

/-- The terminal is drawn on after all calls of the takeover, or one of them was refused. -/
theorem openDisplay_cases (width height : Nat) (host : Host) :
    (∃ e host', Display.openTerminal width height host = (.error e, host') ∧
        Transcribed host host') ∨
      ∃ host', Display.openTerminal width height host = (.ok (.terminal width height), host') ∧
        host'.calls.toList = host.calls.toList ++ opened := by
  unfold Display.openTerminal
  rcases host.callInTurn_cases takeover with
    ⟨host', hturn, hcalls⟩ | ⟨e, host', earlier, c, later, hturn, hsplit, hcalls⟩
  · refine .inr ⟨host', ?_, hcalls⟩
    simp only [takeover] at hturn
    rw [hturn]
  · refine .inl ⟨e, host', ?_, _, hcalls, .refused hsplit⟩
    simp only [takeover] at hturn
    rw [hturn]

/-- Reading from the terminal is one call. -/
theorem openKeyboard_cases (keymap : KeyMap) (host : Host) :
    (∃ e host', InputDevice.openTerminal keymap host = (.error e, host') ∧
        host'.calls.toList = host.calls.toList ++ [⟨.enterRawMode, false⟩]) ∨
      ∃ keyboard host',
        InputDevice.openTerminal keymap host = (.ok (.terminal keyboard), host') ∧
          host'.calls.toList = host.calls.toList ++ [⟨.enterRawMode, true⟩] := by
  unfold InputDevice.openTerminal
  rcases host.call_cases .enterRawMode with hcall | hcall
  · rw [hcall]
    exact .inr ⟨_, _, rfl, Array.toList_push⟩
  · rw [hcall]
    exact .inl ⟨_, _, rfl, Array.toList_push⟩

/-- Both devices of the terminal are given back, the keyboard first. -/
theorem exists_close (keyboard : Keyboard) (width height : Nat) (host : Host) :
    ∃ closing, ((Display.terminal width height).close
        ((InputDevice.terminal keyboard).close host)).calls.toList =
          host.calls.toList ++ closing ∧
      closing.map (·.call) = [.leaveRawMode, .showCursor, .leaveAlternateScreen] := by
  obtain ⟨cooked, hcooked, hcall⟩ := host.exists_callAll [.leaveRawMode]
  obtain ⟨closed, hclosed, hcalls⟩ :=
    (host.callAll [.leaveRawMode]).exists_callAll [.showCursor, .leaveAlternateScreen]
  refine ⟨cooked ++ closed, ?_, ?_⟩
  · simp only [InputDevice.close, Display.close]
    rw [hclosed, hcooked, List.append_assoc]
  · rw [List.map_append, hcall, hcalls]
    rfl

/-- A session has both devices; without a session, what was opened is closed again. -/
theorem connect_cases (a : Arguments) (machine : Machine) (host : Host) :
    (∃ diagnostic host', connect a machine host = (.error diagnostic, host') ∧
        Transcribed host host') ∨
      ∃ session host', connect a machine host = (.ok session, host') ∧ session.OnTerminal ∧
        host'.calls.toList = host.calls.toList ++ (opened ++ [⟨.enterRawMode, true⟩]) := by
  rcases openDisplay_cases a.config.width a.config.height host with
    ⟨e, host', hopen, htranscribed⟩ | ⟨host₁, hopen, hcalls⟩
  · exact .inl ⟨e.diagnostic, host', by simp only [connect, hopen], htranscribed⟩
  rcases openKeyboard_cases a.keymap.keymap host₁ with
    ⟨e, host₂, hinput, hcalls'⟩ | ⟨keyboard, host₂, hinput, hcalls'⟩
  · -- the keyboard is not to be had, so the display is given back at once
    obtain ⟨closing, hclose, hclosing⟩ := host₂.exists_callAll [.showCursor, .leaveAlternateScreen]
    refine .inl ⟨e.diagnostic, host₂.callAll [.showCursor, .leaveAlternateScreen],
      by simp only [connect, hopen, hinput, Display.close], _, ?_, .unheard hclosing⟩
    rw [hclose, hcalls', hcalls]
    simp only [List.append_assoc, List.singleton_append]
  -- what is left to go wrong are the rates of the configuration
  cases hscheduler : Scheduler.new a.config with
  -- both devices are there, and both are given back without a session
  | error e =>
    obtain ⟨closing, hclose, hclosing⟩ := exists_close keyboard a.config.width a.config.height host₂
    refine .inl ⟨e.diagnostic, _, by simp only [connect, hopen, hinput, Session.new, hscheduler]; rfl,
      _, ?_, @Transcript.played [] closing (List.forall_mem_nil _) hclosing⟩
    rw [hclose, hcalls', hcalls]
    simp only [List.append_assoc, List.singleton_append, List.nil_append]
  | ok scheduler =>
    refine .inr ⟨_, host₂, by simp only [connect, hopen, hinput, Session.new, hscheduler]; rfl,
      ⟨⟨keyboard, rfl⟩, _, _, rfl⟩, ?_⟩
    rw [hcalls', hcalls, List.append_assoc]

/-! ## Whole runs

How long a main loop is followed is a parameter, so that what is proved holds of runs that nothing
ends from within as well. -/

/-- A run whose main loop is followed for so many rounds, whatever ends it within them. -/
def followed (rounds : Nat) (args : List String) (logVariable : Option String) (files : FileTree)
    (host : Host) (entropy : ChaCha.Key) (clock : Nat → Nat) : Exit :=
  match start args logVariable files host entropy with
  | .ended exit => exit
  | .playing p => p.finish (p.session.mainLoop p.host p.limit clock rounds)

/-- A run is followed to its end where its limit or its input sets one. -/
theorem exists_run_eq_followed (args : List String) (logVariable : Option String)
    (files : FileTree) (host : Host) (entropy : ChaCha.Key) (clock : Nat → Nat) :
    ∃ rounds, run args logVariable files host entropy clock =
      followed rounds args logVariable files host entropy clock := by
  unfold run followed
  cases start args logVariable files host entropy with
  | ended exit => exact ⟨0, rfl⟩
  | playing p => exact ⟨_, rfl⟩

theorem host_withLog (e : Exit) (path : String) (filter : LogFilter) (log : Log) :
    (e.withLog path filter log).host = e.host ∧ (e.withLog path filter log).status = e.status := by
  simp only [Exit.withLog]
  split
  · exact ⟨rfl, rfl⟩
  · exact ⟨rfl, rfl⟩

/-- Whatever the main loop came to, the devices are given back. -/
theorem finish_cases (p : Playing) (l : Session.MainLoop) :
    (p.finish l).status = .unfinished ∧ (p.finish l).host = l.host ∨
      (p.finish l).host = l.session.display.close (l.session.input.close l.host) := by
  unfold Playing.finish
  rw [(host_withLog _ _ _ _).1, (host_withLog _ _ _ _).2]
  cases l.result with
  | finished summary => exact .inr rfl
  | failed e => exact .inr rfl
  | crashed c => exact .inr rfl
  | unfinished => exact .inl ⟨rfl, rfl⟩

/-- From opening to closing, a run plays. -/
theorem finish_mainLoop_cases {p : Playing} (hterminal : p.session.OnTerminal)
    {earlier : List CallRecord}
    (hcalls : p.host.calls.toList = earlier ++ (opened ++ [⟨.enterRawMode, true⟩]))
    (clock : Nat → Nat) (rounds : Nat) :
    let exit := p.finish (p.session.mainLoop p.host p.limit clock rounds)
    ∃ output : List CallRecord, (∀ r ∈ output, r.call.isOutput = true) ∧
      (exit.status = .unfinished ∧
          exit.host.calls.toList = earlier ++ (opened ++ ⟨.enterRawMode, true⟩ :: output) ∨
        ∃ closing : List CallRecord,
          closing.map (·.call) = [.leaveRawMode, .showCursor, .leaveAlternateScreen] ∧
          exit.host.calls.toList =
            earlier ++ (opened ++ ⟨.enterRawMode, true⟩ :: (output ++ closing))) := by
  intro exit
  have hplays := p.session.plays_mainLoop p.host p.limit clock rounds
  obtain ⟨output, hmiddle, houtput⟩ := hplays.calls
  obtain ⟨⟨keyboard, hinput⟩, width, height, hdisplay⟩ := hplays.devices hterminal
  -- between opening and closing there are pictures and sounds only
  have hgiven : (p.session.mainLoop p.host p.limit clock rounds).host.calls.toList =
      earlier ++ (opened ++ ⟨.enterRawMode, true⟩ :: output) := by
    refine hmiddle.trans ?_
    simp only [hcalls, List.append_assoc, List.singleton_append]
  refine ⟨output, houtput, ?_⟩
  rcases finish_cases p (p.session.mainLoop p.host p.limit clock rounds) with
    ⟨hstatus, hhost⟩ | hhost
  · exact .inl ⟨hstatus, by rw [hhost, hgiven]⟩
  · obtain ⟨closing, hclose, hclosing⟩ := exists_close keyboard width height
      (p.session.mainLoop p.host p.limit clock rounds).host
    rw [← hinput, ← hdisplay] at hclose
    refine .inr ⟨closing, hclosing, ?_⟩
    rw [hhost]
    refine hclose.trans ?_
    simp only [hgiven, List.append_assoc, List.cons_append]

/-- A run that goes on to the terminal asks for something. -/
theorem Transcript.ne_nil {records : List CallRecord} (h : Transcript records) : records ≠ [] := by
  cases h with
  | _ => simp

/-- **A run that is not declined makes calls, and when it exits they are a transcript.** -/
theorem exists_calls_followed {args : List String} {logVariable : Option String}
    {files : FileTree} (h : ¬ Declined args logVariable files) (host : Host) (entropy : ChaCha.Key)
    (clock : Nat → Nat) (rounds : Nat) :
    let exit := followed rounds args logVariable files host entropy clock
    ∃ records, exit.host.calls.toList = host.calls.toList ++ records ∧ records ≠ [] ∧
      ∀ code, exit.status = .exited code → Transcript records := by
  intro exit
  rcases start_cases args logVariable files host entropy with
    ⟨hdeclined, -⟩ | ⟨-, a, filter, files', booted, hstart⟩
  · exact absurd hdeclined h
  rcases connect_cases a booted.1 host with
    ⟨diagnostic, host', hconnect, records, hcalls, htranscript⟩ |
      ⟨session, host', hconnect, hterminal, hcalls⟩
  · -- there is no session, and what was opened is closed already
    have hexit : exit.host = host' := by
      simp only [exit, followed, hstart, embark, hconnect, (host_withLog _ _ _ _).1]
      rfl
    exact ⟨records, by rw [hexit, hcalls], htranscript.ne_nil, fun _ _ => htranscript⟩
  · -- the session runs its main loop and is closed
    let p : Playing := ⟨a, filter, files', session, host', #[booted.2]⟩
    have hexit : exit = p.finish (p.session.mainLoop p.host p.limit clock rounds) := by
      simp only [exit, followed, hstart, embark, hconnect, p]
    have hcases := @finish_mainLoop_cases p hterminal _ hcalls clock rounds
    rw [← hexit] at hcases
    obtain ⟨output, houtput, ⟨hstatus, hall⟩ | ⟨closing, hclosing, hall⟩⟩ := hcases
    · refine ⟨_, hall, by simp, ?_⟩
      intro code hexited
      rw [hstatus] at hexited
      contradiction
    · exact ⟨_, hall, by simp, fun _ _ => .played houtput hclosing⟩

/-! ## The terminal afterwards

On a transcript all calls but those to draw and to play are known, so the closing calls can be
counted: each of them is made once, and none before the end. Whether a call of the closing was
carried out does not matter, as nothing could be done about it; it has been made. -/

/-- The terminal is given back: by the last two calls, after the keyboard, if that was taken over,
and by none before. -/
structure GivenBack (calls : List CallRecord) : Prop where
  last : [.showCursor, .leaveAlternateScreen] <:+ calls.map (·.call)
  cursor : (calls.map (·.call)).count .showCursor = 1
  screen : (calls.map (·.call)).count .leaveAlternateScreen = 1
  keyboard : ⟨.enterRawMode, true⟩ ∈ calls ↔
    [.leaveRawMode, .showCursor, .leaveAlternateScreen] <:+ calls.map (·.call)
  keyboardOnce : (calls.map (·.call)).count .leaveRawMode =
    if ⟨.enterRawMode, true⟩ ∈ calls then 1 else 0

/-- What is drawn and heard is none of the other calls. -/
theorem count_around_output {output : List CallRecord} (h : ∀ r ∈ output, r.call.isOutput = true)
    (before after : List HostCall) {c : HostCall} (hc : c.isOutput = false) :
    (before ++ (output.map (·.call) ++ after)).count c = (before ++ after).count c := by
  have hnone : (output.map (·.call)).count c = 0 := by
    rw [List.count_eq_zero]
    intro hmem
    obtain ⟨r, hr, rfl⟩ := List.mem_map.1 hmem
    rw [h r hr] at hc
    contradiction
  rw [List.count_append, List.count_append, hnone, Nat.zero_add, List.count_append]

/-- A takeover that was refused is not one that was carried out. -/
theorem not_opened_of_refused {earlier later : List HostCall} {c : HostCall}
    (h : takeover = earlier ++ c :: later) :
    ¬ opened <+: earlier.map (·.carriedOut) ++ [⟨c, false⟩] := by
  intro hopened
  have hsplit : opened = earlier.map (·.carriedOut) ++ (c.carriedOut :: later.map (·.carriedOut)) := by
    rw [opened, h, List.map_append, List.map_cons]
  rw [hsplit, List.prefix_append_right_inj, List.cons_prefix_cons] at hopened
  exact absurd hopened.1 (by simp [HostCall.carriedOut])

/-- Without the keyboard the closing is that of the display. -/
theorem givenBack_of_unheard {closing : List CallRecord}
    (h : closing.map (·.call) = [.showCursor, .leaveAlternateScreen]) :
    GivenBack (opened ++ ⟨.enterRawMode, false⟩ :: closing) := by
  have hmap : (opened ++ ⟨.enterRawMode, false⟩ :: closing).map (·.call) =
      takeover ++ [.enterRawMode, .showCursor, .leaveAlternateScreen] := by
    rw [List.map_append, List.map_cons, h]
    rfl
  -- the keyboard was asked for, but not taken over
  have hraw : ⟨.enterRawMode, true⟩ ∉ opened ++ ⟨.enterRawMode, false⟩ :: closing := by
    have hclosing : ⟨.enterRawMode, true⟩ ∉ closing := by
      intro hmem
      have hcall : HostCall.enterRawMode ∈ closing.map (·.call) := List.mem_map_of_mem hmem
      rw [h] at hcall
      contradiction
    simp [opened, takeover, HostCall.carriedOut, hclosing]
  refine ⟨?_, ?_, ?_, ?_, ?_⟩
  · rw [hmap]
    decide
  · rw [hmap]
    rfl
  · rw [hmap]
    rfl
  · rw [hmap]
    exact iff_of_false hraw (by decide)
  · rw [hmap, if_neg hraw]
    rfl

/-- What was drawn and heard in between is none of the calls that are counted. -/
theorem givenBack_of_played {output closing : List CallRecord}
    (houtput : ∀ r ∈ output, r.call.isOutput = true)
    (h : closing.map (·.call) = [.leaveRawMode, .showCursor, .leaveAlternateScreen]) :
    GivenBack (opened ++ ⟨.enterRawMode, true⟩ :: (output ++ closing)) := by
  have hmap : (opened ++ ⟨.enterRawMode, true⟩ :: (output ++ closing)).map (·.call) =
      (takeover ++ [.enterRawMode]) ++ (output.map (·.call) ++
        [.leaveRawMode, .showCursor, .leaveAlternateScreen]) := by
    rw [List.map_append, List.map_cons, List.map_append, h]
    rfl
  have hraw : ⟨.enterRawMode, true⟩ ∈ opened ++ ⟨.enterRawMode, true⟩ :: (output ++ closing) :=
    List.mem_append_right _ List.mem_cons_self
  -- the keyboard was taken over, and is given back right before the display
  have hsuffix : [.leaveRawMode, .showCursor, .leaveAlternateScreen] <:+
      (opened ++ ⟨.enterRawMode, true⟩ :: (output ++ closing)).map (·.call) := by
    rw [hmap, ← List.append_assoc]
    exact List.suffix_append _ _
  refine ⟨(List.suffix_cons _ _).trans hsuffix, ?_, ?_, iff_of_true hraw hsuffix, ?_⟩
  · rw [hmap, count_around_output houtput _ _ rfl]
    rfl
  · rw [hmap, count_around_output houtput _ _ rfl]
    rfl
  · rw [hmap, count_around_output houtput _ _ rfl, if_pos hraw]
    rfl

/-- A transcript that begins with a whole takeover ends with its undoing. -/
theorem Transcript.givenBack {calls : List CallRecord} (h : Transcript calls)
    (hopened : opened <+: calls) : GivenBack calls := by
  cases h with
  | refused h => exact absurd hopened (not_opened_of_refused h)
  | unheard h => exact givenBack_of_unheard h
  | played houtput h => exact givenBack_of_played houtput h

section

variable (args : List String) (logVariable : Option String) (files : FileTree)
  (queue : List TerminalEvent) (refuses : Nat → HostCall → Bool) (entropy : ChaCha.Key)
  (clock : Nat → Nat)

/-- A run makes no call exactly if it is declined. -/
theorem calls_followed_eq_empty_iff (rounds : Nat) :
    (followed rounds args logVariable files (.start queue refuses) entropy clock).host.calls = #[] ↔
      Declined args logVariable files := by
  by_cases hdeclined : Declined args logVariable files
  · -- a run that is declined has left the host as it was, which had no calls
    refine iff_of_true ?_ hdeclined
    rcases start_cases args logVariable files (.start queue refuses) entropy with
      ⟨-, ended, hstart, hhost⟩ | ⟨hnot, -⟩
    · simp only [followed, hstart, hhost]
      rfl
    · exact absurd hdeclined hnot
  · obtain ⟨records, hcalls, hne, -⟩ :=
      exists_calls_followed hdeclined (.start queue refuses) entropy clock rounds
    refine iff_of_false ?_ hdeclined
    intro hnone
    rw [hnone] at hcalls
    exact hne hcalls.symm

/-- A run that has taken the terminal over was not declined, so its calls are a transcript. -/
theorem givenBack_of_exited {rounds code : Nat}
    (hexited : (followed rounds args logVariable files (.start queue refuses) entropy clock).status =
      .exited code)
    (hopened : opened <+: (followed rounds args logVariable files (.start queue refuses) entropy
      clock).host.calls.toList) :
    GivenBack (followed rounds args logVariable files (.start queue refuses) entropy
      clock).host.calls.toList := by
  -- a run that is declined makes no call, and the takeover is some
  have hplayed : ¬ Declined args logVariable files := by
    intro hdeclined
    rw [(calls_followed_eq_empty_iff args logVariable files queue refuses entropy clock rounds).2
      hdeclined] at hopened
    exact absurd (List.prefix_nil.1 hopened) (by decide)
  obtain ⟨records, hcalls, -, htranscript⟩ :=
    exists_calls_followed hplayed (.start queue refuses) entropy clock rounds
  have hrecords : (followed rounds args logVariable files (.start queue refuses) entropy
      clock).host.calls.toList = records := hcalls
  rw [hrecords] at hopened ⊢
  exact (htranscript code hexited).givenBack hopened

end

/-- **The terminal is taken over late and given back.** A run makes no call exactly if it is
declined. One that has taken the terminal over and exits, after however many rounds and whatever it
was ended by, has given it back with its last calls. -/
theorem terminal_given_back (args : List String) (logVariable : Option String) (files : FileTree)
    (queue : List TerminalEvent) (refuses : Nat → HostCall → Bool) (entropy : ChaCha.Key)
    (clock : Nat → Nat) (rounds : Nat) :
    let exit := followed rounds args logVariable files (.start queue refuses) entropy clock
    (exit.host.calls = #[] ↔ Declined args logVariable files) ∧
      (∀ code, exit.status = .exited code → opened <+: exit.host.calls.toList →
        GivenBack exit.host.calls.toList) :=
  ⟨calls_followed_eq_empty_iff args logVariable files queue refuses entropy clock rounds,
    fun _ => givenBack_of_exited args logVariable files queue refuses entropy clock⟩

/-- The program itself follows its main loop for as many rounds as it takes, so all of this holds of
its runs. -/
theorem run_gives_back (args : List String) (logVariable : Option String) (files : FileTree)
    (queue : List TerminalEvent) (refuses : Nat → HostCall → Bool) (entropy : ChaCha.Key)
    (clock : Nat → Nat) :
    let exit := run args logVariable files (.start queue refuses) entropy clock
    (exit.host.calls = #[] ↔ Declined args logVariable files) ∧
      (∀ code, exit.status = .exited code → opened <+: exit.host.calls.toList →
        GivenBack exit.host.calls.toList) := by
  intro exit
  obtain ⟨rounds, hrun⟩ :=
    exists_run_eq_followed args logVariable files (.start queue refuses) entropy clock
  simp only [exit, hrun]
  exact ⟨calls_followed_eq_empty_iff args logVariable files queue refuses entropy clock rounds,
    fun _ => givenBack_of_exited args logVariable files queue refuses entropy clock⟩

/-! ## A run whose first picture is refused -/

/-- A command line that names a program and a log file. -/
def ufoArguments : Arguments :=
  { CommandLine.Draft.standard with program := "ufo", logFile := "log" }

/-- The program `1200`, which stays where it starts. -/
def ufoFiles : FileTree where
  directory := []
  nodes := [(["ufo"], .file [0x12, 0x00])]
  refusals := []

/-- All other options are those of the standard configuration. -/
theorem valid_ufoArguments : ufoArguments.config.Valid :=
  (Config.check_eq_ok_iff _).1 rfl

/-- The program is found and loaded, so the run goes on to the terminal. -/
theorem exists_start_ufo (host : Host) :
    ∃ files' booted, start ["ufo", "--log-file", "log"] none ufoFiles host (Seed.key 0) =
        embark ufoArguments .standard files' booted host ∧
      booted.1 =
        Machine.fresh ufoArguments.config valid_ufoArguments (.ofSeed 0) [0x12, 0x00] := by
  have hprogram : Path.parse "ufo" = .ok ⟨false, ["ufo"], false⟩ := by cbv
  have hlog : Path.parse "log" = .ok ⟨false, ["log"], false⟩ := by cbv
  have hparse : CommandLine.parse ["ufo", "--log-file", "log"] = .ok ufoArguments := by
    decide +kernel
  have hfind : ufoFiles.find "ufo" = .ok (.file [0x12, 0x00]) := by
    simp only [FileTree.find, FileTree.locate, hprogram]
    rfl
  -- the log file is made before the program is read
  let files' : FileTree := { ufoFiles with nodes := (["log"], .file []) :: ufoFiles.nodes }
  have hwrite : ufoFiles.write "log" [] = .ok files' := by
    simp only [FileTree.write, hlog]
    rfl
  have hread : files'.read "ufo" = .ok [0x12, 0x00] := by
    simp only [FileTree.read, FileTree.locate, hprogram]
    rfl
  have hboot := boot_eq_powerOn ufoArguments files' (Seed.key 0)
  obtain ⟨booted, hbooted⟩ :=
    (@exists_boot_iff ufoArguments rfl files' (Seed.key 0)).2 ⟨_, hread, by decide⟩
  rw [hbooted] at hboot
  obtain ⟨hvalid, -, -, -, hmachine⟩ := (Machine.powerOn_eq_ok_iff _ _ _ _).1 hboot.symm
  refine ⟨files', booted, ?_, ?_⟩
  · rw [start_eq_play hparse rfl hfind rfl, play_eq_embark rfl hwrite hbooted]
  · -- making it has left the program as it was
    have hsource : (sourceOf files' ufoArguments.program).bytes = [0x12, 0x00] := by
      show (sourceOf files' "ufo").bytes = _
      simp only [sourceOf, hread]
    rw [hsource] at hmachine
    exact hmachine

/-- The host refuses the first picture: the run fails, and gives both devices back. -/
theorem given_back_after_refused_picture :
    let host := Host.start [] fun _ c => c matches .draw _
    let exit := followed 1 ["ufo", "--log-file", "log"] none ufoFiles host (Seed.key 0) fun _ => 16666667
    exit.status = .exited 1 ∧ opened <+: exit.host.calls.toList ∧
      ⟨.enterRawMode, true⟩ ∈ exit.host.calls.toList ∧ GivenBack exit.host.calls.toList := by
  intro host exit
  obtain ⟨files', booted, hstart, hmachine⟩ := exists_start_ufo host
  -- the frame of the first batch is due, and drawing it is refused
  have hrun : ((connect ufoArguments booted.1 host).1.toOption.map fun session =>
      (session.mainLoop (connect ufoArguments booted.1 host).2 none (fun _ => 16666667) 1).result) =
        some (.failed (.io (.refused "draw"))) := by
    rw [hmachine]
    decide +kernel
  rcases connect_cases ufoArguments booted.1 host with
    ⟨diagnostic, host', hconnect, -⟩ | ⟨session, host', hconnect, hterminal, hcalls⟩
  · rw [hconnect] at hrun
    contradiction
  rw [hconnect] at hrun
  let p : Playing := ⟨ufoArguments, .standard, files', session, host', #[booted.2]⟩
  have hexit : exit = p.finish (p.session.mainLoop p.host p.limit (fun _ => 16666667) 1) := by
    simp only [exit, followed, hstart, embark, hconnect, p]
  have hresult : (p.session.mainLoop p.host p.limit (fun _ => 16666667) 1).result =
      .failed (.io (.refused "draw")) := Option.some.inj hrun
  have hstatus : exit.status = .exited 1 := by
    rw [hexit, Playing.finish, (host_withLog _ _ _ _).2, hresult]
    rfl
  have hcases := @finish_mainLoop_cases p hterminal _ hcalls (fun _ => 16666667) 1
  rw [← hexit] at hcases
  obtain ⟨output, -, ⟨hunfinished, -⟩ | ⟨closing, -, hall⟩⟩ := hcases
  · rw [hstatus] at hunfinished
    contradiction
  have hopened : opened <+: exit.host.calls.toList := ⟨_, hall.symm⟩
  refine ⟨hstatus, hopened, ?_, ?_⟩
  · rw [hall]
    exact List.mem_append_right _ (List.mem_append_right _ List.mem_cons_self)
  · exact (terminal_given_back ["ufo", "--log-file", "log"] none ufoFiles [] _ (Seed.key 0)
      (fun _ => 16666667) 1).2 1 hstatus hopened

end Cosmac.Program
