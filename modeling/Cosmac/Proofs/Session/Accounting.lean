import Cosmac.Proofs.Scheduler.Tallies
import Cosmac.Proofs.Session.Buzzer
import Mathlib.Algebra.Ring.Nat

/-!
# Cosmac — the books of a main loop

A main loop that is finished reports totals. They are sums over its batches: as many batches as
polls that wanted to go on, the steps and the faults of these batches, and a frame for each time
that the display was drawn on.

A total alone does not say what it is the total of. So there are books, with an entry for each
batch: the report, and the frame as it stood when the batch had run. The books are tied to the world
at every entry: the poll that let the batch run, the batch itself, which balances by what is known
of the scheduler, and the frame that was shown or not. Totals are then sums over entries by one
induction along the course of the loop, and what the display was shown, by another.

* `Drew` says which frames a display was shown between two moments, by what the host has recorded or
  the display has counted.
* `Books` is a row of cycles that ran to their end, with an entry for each; `books_of_course` —
  every main loop has them.
* `Summed` says what entries add to totals.
* `books_balance` — for every session that has come from a configuration, whatever was done with it
  before: the totals of a main loop are those of its books, and so are the frames that were shown.
-/

namespace Cosmac

open Session

/-! ## Frames that are shown

A terminal is drawn on by a call to the host, with a picture of the frame. A frame that cannot be
shown ends the cycle, so in what follows every frame that was due is one that was drawn. -/

/-- Whether a call is made to the display. -/
def CallRecord.isDraw (r : CallRecord) : Bool :=
  match r.call with
  | .draw _ => true
  | _ => false

/-- What shows of the frames that a display was shown, before and after. Of a terminal the host
records the pictures; a display of no host counts its frames and has the last one. -/
inductive Display.Showed (records : List CallRecord) (frames : List Frame) :
    Display → Display → Prop
  | terminal {width height : Nat}
    (h : records.filter (·.isDraw) = frames.map fun f => ⟨.draw (.ofFrame f), true⟩) :
    Showed records frames (.terminal width height) (.terminal width height)
  | recorder {count : Nat} {last : Option Frame} (h : records.filter (·.isDraw) = []) :
    Showed records frames (.recorder count last)
      (.recorder (count + frames.length) (frames.getLast?.or last))

/-- From one scene to a later one, the display was shown these frames, one after the other, and no
call to draw has failed. -/
def Drew (before after : Scene) (frames : List Frame) : Prop :=
  ∃ records, after.host.calls.toList = before.host.calls.toList ++ records ∧
    Display.Showed records frames before.session.display after.session.display

theorem Display.showed_nil (d : Display) {records : List CallRecord}
    (h : records.filter (·.isDraw) = []) : Showed records [] d d := by
  cases d with
  | terminal width height => exact .terminal h
  | recorder count last => exact .recorder h

/-- What shows of two stretches shows of both of them together. -/
theorem Display.Showed.trans {records records' : List CallRecord} {frames frames' : List Frame}
    {d d' d'' : Display} (h : Showed records frames d d') (h' : Showed records' frames' d' d'') :
    Showed (records ++ records') (frames ++ frames') d d'' := by
  cases h with
  | terminal hshown =>
    cases h' with
    | terminal hshown' =>
      refine .terminal ?_
      rw [List.filter_append, hshown, hshown', List.map_append]
  -- a later frame takes the place of the last one; without any, that stays
  | recorder hshown =>
    cases h' with
    | recorder hshown' =>
      rw [Nat.add_assoc, ← List.length_append, ← Option.or_assoc, ← List.getLast?_append]
      refine .recorder ?_
      rw [List.filter_append, hshown, hshown', List.append_nil]

/-- The frames of two stretches are shown one stretch after the other. -/
theorem Drew.trans {a b c : Scene} {frames frames' : List Frame} (h : Drew a b frames)
    (h' : Drew b c frames') : Drew a c (frames ++ frames') := by
  obtain ⟨records, hcalls, hshowed⟩ := h
  obtain ⟨records', hcalls', hshowed'⟩ := h'
  refine ⟨records ++ records', ?_, hshowed.trans hshowed'⟩
  rw [hcalls', hcalls, List.append_assoc]

/-- Nothing was shown where the host was not called and the display is the same. -/
theorem Drew.of_calls_eq {before after : Scene}
    (hdisplay : after.session.display = before.session.display)
    (hcalls : after.host.calls = before.host.calls) : Drew before after [] := by
  refine ⟨[], by rw [hcalls, List.append_nil], ?_⟩
  rw [hdisplay]
  exact Display.showed_nil _ rfl

/-- A frame has one picture, if it has any. -/
theorem Picture.eq_of_ofFrame? {f : Frame} {picture : Picture} (h : ofFrame? f = .ok picture) :
    picture = .ofFrame f := by
  unfold ofFrame? at h
  split at h
  · exact (Except.ok.inj h).symm
  · contradiction

/-- A terminal that shows a frame is drawn on once, with the picture of that frame. -/
theorem Display.eq_of_present_terminal {width height : Nat} {d : Display} {host host' : Host}
    {f : Frame} (h : (terminal width height).present host f = (.ok (), d, host')) :
    d = .terminal width height ∧
      host' = { host with calls := host.calls.push ⟨.draw (.ofFrame f), true⟩ } := by
  by_cases hsize : f.width = width ∧ f.height = height
  · simp only [present, if_pos hsize] at h
    cases hpicture : Picture.ofFrame? f with
    | error c => simp [hpicture] at h
    | ok picture =>
      obtain rfl := Picture.eq_of_ofFrame? hpicture
      rcases host.call_cases (.draw (.ofFrame f)) with hcall | hcall
      · simp only [hpicture, hcall, Prod.mk.injEq] at h
        exact ⟨h.2.1.symm, h.2.2.symm⟩
      · simp [hpicture, hcall, Except.mapError] at h
  · -- a frame of another size is not shown
    simp [present, hsize] at h

/-- A display that was shown a frame has it. -/
theorem Display.showed_present {d d' : Display} {host host' : Host} {f : Frame}
    (h : d.present host f = (.ok (), d', host')) :
    ∃ records, host'.calls.toList = host.calls.toList ++ records ∧ Showed records [f] d d' := by
  cases d with
  | recorder count last =>
    simp only [present, Prod.mk.injEq] at h
    obtain ⟨-, rfl, rfl⟩ := h
    exact ⟨[], (List.append_nil _).symm, .recorder rfl⟩
  | terminal width height =>
    obtain ⟨rfl, rfl⟩ := eq_of_present_terminal h
    exact ⟨_, Array.toList_push, .terminal rfl⟩

namespace Session

/-! ## What display and speaker leave alone

Neither has a say in the machine or in the scheduler, and the speaker has none in what is shown. -/

variable {s s' : Session} {host host' : Host}

/-- Showing a frame concerns the display and its host alone. -/
theorem machine_and_scheduler_of_present {due : Bool} {shown : Except (Stopped HostError) Unit}
    (h : s.present host due = (shown, s', host')) :
    s'.machine = s.machine ∧ s'.scheduler = s.scheduler := by
  obtain rfl : (s.present host due).2.1 = s' := by rw [h]
  cases due with
  | _ => exact ⟨rfl, rfl⟩

/-- A frame that is due is shown once, and one that is not due is not shown. -/
theorem drew_of_present {due : Bool}
    (h : s.present host due = (.ok (), s', host')) :
    Drew ⟨s, host⟩ ⟨s', host'⟩ (if due then [s.machine.screen.frame] else []) := by
  cases due with
  | false =>
    obtain ⟨rfl, rfl⟩ : s = s' ∧ host = host' := by simpa [present] using h
    exact .of_calls_eq rfl rfl
  | true =>
    rcases hshown : s.display.present host s.machine.screen.frame with ⟨result, display, host''⟩
    simp only [present, hshown, if_true, Prod.mk.injEq] at h
    obtain ⟨rfl, rfl, rfl⟩ := h
    exact Display.showed_present hshown

/-- The buzzer concerns the speaker alone. -/
theorem eq_of_soundAs {active : Bool} {switched : Except HostError Unit}
    (h : s.soundAs host active = (switched, s', host')) :
    (∃ speaker sounding, s' = { s with speaker, sounding }) ∧ Drew ⟨s, host⟩ ⟨s', host'⟩ [] := by
  obtain ⟨rfl, rfl⟩ : (s.soundAs host active).2.1 = s' ∧ (s.soundAs host active).2.2 = host' := by
    rw [h]
    exact ⟨rfl, rfl⟩
  clear h
  unfold soundAs
  split
  · exact ⟨⟨s.speaker, s.sounding, rfl⟩, .of_calls_eq rfl rfl⟩
  · cases hspeaker : s.speaker with
    | mute starts stops =>
      cases active with
      | _ => exact ⟨⟨_, _, rfl⟩, .of_calls_eq rfl rfl⟩
    -- the call is on record, but it is not one to draw
    | beeper beeping =>
      rcases host.call_cases (.sound (if active then Speaker.pitch else 0)) with hcall | hcall
      · simp only [Speaker.switch, hcall]
        exact ⟨⟨_, _, rfl⟩, [⟨.sound (if active then Speaker.pitch else 0), true⟩],
          Array.toList_push, Display.showed_nil _ rfl⟩
      · simp only [Speaker.switch, hcall]
        exact ⟨⟨_, _, rfl⟩, [⟨.sound (if active then Speaker.pitch else 0), false⟩],
          Array.toList_push, Display.showed_nil _ rfl⟩

/-! ## Cycles

Of the ways out of a cycle two matter for the books: running to its end, which makes an entry, and a
poll that asks to quit, which makes none. -/

/-- Nothing is shown before the batch has run. -/
theorem drew_worked (s : Session) (host : Host) (elapsed : Nat) :
    Drew ⟨s, host⟩ ⟨s.worked host elapsed, (s.polled host).host⟩ [] :=
  .of_calls_eq rfl (InputDevice.calls_poll _ _ _)

/-- A cycle that ran to its end has run its batch, and has shown the frame that the batch left if
one was due. -/
theorem worked_of_ran {elapsed : Nat} {report : Report}
    (h : (s.cycle host elapsed).result = .ran report) :
    s.Worked host elapsed report ∧
      (s.cycle host elapsed).session.machine = (s.batch host elapsed).machine ∧
      Drew ⟨s, host⟩ ⟨(s.cycle host elapsed).session, (s.cycle host elapsed).host⟩
        (if report.frameReady then [(s.batch host elapsed).machine.screen.frame] else []) := by
  have hend := s.cycleEnd_cycle host elapsed
  generalize s.cycle host elapsed = c at hend h ⊢
  cases hend with
  | pollFailed | pollCrashed | quit | batchCrashed | drawFailed | drawCrashed | soundFailed =>
    contradiction
  -- of the ways out this is the one with a report: frame and buzzer have had their turn
  | @ran report' s' s'' host' host'' hpresented hsound =>
    obtain rfl := CycleResult.ran.inj h
    obtain ⟨hmachine, -⟩ := machine_and_scheduler_of_present hpresented.shown
    obtain ⟨⟨speaker, sounding, rfl⟩, hquiet⟩ := eq_of_soundAs hsound
    have hshown := drew_of_present hpresented.shown
    have hdrew := ((s.drew_worked host elapsed).trans hshown).trans hquiet
    rw [List.nil_append, List.append_nil] at hdrew
    exact ⟨hpresented.toWorked, hmachine, hdrew⟩

end Session

/-- From one scene to the next, a poll asked to quit, and that is all: the machine has new keys, the
input has moved on, and the host was not called. -/
structure Quits (before after : Scene) : Prop where
  asked : (before.session.polled before.host).result = .ok .quit
  session : ∃ input keypad, after.session = { before.session with
    input, machine := { before.session.machine with keypad } }
  calls : after.host.calls = before.host.calls

/-- A cycle that asks to quit has polled, and that is all. -/
theorem quits_of_result {s : Session} {host : Host} {elapsed : Nat}
    (h : (s.cycle host elapsed).result = .quit) :
    Quits ⟨s, host⟩ ⟨(s.cycle host elapsed).session, (s.cycle host elapsed).host⟩ := by
  have hend := s.cycleEnd_cycle host elapsed
  generalize s.cycle host elapsed = c at hend h ⊢
  cases hend with
  | quit hasked => exact ⟨hasked, ⟨_, _, rfl⟩, InputDevice.calls_poll _ _ _⟩
  | pollFailed | pollCrashed | batchCrashed | drawFailed | drawCrashed | soundFailed | ran =>
    contradiction

theorem Quits.drew {x y : Scene} (h : Quits x y) : Drew x y [] := by
  obtain ⟨input, keypad, hsession⟩ := h.session
  exact .of_calls_eq (by rw [hsession]) h.calls

theorem Quits.faults {x y : Scene} (h : Quits x y) :
    y.session.machine.faults = x.session.machine.faults := by
  obtain ⟨input, keypad, hsession⟩ := h.session
  rw [hsession]

/-! ## Schedulers of sessions

Batches balance with a regular scheduler, so it has to be regular whenever a batch is run. A batch
keeps it so, and the rest of a cycle does not touch it. -/

section

variable {cycles : Nat} {s : Session}

/-- A cycle leaves a regular scheduler regular, however it ends. -/
theorem regular_cycle (h : s.scheduler.Regular cycles) (host : Host) (elapsed : Nat) :
    (s.cycle host elapsed).session.scheduler.Regular cycles := by
  have hworked : (s.worked host elapsed).scheduler.Regular cycles := h.batch _ _
  have hend := s.cycleEnd_cycle host elapsed
  generalize s.cycle host elapsed = c at hend ⊢
  -- what comes before the batch does not touch the scheduler, and what comes after it neither
  cases hend with
  | pollFailed | pollCrashed | quit => exact h
  | batchCrashed => exact hworked
  | drawFailed _ hdraw | drawCrashed _ hdraw =>
    rw [(machine_and_scheduler_of_present hdraw).2]
    exact hworked
  | soundFailed hpresented hsound | ran hpresented hsound =>
    obtain ⟨⟨speaker, sounding, rfl⟩, -⟩ := eq_of_soundAs hsound
    show Scheduler.Regular cycles (Session.scheduler _)
    rw [(machine_and_scheduler_of_present hpresented.shown).2]
    exact hworked

/-- So does a main loop, wherever it stops. -/
theorem regular_of_course {limit : Option Nat} {clock : Nat → Nat} {p q : Progress}
    {reports : List Report} {stop : Stop} (h : Course limit clock p reports q stop)
    (hp : p.session.scheduler.Regular cycles) : q.session.scheduler.Regular cycles := by
  induction h with
  | unfinished | limit => exact hp
  | quit | failed | crashed => exact regular_cycle hp _ _
  | ran _ _ _ ih => exact ih (regular_cycle hp _ _)

end

/-! ## Books

Entries are in the order of the batches. The number of the batch is carried along, since the clock
goes by it. -/

/-- A batch in the books of a main loop: its report, and the frame as it stood at its end. -/
structure Entry where
  report : Report
  frame : Frame

namespace Entry

/-- The frames of the batches after which one was due. -/
def shown (entries : List Entry) : List Frame :=
  (entries.filter (·.report.frameReady)).map (·.frame)

end Entry

/-- What entries add to totals. -/
structure Summed (before : Summary) (entries : List Entry) (after : Summary) : Prop where
  batches : after.batches = before.batches + entries.length
  executed : after.executed = before.executed + (entries.map (·.report.executed)).sum
  faults : after.faults = before.faults + (entries.map (·.report.faults)).sum
  frames : after.frames = before.frames + (Entry.shown entries).length

/-- A row of cycles in a main loop, the first of them with batch number `first`: each has polled an
input that wants to go on, and has run the batch that is entered for it, with balanced books. The
display was shown the frame of the entry if one was due, and nothing else. -/
inductive Books (cycles : Nat) (clock : Nat → Nat) : Nat → Scene → List Entry → Scene → Prop
  | none {first : Nat} {x : Scene} : Books cycles clock first x [] x
  | batch {first : Nat} {x y : Scene} {entry : Entry} {later : List Entry}
    (polled : (x.session.polled x.host).result = .ok .proceed)
    (ran : (x.session.cycle x.host (clock first)).result = .ran entry.report)
    (balanced : Scheduler.Balanced cycles (x.session.listened x.host).machine
      (x.session.batch x.host (clock first)) entry.report)
    (frame : entry.frame = (x.session.batch x.host (clock first)).machine.screen.frame)
    (drew : Drew x (x.visit (.cycle (clock first)))
      (if entry.report.frameReady then [entry.frame] else []))
    (rest : Books cycles clock (first + 1) (x.visit (.cycle (clock first))) later y) :
    Books cycles clock first x (entry :: later) y

section

variable {cycles : Nat} {clock : Nat → Nat}

theorem Summed.none (total : Summary) : Summed total [] total :=
  ⟨rfl, rfl, rfl, rfl⟩

theorem Summed.batch {before after : Summary} {entry : Entry} {later : List Entry}
    (h : Summed (before.add entry.report) later after) : Summed before (entry :: later) after := by
  obtain ⟨hbatches, hexecuted, hfaults, hframes⟩ := h
  refine ⟨?_, ?_, ?_, ?_⟩
  · rw [hbatches, List.length_cons]
    show before.batches + 1 + _ = _
    omega
  · rw [hexecuted, List.map_cons, List.sum_cons, ← Nat.add_assoc]
    rfl
  · rw [hfaults, List.map_cons, List.sum_cons, ← Nat.add_assoc]
    rfl
  · rw [hframes, Summary.add, Entry.shown, Entry.shown, List.filter_cons]
    -- a frame is counted where it was shown
    cases entry.report.frameReady with
    | false => rfl
    | true =>
      simp only [if_true, List.map_cons, List.length_cons]
      omega

/-- The books of a row of cycles tell which frames were shown. -/
theorem Books.drew {first : Nat} {x y : Scene} {entries : List Entry}
    (h : Books cycles clock first x entries y) : Drew x y (Entry.shown entries) := by
  induction h with
  | none => exact .of_calls_eq rfl rfl
  | @batch first x y entry later polled ran balanced frame drew rest ih =>
    -- the first frame, if it was due, and those of the other entries
    have hshown : Entry.shown (entry :: later) =
        (if entry.report.frameReady then [entry.frame] else []) ++ Entry.shown later := by
      rw [Entry.shown, List.filter_cons]
      cases entry.report.frameReady with
      | _ => rfl
    rw [hshown]
    exact drew.trans ih

/-- The machine has counted the faults of the row. -/
theorem Books.faults {first : Nat} {x y : Scene} {entries : List Entry}
    (h : Books cycles clock first x entries y) :
    y.session.machine.faults =
      x.session.machine.faults + (entries.map (·.report.faults)).sum := by
  induction h with
  | none => rfl
  | @batch first x y entry later polled ran balanced frame drew rest ih =>
    obtain ⟨-, hmachine, -⟩ := worked_of_ran ran
    -- the batch has counted its own faults, and the rest of the cycle none
    have hcycle : (x.visit (.cycle (clock first))).session.machine.faults =
        x.session.machine.faults + entry.report.faults := by
      show (x.session.cycle x.host (clock first)).session.machine.faults = _
      rw [hmachine, balanced.counted]
      rfl
    rw [ih, hcycle, List.map_cons, List.sum_cons, Nat.add_assoc]

/-- **Every main loop has its books.** They end where it ended, which is at the limit or with a poll
that asked to quit if it was not cut short. -/
theorem books_of_course {limit : Option Nat} {p q : Progress} {reports : List Report} {stop : Stop}
    (h : Course limit clock p reports q stop) (hregular : p.session.scheduler.Regular cycles)
    (hlimit : ∀ n, limit = some n → p.summary.batches ≤ n) :
    ∃ entries y, Books cycles clock p.summary.batches ⟨p.session, p.host⟩ entries y ∧
      Summed p.summary entries q.summary ∧
      (stop = .limit → limit = some q.summary.batches ∧ y = ⟨q.session, q.host⟩) ∧
      (stop = .quit → Quits y ⟨q.session, q.host⟩) := by
  induction h with
  | unfinished p => exact ⟨[], _, .none, .none _, nofun, nofun⟩
  -- the loop never passes its limit, so it stops right at it
  | @limit p hstop =>
    refine ⟨[], _, .none, .none _, fun _ => ⟨?_, rfl⟩, nofun⟩
    cases limit with
    | none => contradiction
    | some n =>
      have hle : n ≤ p.summary.batches := by simpa [Progress.atLimit] using hstop
      rw [Nat.le_antisymm hle (hlimit n rfl)]
  | @quit p hgo hresult => exact ⟨[], _, .none, .none _, nofun, fun _ => quits_of_result hresult⟩
  | failed | crashed => exact ⟨[], _, .none, .none _, nofun, nofun⟩
  | @ran p q report later stop hgo hresult rest ih =>
    -- the limit is not reached, so one more batch keeps to it
    have hnext : ∀ n, limit = some n → p.summary.batches + 1 ≤ n := by
      rintro n rfl
      have hlt : p.summary.batches < n := by simpa [Progress.atLimit] using hgo
      exact hlt
    obtain ⟨entries, y, hbooks, hsummed, hend⟩ := ih (regular_cycle hregular _ _) hnext
    obtain ⟨hworked, -, hdrew⟩ := worked_of_ran hresult
    have hbalanced := Scheduler.balanced_batch hregular hworked.reported
    let entry : Entry :=
      ⟨report, (p.session.batch p.host (clock p.summary.batches)).machine.screen.frame⟩
    have hfirst := @Books.batch cycles clock p.summary.batches ⟨p.session, p.host⟩ y entry entries
      hworked.polled hresult hbalanced rfl hdrew hbooks
    have hrest : Summed (p.summary.add entry.report) entries q.summary := hsummed
    exact ⟨entry :: entries, y, hfirst, hrest.batch, hend⟩

/-! ## The end of a main loop

A main loop that is finished has wound up behind its last cycle. That switches the tone off, and
leaves the books as they are. -/

/-- Winding up concerns the buzzer alone. -/
theorem eq_wind (p : Progress) :
    (∃ speaker sounding, (wind p).session = { p.session with speaker, sounding }) ∧
      Drew ⟨p.session, p.host⟩ ⟨(wind p).session, (wind p).host⟩ [] := by
  rcases hsound : p.session.soundAs p.host false with ⟨switched, s, host⟩
  unfold wind
  rw [hsound]
  cases switched with
  | _ => exact eq_of_soundAs hsound

/-- The total that is reported is the one that was kept. -/
theorem total_of_wind {p : Progress} {total : Summary} (h : (wind p).result = .finished total) :
    total = p.summary := by
  unfold wind at h
  split at h
  · contradiction
  · exact (LoopResult.finished.inj h).symm

/-- A main loop is finished at its limit or because the input asked to quit. -/
theorem mainLoop_of_finished {s : Session} {host : Host} {limit : Option Nat} {rounds : Nat}
    {total : Summary} (h : (s.mainLoop host limit clock rounds).result = .finished total) :
    ∃ reports q stop, Course limit clock (s.begin host) reports q stop ∧
      (stop = .limit ∨ stop = .quit) ∧ s.mainLoop host limit clock rounds = wind q := by
  obtain ⟨reports, hcourse⟩ := course_cycles limit clock rounds (s.begin host)
  unfold mainLoop at h ⊢
  rcases hcycles : cycles limit clock rounds (s.begin host) with ⟨q, stop⟩
  rw [hcycles] at h hcourse
  refine ⟨reports, q, stop, hcourse, ?_⟩
  cases stop with
  | limit => exact ⟨.inl rfl, rfl⟩
  | quit => exact ⟨.inr rfl, rfl⟩
  | failed | crashed | unfinished => contradiction

/-- Whatever is done with a session leaves its scheduler regular. -/
theorem regular_visit {x : Scene} (h : x.session.scheduler.Regular cycles) (v : Visit) :
    (x.visit v).session.scheduler.Regular cycles := by
  cases v with
  | cycle elapsed => exact regular_cycle h x.host elapsed
  | mainLoop limit clock rounds =>
    obtain ⟨reports, hcourse⟩ := course_cycles limit clock rounds (x.session.begin x.host)
    have hregular := regular_of_course hcourse h
    show (mainLoop x.session x.host limit clock rounds).session.scheduler.Regular cycles
    unfold mainLoop
    rcases hcycles : Session.cycles limit clock rounds (x.session.begin x.host) with ⟨q, stop⟩
    rw [hcycles] at hregular
    cases stop with
    | limit | quit =>
      -- winding up switches the buzzer, and leaves the scheduler
      obtain ⟨⟨speaker, sounding, heq⟩, -⟩ := eq_wind q
      show (wind q).session.scheduler.Regular cycles
      rw [heq]
      exact hregular
    | failed | crashed | unfinished => exact hregular
  | setMachine machine => exact h
  | setHost queue refuses => exact h

/-- However often that is. -/
theorem regular_visits {x : Scene} (h : x.session.scheduler.Regular cycles) (vs : List Visit) :
    (x.visits vs).session.scheduler.Regular cycles := by
  induction vs generalizing x with
  | nil => exact h
  | cons v vs ih => exact ih (regular_visit h v)

end

/-- The scheduler of a new session is regular if no rate is above one per nanosecond. -/
theorem regular_of_newSession {config : Config} {machine : Machine} {input : InputDevice}
    {display : Display} {speaker : Speaker} {s : Session}
    (hnew : Session.new config machine input display speaker = .ok s)
    (htimer : config.timerHz.toNat ≤ 1000000000) (hrefresh : config.refreshHz.toNat ≤ 1000000000) :
    s.scheduler.Regular config.cyclesPerBatch.toNat := by
  unfold Session.new at hnew
  cases hscheduler : Scheduler.new config with
  | error e =>
    rw [hscheduler] at hnew
    contradiction
  | ok scheduler =>
    rw [hscheduler] at hnew
    obtain rfl := Except.ok.inj hnew
    exact Scheduler.regular_of_new hscheduler htimer hrefresh

/-- **The books of every batch and of every main loop balance.** In a session of a configuration
with no rate above one per nanosecond, whatever was done with it before: after any batches, a batch
on any machine reports every step once, and every fault is counted by the machine and warned of. A
main loop that is finished has books for which its totals are the sums, with as many batches as
polls that wanted to go on. They end at the limit, or with a poll that asked to quit and did nothing
else. The display was shown the frames of the books that were due, each as it stood at the end of
its batch, and nothing more; and the machine has counted the faults of the total. -/
theorem books_balance {config : Config} {machine : Machine} {input : InputDevice}
    {display : Display} {speaker : Speaker} {s : Session}
    (hnew : Session.new config machine input display speaker = .ok s)
    (htimer : config.timerHz.toNat ≤ 1000000000) (hrefresh : config.refreshHz.toNat ≤ 1000000000)
    (host : Host) (vs : List Visit) :
    let x := Scene.visits ⟨s, host⟩ vs
    let cycles := config.cyclesPerBatch.toNat
    (∀ (earlier : List (Machine × Nat)) (m : Machine) (elapsed : Nat), ∃ report,
      Scheduler.Balanced cycles m ((x.session.scheduler.after earlier).runBatch m elapsed) report) ∧
    ∀ (limit : Option Nat) (clock : Nat → Nat) (rounds : Nat) (total : Summary),
      let loop := x.session.mainLoop x.host limit clock rounds
      loop.result = .finished total →
        ∃ entries y z, Books cycles clock 0 x entries y ∧ Summed .zero entries total ∧
          (limit = some total.batches ∧ z = y ∨ Quits y z) ∧
          loop.session.machine = z.session.machine ∧
          Drew x ⟨loop.session, loop.host⟩ (Entry.shown entries) ∧
          loop.session.machine.faults = x.session.machine.faults + total.faults := by
  intro x cycles
  have hregular : x.session.scheduler.Regular cycles :=
    regular_visits (regular_of_newSession hnew htimer hrefresh) vs
  constructor
  · intro earlier m elapsed
    exact Scheduler.balanced_runBatch (hregular.after earlier) m elapsed
  · intro limit clock rounds total loop hfinished
    obtain ⟨reports, q, stop, hcourse, hstop, hloop⟩ := mainLoop_of_finished hfinished
    obtain ⟨entries, y, hbooks, hsummed, hlimit, hquit⟩ :=
      books_of_course hcourse hregular fun n _ => Nat.zero_le n
    obtain rfl : total = q.summary := by
      refine total_of_wind ?_
      rw [← hloop]
      exact hfinished
    -- where the books end, the main loop has ended, but for its buzzer
    have hend : (limit = some q.summary.batches ∧ ⟨q.session, q.host⟩ = y) ∨
        Quits y ⟨q.session, q.host⟩ := by
      rcases hstop with rfl | rfl
      · obtain ⟨hsome, hy⟩ := hlimit rfl
        exact .inl ⟨hsome, hy.symm⟩
      · exact .inr (hquit rfl)
    have hlast : Drew y ⟨q.session, q.host⟩ [] ∧
        q.session.machine.faults = y.session.machine.faults := by
      rcases hend with ⟨-, rfl⟩ | hquits
      · exact ⟨.of_calls_eq rfl rfl, rfl⟩
      · exact ⟨hquits.drew, hquits.faults⟩
    obtain ⟨⟨speaker', sounding, hsession⟩, hquiet⟩ := eq_wind q
    have hmachine : loop.session.machine = q.session.machine := by
      show (x.session.mainLoop x.host limit clock rounds).session.machine = _
      rw [hloop, hsession]
    have hdrew : Drew x ⟨loop.session, loop.host⟩ (Entry.shown entries) := by
      have hall := (hbooks.drew.trans hlast.1).trans hquiet
      rw [List.append_nil, List.append_nil] at hall
      simp only [loop, hloop]
      exact hall
    have hfaults : loop.session.machine.faults = x.session.machine.faults + q.summary.faults := by
      rw [hmachine, hlast.2, hbooks.faults, hsummed.faults]
      exact congrArg _ (Nat.zero_add _).symm
    exact ⟨entries, y, ⟨q.session, q.host⟩, hbooks, hsummed, hend, hmachine, hdrew, hfaults⟩

/-- A session on empty memory with two steps in a batch, whose input asks to quit at the third poll.
-/
def onZeros : Session where
  input := .fixed [] (some 2)
  display := .recorder 0 none
  speaker := .mute 0 0
  machine := {
    memory := ⟨Ram.zero, 0x200, 0x50, 0⟩
    registers := .start 0x200
    stack := .empty
    screen := ⟨.blank 8 4, by decide, by decide⟩
    timers := .idle
    keypad := .released
    dialect := .legacy
    generator := .ofSeed 0
    idleAt := none
    faults := 0 }
  scheduler := ⟨2, interval 60, interval 60, 0, 0⟩
  batchInterval := interval 60
  sounding := false

/-- Every step of the two batches faults, and each batch is followed by a frame. -/
theorem books_balance_onZeros :
    let config := { Config.standard with cyclesPerBatch := 2 }
    let loop := onZeros.mainLoop (.start [] fun _ _ => false) (some 5) (fun _ => 16666667) 3
    Session.new config onZeros.machine onZeros.input onZeros.display onZeros.speaker = .ok onZeros ∧
      config.timerHz.toNat ≤ 1000000000 ∧ config.refreshHz.toNat ≤ 1000000000 ∧
      loop.result = .finished ⟨2, 0, 4, 2⟩ ∧ loop.session.machine.faults = 4 ∧
      ∃ frames : List Frame, frames.length = 2 ∧
        loop.session.display = .recorder 2 frames.getLast? := by
  intro config loop
  have hnew : Session.new config onZeros.machine onZeros.input onZeros.display onZeros.speaker =
      .ok onZeros := by
    have hvalid : config.Valid := (Config.check_eq_ok_iff _).1 rfl
    rw [Session.new, Scheduler.new_eq_ok hvalid]
    rfl
  have htimer : config.timerHz.toNat ≤ 1000000000 := by decide
  have hrefresh : config.refreshHz.toNat ≤ 1000000000 := by decide
  have hfinished : loop.result = .finished ⟨2, 0, 4, 2⟩ := by decide +kernel
  obtain ⟨-, hloop⟩ := books_balance hnew htimer hrefresh (.start [] fun _ _ => false) []
  obtain ⟨entries, -, -, -, hsummed, -, -, ⟨records, -, hshowed⟩, hfaults⟩ :=
    hloop (some 5) (fun _ => 16666667) 3 ⟨2, 0, 4, 2⟩ hfinished
  -- the frames of the row are those of the summary
  have hlength : (Entry.shown entries).length = 2 := by
    have hframes : 2 = 0 + (Entry.shown entries).length := hsummed.frames
    omega
  refine ⟨hnew, htimer, hrefresh, hfinished, hfaults, Entry.shown entries, hlength, ?_⟩
  change Display.Showed records _ (.recorder 0 none) loop.session.display at hshowed
  generalize loop.session.display = after at hshowed
  -- a recorder that was shown two frames keeps the second
  cases hshowed with
  | recorder hrecords => rw [hlength, Nat.zero_add, Option.or_none]

end Cosmac
