import Cosmac.Session

/-!
# Cosmac — how cycles and main loops go

A cycle polls, runs its batch, shows the frame and sees to the speaker, and can be left at each of
these stages. What a session and its host look like afterwards depends on the stage, and most
statements about sessions are proved by going through all of them.

So the ways out are listed once, each with the state that it leaves behind, and the rest of the
theory is case analysis on the list. The main loop is treated alike: instead of a recursion with a
bound it becomes a relation between where it starts and where it stops, and statements about it go
by induction on that.

* `CycleEnd` has one case for each way out of a cycle; `cycleEnd_cycle` — there are no others.
* `cycle_of_presented` — a cycle that has come as far as its speaker, as an equation.
* `Course` is a main loop, cycle by cycle, with the reports of the cycles that ran to their end;
  `course_cycles` — every main loop has one.
-/

namespace Cosmac

namespace Session

/-! ## The stages of a cycle

Each stage takes what the one before it has left. They are named here as functions of the session
before the cycle, so that what a cycle has done can be said without going through it again. -/

/-- The poll that a cycle starts with. -/
def polled (s : Session) (host : Host) : Poll :=
  s.input.poll host s.machine.keypad

/-- A session whose input was polled. -/
def listened (s : Session) (host : Host) : Session :=
  { s with
    input := (s.polled host).device
    machine := { s.machine with keypad := (s.polled host).keypad } }

/-- The batch of a cycle. -/
def batch (s : Session) (host : Host) (elapsed : Nat) : Batch :=
  s.scheduler.batch (s.listened host).machine elapsed

/-- A session whose batch has run. -/
def worked (s : Session) (host : Host) (elapsed : Nat) : Session :=
  { s.listened host with
    machine := (s.batch host elapsed).machine
    scheduler := (s.batch host elapsed).scheduler }

/-- What a cycle has reported when its batch has run. -/
def worklog (s : Session) (host : Host) (elapsed : Nat) : Log :=
  (s.polled host).log.toArray ++ (s.batch host elapsed).log

/-- The batch of a cycle has run, with a report. -/
structure Worked (s : Session) (host : Host) (elapsed : Nat) (report : Report) : Prop where
  polled : (s.polled host).result = .ok .proceed
  reported : (s.batch host elapsed).result = .ok report

/-- The frame of a cycle is shown, if one was due: all that is left is the speaker. -/
structure Presented (s : Session) (host : Host) (elapsed : Nat) (report : Report) (s' : Session)
    (host' : Host) : Prop extends Worked s host elapsed report where
  shown : (s.worked host elapsed).present (s.polled host).host report.frameReady =
    (.ok (), s', host')

/-- The ways out of a cycle. -/
inductive CycleEnd (s : Session) (host : Host) (elapsed : Nat) : Cycle → Prop
  | pollFailed {e : HostError} (h : (s.polled host).result = .error (.failed e)) :
    CycleEnd s host elapsed
      ⟨s.listened host, (s.polled host).host, (s.polled host).log.toArray, .failed (.io e)⟩
  | pollCrashed {c : Crash} (h : (s.polled host).result = .error (.crashed c)) :
    CycleEnd s host elapsed
      ⟨s.listened host, (s.polled host).host, (s.polled host).log.toArray, .crashed c⟩
  | quit (h : (s.polled host).result = .ok .quit) :
    CycleEnd s host elapsed
      ⟨s.listened host, (s.polled host).host, (s.polled host).log.toArray, .quit⟩
  | batchCrashed {c : Crash} (h : (s.polled host).result = .ok .proceed)
    (hbatch : (s.batch host elapsed).result = .error c) :
    CycleEnd s host elapsed
      ⟨s.worked host elapsed, (s.polled host).host, s.worklog host elapsed, .crashed c⟩
  | drawFailed {report : Report} (h : s.Worked host elapsed report) {s' : Session} {host' : Host}
    {e : HostError}
    (hdraw : (s.worked host elapsed).present (s.polled host).host report.frameReady =
      (.error (.failed e), s', host')) :
    CycleEnd s host elapsed ⟨s', host', s.worklog host elapsed, .failed (.io e)⟩
  | drawCrashed {report : Report} (h : s.Worked host elapsed report) {s' : Session} {host' : Host}
    {c : Crash}
    (hdraw : (s.worked host elapsed).present (s.polled host).host report.frameReady =
      (.error (.crashed c), s', host')) :
    CycleEnd s host elapsed ⟨s', host', s.worklog host elapsed, .crashed c⟩
  | soundFailed {report : Report} {s' s'' : Session} {host' host'' : Host}
    (h : s.Presented host elapsed report s' host') {e : HostError}
    (hsound : s'.soundAs host' report.soundActive = (.error e, s'', host'')) :
    CycleEnd s host elapsed ⟨s'', host'', s.worklog host elapsed, .failed (.io e)⟩
  | ran {report : Report} {s' s'' : Session} {host' host'' : Host}
    (h : s.Presented host elapsed report s' host')
    (hsound : s'.soundAs host' report.soundActive = (.ok (), s'', host'')) :
    CycleEnd s host elapsed ⟨s'', host'', s.worklog host elapsed, .ran report⟩

/-- The ways out that are left once the batch has run. -/
theorem cycleEnd_follow {s : Session} {host : Host} {elapsed : Nat} {report : Report}
    (h : s.Worked host elapsed report) :
    CycleEnd s host elapsed
      ((s.worked host elapsed).follow (s.polled host).host (s.worklog host elapsed) report) := by
  rcases hdraw : (s.worked host elapsed).present (s.polled host).host report.frameReady with
    ⟨shown, s', host'⟩
  simp only [follow, hdraw]
  match shown, hdraw with
  | .error (.failed e), hdraw => exact .drawFailed h hdraw
  | .error (.crashed c), hdraw => exact .drawCrashed h hdraw
  -- the frame is shown, so only the speaker can still refuse
  | .ok (), hdraw =>
    rcases hsound : s'.soundAs host' report.soundActive with ⟨switched, s'', host''⟩
    match switched, hsound with
    | .error e, hsound =>
      simp only [hsound]
      exact .soundFailed ⟨h, hdraw⟩ hsound
    | .ok (), hsound =>
      simp only [hsound]
      exact .ran ⟨h, hdraw⟩ hsound

/-- A cycle by its stages. -/
theorem cycle_eq (s : Session) (host : Host) (elapsed : Nat) :
    s.cycle host elapsed =
      match (s.polled host).result with
      | .error (.failed e) =>
        ⟨s.listened host, (s.polled host).host, (s.polled host).log.toArray, .failed (.io e)⟩
      | .error (.crashed c) =>
        ⟨s.listened host, (s.polled host).host, (s.polled host).log.toArray, .crashed c⟩
      | .ok .quit =>
        ⟨s.listened host, (s.polled host).host, (s.polled host).log.toArray, .quit⟩
      | .ok .proceed =>
        match (s.batch host elapsed).result with
        | .error c => ⟨s.worked host elapsed, (s.polled host).host, s.worklog host elapsed, .crashed c⟩
        | .ok report =>
          (s.worked host elapsed).follow (s.polled host).host (s.worklog host elapsed) report := rfl

/-- **A cycle ends in one of these ways.** -/
theorem cycleEnd_cycle (s : Session) (host : Host) (elapsed : Nat) :
    CycleEnd s host elapsed (s.cycle host elapsed) := by
  rw [cycle_eq]
  match hpoll : (s.polled host).result with
  | .error (.failed e) => exact .pollFailed hpoll
  | .error (.crashed c) => exact .pollCrashed hpoll
  | .ok .quit => exact .quit hpoll
  | .ok .proceed =>
    cases hbatch : (s.batch host elapsed).result with
    | error c => exact .batchCrashed hpoll hbatch
    | ok report => exact cycleEnd_follow ⟨hpoll, hbatch⟩

/-- A cycle that has shown its frame ends with its speaker. -/
theorem cycle_of_presented {s s' : Session} {host host' : Host} {elapsed : Nat} {report : Report}
    (h : s.Presented host elapsed report s' host') :
    s.cycle host elapsed =
      match s'.soundAs host' report.soundActive with
      | (.error e, s'', host'') => ⟨s'', host'', s.worklog host elapsed, .failed (.io e)⟩
      | (.ok (), s'', host'') => ⟨s'', host'', s.worklog host elapsed, .ran report⟩ := by
  have hfollow : s.cycle host elapsed =
      (s.worked host elapsed).follow (s.polled host).host (s.worklog host elapsed) report := by
    simp only [cycle_eq, h.polled, h.reported]
  unfold follow at hfollow
  rw [h.shown] at hfollow
  exact hfollow

/-! ## Main loops

A main loop that is followed for some rounds stops for one of five reasons, and only the last batch
can be one that did not run to its end. -/

/-- The next cycle of a main loop. -/
def Progress.cycle (p : Progress) (clock : Nat → Nat) : Cycle :=
  p.session.cycle p.host (clock p.summary.batches)

/-- A main loop after one more cycle, however that ended. -/
def Progress.after (p : Progress) (c : Cycle) : Progress :=
  { p with session := c.session, host := c.host, log := p.log ++ c.log }

/-- A main loop after one more batch. -/
def Progress.counted (p : Progress) (c : Cycle) (report : Report) : Progress :=
  { p.after c with summary := p.summary.add report }

/-- Whether a main loop has run as many batches as it may. -/
def Progress.atLimit (p : Progress) (limit : Option Nat) : Bool :=
  limit.any (· ≤ p.summary.batches)

/-- A main loop that was asked to quit. -/
def Progress.quitted (p : Progress) (c : Cycle) : Progress :=
  { p.after c with log := (p.after c).log.push .quitRequested }

/-- A main loop, cycle by cycle: the reports of those that ran to their end, where it stopped, and
why. -/
inductive Course (limit : Option Nat) (clock : Nat → Nat) :
    Progress → List Report → Progress → Stop → Prop
  | unfinished (p : Progress) : Course limit clock p [] p .unfinished
  | limit {p : Progress} (h : p.atLimit limit = true) : Course limit clock p [] p .limit
  | quit {p : Progress} (hgo : p.atLimit limit = false) (h : (p.cycle clock).result = .quit) :
    Course limit clock p [] (p.quitted (p.cycle clock)) .quit
  | failed {p : Progress} {e : Failure} (hgo : p.atLimit limit = false)
    (h : (p.cycle clock).result = .failed e) :
    Course limit clock p [] (p.after (p.cycle clock)) (.failed e)
  | crashed {p : Progress} {c : Crash} (hgo : p.atLimit limit = false)
    (h : (p.cycle clock).result = .crashed c) :
    Course limit clock p [] (p.after (p.cycle clock)) (.crashed c)
  | ran {p q : Progress} {report : Report} {later : List Report} {stop : Stop}
    (hgo : p.atLimit limit = false) (h : (p.cycle clock).result = .ran report)
    (rest : Course limit clock (p.counted (p.cycle clock) report) later q stop) :
    Course limit clock p (report :: later) q stop

/-- One cycle of a main loop, and what comes of it. -/
theorem cycles_succ (limit : Option Nat) (clock : Nat → Nat) (rounds : Nat) (p : Progress) :
    cycles limit clock (rounds + 1) p =
      if p.atLimit limit then (p, .limit)
      else match (p.cycle clock).result with
        | .ran report => cycles limit clock rounds (p.counted (p.cycle clock) report)
        | .quit => (p.quitted (p.cycle clock), .quit)
        | .failed e => (p.after (p.cycle clock), .failed e)
        | .crashed c => (p.after (p.cycle clock), .crashed c) := rfl

/-- **Every main loop has a course**, however far it is followed. -/
theorem course_cycles (limit : Option Nat) (clock : Nat → Nat) (rounds : Nat) (p : Progress) :
    ∃ reports, Course limit clock p reports (cycles limit clock rounds p).1
      (cycles limit clock rounds p).2 := by
  -- on the rounds: a cycle that ran to its end starts the course of the rounds after it
  induction rounds generalizing p with
  | zero => exact ⟨[], .unfinished p⟩
  | succ rounds ih =>
    rw [cycles_succ]
    cases hlimit : p.atLimit limit with
    | true => exact ⟨[], .limit hlimit⟩
    | false =>
      cases hresult : (p.cycle clock).result with
      | quit => exact ⟨[], .quit hlimit hresult⟩
      | failed e => exact ⟨[], .failed hlimit hresult⟩
      | crashed c => exact ⟨[], .crashed hlimit hresult⟩
      | ran report =>
        obtain ⟨later, hlater⟩ := ih (p.counted (p.cycle clock) report)
        exact ⟨report :: later, .ran hlimit hresult hlater⟩

end Session

end Cosmac
