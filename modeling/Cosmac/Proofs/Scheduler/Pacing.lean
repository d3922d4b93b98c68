import Cosmac.Proofs.Machine.New
import Cosmac.Scheduler

/-!
# Cosmac — pacing

However elapsed time is cut into batches, and whatever the machines do meanwhile, timers and frames
come out as if the time had been divided once: no tick is lost or doubled at a boundary.

The timers catch up in a loop and the frames by a remainder, and a scheduler remembers only what is
left over. So nothing in it says how much time there has been, and the proof carries that along: if
`total` is all the time so far, both debts are `total` modulo their interval. One batch of `elapsed`
turns this into `total + elapsed`, and what the loop counts is the difference of the two quotients.

* `runBatch_of_pos` — a batch where intervals have a length, as an equation without its loop.
* `Scheduler.Paced` is the invariant: both debts are what an interval leaves of all the time so far.
* `paced_of_runBatch` — one batch keeps it, and ticks as often as the interval is crossed.
* `onTime_of_paced` — by induction along the calls, with the time so far as what changes.
* `onTime_of_new` — so every batch of every sequence is on time.
-/

namespace Cosmac

/-! ## Steps and ticks of a batch

A batch steps its machine a number of times, and then ticks its timers. Here both are iterations of
a single step and a single tick, so that what is said of a batch does not mention how it runs. -/

namespace Machine

/-- The machine after `n` steps. -/
def steps (n : Nat) (m : Machine) : Machine :=
  Nat.repeat (fun m => m.step.machine) n m

/-- A run is its steps, one after the other. -/
theorem machine_run (n : Nat) (m : Machine) : (m.run n).machine = m.steps n := by
  induction n with
  | zero => rfl
  | succ n ih =>
    rw [run_succ]
    show (m.run n).machine.step.machine = (m.steps n).step.machine
    rw [ih]

/-- Ticking concerns the timers alone, and ticks add up. -/
theorem repeat_tick (n : Nat) (m : Machine) :
    Nat.repeat (Machine.tick 1) n m = { m with timers := m.timers.ticks n } := by
  induction n with
  | zero =>
    rw [Timers.ticks_zero]
    rfl
  | succ n ih =>
    show (Nat.repeat (Machine.tick 1) n m).tick 1 = _
    rw [ih, Timers.ticks_succ]
    rfl

end Machine

/-- The buzzer is to be on as long as the sound timer has not run down. -/
theorem Timers.soundActive_iff (t : Timers) : t.soundActive = true ↔ 0 < t.sound.toNat := by
  have hzero : t.sound = 0 ↔ t.sound.toNat = 0 := by
    rw [← UInt8.toNat_inj]
    rfl
  simp only [soundActive, ne_eq, decide_eq_true_eq, hzero]
  omega

namespace Scheduler

/-! ## Intervals

A rate of at most one per nanosecond has an interval of at least one nanosecond. Faster rates have
intervals of no length, which nothing here is about. -/

/-- A rate that is not zero, and at most one per nanosecond, has an interval with a length. -/
theorem interval_pos {hz : UInt32} (hne : hz ≠ 0) (hle : hz.toNat ≤ 1000000000) :
    0 < interval hz := by
  have hpos : 0 < hz.toNat := by
    refine Nat.pos_of_ne_zero ?_
    intro hzero
    exact hne (UInt32.toNat_inj.1 hzero)
  exact Nat.div_pos hle hpos

/-- Dividing what is left of `total` together with what comes after it loses nothing. -/
theorem add_div_of_owed {interval : Nat} (hpos : 0 < interval) (total elapsed : Nat) :
    (total + elapsed) / interval = total / interval + (total % interval + elapsed) / interval := by
  have hdiv : total % interval + interval * (total / interval) = total := Nat.mod_add_div _ _
  have hsplit : total + elapsed = total % interval + elapsed + interval * (total / interval) := by
    omega
  calc (total + elapsed) / interval
      = (total % interval + elapsed + interval * (total / interval)) / interval := by rw [← hsplit]
    _ = (total % interval + elapsed) / interval + total / interval :=
        Nat.add_mul_div_left _ _ hpos
    _ = total / interval + (total % interval + elapsed) / interval := Nat.add_comm _ _

/-- An interval is crossed exactly where what is owed fills one. -/
theorem crossed_iff {interval : Nat} (hpos : 0 < interval) (total elapsed : Nat) :
    total / interval < (total + elapsed) / interval ↔ interval ≤ total % interval + elapsed := by
  rw [add_div_of_owed hpos, Nat.lt_add_right_iff_pos, Nat.div_pos_iff]
  exact and_iff_right hpos

/-! ## One batch

Both accounts of a batch are divisions: that of the timers by `catchUp_eq`, that of the frames by
definition. -/

/-- The account of the frames where their interval has a length: a frame is due if the debt fills
it, and the debt is reduced either way, since a debt that does not fill it is its own remainder. -/
theorem payFrames_of_pos {s : Scheduler} (hpos : 0 < s.frameInterval) (elapsed : Nat) :
    s.payFrames elapsed = (.ok (decide (s.frameInterval ≤ s.frameDebt + elapsed)),
      { s with frameDebt := (s.frameDebt + elapsed) % s.frameInterval }) := by
  unfold payFrames
  by_cases hlt : s.frameDebt + elapsed < s.frameInterval
  · have hle : ¬ s.frameInterval ≤ s.frameDebt + elapsed := Nat.not_le.2 hlt
    simp only [if_pos hlt, hle, decide_false, Nat.mod_eq_of_lt hlt]
  · have hle : s.frameInterval ≤ s.frameDebt + elapsed := Nat.le_of_not_lt hlt
    simp only [if_neg hlt, if_neg (Nat.ne_of_gt hpos), hle, decide_true]

/-- Where intervals have a length, a batch is its steps, then its ticks, then its report. -/
theorem runBatch_of_pos {s : Scheduler} (htimer : 0 < s.timerInterval)
    (hframe : 0 < s.frameInterval) (m : Machine) (elapsed : Nat) :
    let ticks := (s.timerDebt + elapsed) / s.timerInterval
    let machine := Nat.repeat (Machine.tick 1) ticks (m.steps s.cyclesPerBatch)
    (s.runBatch m elapsed).scheduler = { s with
      timerDebt := (s.timerDebt + elapsed) % s.timerInterval
      frameDebt := (s.frameDebt + elapsed) % s.frameInterval } ∧
    (s.runBatch m elapsed).machine = machine ∧
    ∃ report, (s.runBatch m elapsed).result = .ok report ∧ report.timerTicks = ticks ∧
      (report.frameReady = true ↔ s.frameInterval ≤ s.frameDebt + elapsed) ∧
      report.soundActive = machine.timers.soundActive := by
  intro ticks machine
  have hmachine : machine = { m.steps s.cyclesPerBatch with
      timers := (m.steps s.cyclesPerBatch).timers.ticks ticks } :=
    Machine.repeat_tick _ _
  -- frames are accounted for after the timers, whose debt they leave alone
  have hpaid := @payFrames_of_pos
    { s with timerDebt := (s.timerDebt + elapsed) % s.timerInterval } hframe elapsed
  rw [hmachine]
  unfold runBatch
  simp only [dif_pos htimer, catchUp_eq, Machine.machine_run, Nat.zero_add]
  rw [hpaid]
  refine ⟨rfl, rfl, _, rfl, rfl, ?_, rfl⟩
  exact decide_eq_true_iff

/-! ## Sequences of batches

The same scheduler, called again and again, on machines that need have nothing to do with each
other. -/

/-- The batches of a sequence of calls, each with a machine and the time since the call before. -/
def runBatches (s : Scheduler) : List (Machine × Nat) → List Batch
  | [] => []
  | (m, elapsed) :: rest =>
    let b := s.runBatch m elapsed
    b :: b.scheduler.runBatches rest

/-- The time that has passed when `k` calls have been made. -/
def elapsedBy : List (Machine × Nat) → Nat → Nat
  | [], _ => 0
  | _ :: _, 0 => 0
  | (_, elapsed) :: rest, k + 1 => elapsed + elapsedBy rest k

/-- The ticks that a batch reports, none if it crashed. -/
def ticksOf (b : Batch) : Nat :=
  match b.result with
  | .ok report => report.timerTicks
  | .error _ => 0

/-- The ticks that the first `k` batches report. -/
def ticksBy : List Batch → Nat → Nat
  | [], _ => 0
  | _ :: _, 0 => 0
  | b :: rest, k + 1 => ticksOf b + ticksBy rest k

/-- No time has passed before the first call. -/
@[simp] theorem elapsedBy_zero (calls : List (Machine × Nat)) : elapsedBy calls 0 = 0 := by
  cases calls with
  | nil => rfl
  | cons call rest => rfl

@[simp] theorem elapsedBy_cons_succ (m : Machine) (elapsed : Nat) (rest : List (Machine × Nat))
    (k : Nat) : elapsedBy ((m, elapsed) :: rest) (k + 1) = elapsed + elapsedBy rest k := rfl

@[simp] theorem ticksBy_zero (batches : List Batch) : ticksBy batches 0 = 0 := by
  cases batches with
  | nil => rfl
  | cons b rest => rfl

@[simp] theorem ticksBy_cons_succ (b : Batch) (rest : List Batch) (k : Nat) :
    ticksBy (b :: rest) (k + 1) = ticksOf b + ticksBy rest k := rfl

theorem ticksOf_eq {b : Batch} {report : Report} (h : b.result = .ok report) :
    ticksOf b = report.timerTicks := by
  simp only [ticksOf, h]

theorem length_runBatches (s : Scheduler) (calls : List (Machine × Nat)) :
    (s.runBatches calls).length = calls.length := by
  induction calls generalizing s with
  | nil => rfl
  | cons call rest ih =>
    show (Scheduler.runBatches _ rest).length + 1 = rest.length + 1
    rw [ih]

/-! ## The invariant

`Paced` is about a scheduler between two batches, `OnTime` about one batch. The times before and
after it are counted from the start, not from the batch before. -/

/-- Both debts are what an interval leaves of all the time so far. -/
structure Paced (s : Scheduler) (total : Nat) : Prop where
  timer_pos : 0 < s.timerInterval
  frame_pos : 0 < s.frameInterval
  timerDebt : s.timerDebt = total % s.timerInterval
  frameDebt : s.frameDebt = total % s.frameInterval

/-- What there is to say of a batch of `s` on `m` that took the time from `before` to `after`. -/
structure OnTime (s : Scheduler) (before after : Nat) (m : Machine) (b : Batch) (report : Report) :
    Prop where
  timerDebt : b.scheduler.timerDebt = after % s.timerInterval
  frameReady : report.frameReady = true ↔ before / s.frameInterval < after / s.frameInterval
  frameDebt : b.scheduler.frameDebt = after % s.frameInterval
  machine : b.machine =
    Nat.repeat (Machine.tick 1) report.timerTicks (m.steps s.cyclesPerBatch)
  delay : b.machine.timers.delay.toNat =
    (m.steps s.cyclesPerBatch).timers.delay.toNat - report.timerTicks
  sound : b.machine.timers.sound.toNat =
    (m.steps s.cyclesPerBatch).timers.sound.toNat - report.timerTicks
  soundActive : report.soundActive = true ↔ 0 < b.machine.timers.sound.toNat

/-- One batch: the next scheduler is paced, and the ticks make up for what the interval was crossed
since `total`. -/
theorem paced_of_runBatch {s : Scheduler} {total : Nat} (h : s.Paced total) (m : Machine)
    (elapsed : Nat) :
    (s.runBatch m elapsed).scheduler.Paced (total + elapsed) ∧
      ∃ report, (s.runBatch m elapsed).result = .ok report ∧
        total / s.timerInterval + report.timerTicks = (total + elapsed) / s.timerInterval ∧
        OnTime s total (total + elapsed) m (s.runBatch m elapsed) report := by
  obtain ⟨hscheduler, hmachine, report, hresult, hticks, hready, hsound⟩ :=
    runBatch_of_pos h.timer_pos h.frame_pos m elapsed
  have htimerDebt : (s.timerDebt + elapsed) % s.timerInterval =
      (total + elapsed) % s.timerInterval := by
    rw [h.timerDebt, Nat.mod_add_mod]
  have hframeDebt : (s.frameDebt + elapsed) % s.frameInterval =
      (total + elapsed) % s.frameInterval := by
    rw [h.frameDebt, Nat.mod_add_mod]
  rw [htimerDebt, hframeDebt] at hscheduler
  rw [← hticks] at hmachine hsound
  refine ⟨?_, report, hresult, ?_, ?_⟩
  · -- the new debts are the remainders of the new total
    rw [hscheduler]
    exact ⟨h.timer_pos, h.frame_pos, rfl, rfl⟩
  · -- the loop has counted a quotient of what was owed, which is a difference of quotients of
    -- totals
    rw [hticks, h.timerDebt]
    exact (add_div_of_owed h.timer_pos total elapsed).symm
  · have htimers : (s.runBatch m elapsed).machine.timers =
        (m.steps s.cyclesPerBatch).timers.ticks report.timerTicks := by
      rw [hmachine, Machine.repeat_tick]
    refine ⟨?_, ?_, ?_, hmachine, ?_, ?_, ?_⟩
    · rw [hscheduler]
    · rw [hready, h.frameDebt]
      exact (crossed_iff h.frame_pos total elapsed).symm
    · rw [hscheduler]
    · rw [htimers]
      exact Timers.toNat_countDown _ _
    · rw [htimers]
      exact Timers.toNat_countDown _ _
    · rw [hsound, hmachine]
      exact Timers.soundActive_iff _

/-- A batch changes the debts of its scheduler and nothing else. -/
theorem rates_runBatch {s : Scheduler} {total : Nat} (h : s.Paced total) (m : Machine)
    (elapsed : Nat) :
    (s.runBatch m elapsed).scheduler.cyclesPerBatch = s.cyclesPerBatch ∧
      (s.runBatch m elapsed).scheduler.timerInterval = s.timerInterval ∧
      (s.runBatch m elapsed).scheduler.frameInterval = s.frameInterval := by
  rw [(runBatch_of_pos h.timer_pos h.frame_pos m elapsed).1]
  exact ⟨rfl, rfl, rfl⟩

/-- What is said of a batch mentions its scheduler only by the rates, so it can be said of an
earlier one. -/
theorem OnTime.of_rates {s s' : Scheduler} {before after : Nat} {m : Machine} {b : Batch}
    {report : Report} (hcycles : s'.cyclesPerBatch = s.cyclesPerBatch)
    (htimer : s'.timerInterval = s.timerInterval) (hframe : s'.frameInterval = s.frameInterval)
    (h : OnTime s' before after m b report) : OnTime s before after m b report := by
  obtain ⟨htimerDebt, hready, hframeDebt, hmachine, hdelay, hsound, hactive⟩ := h
  rw [hcycles] at hmachine hdelay hsound
  rw [htimer] at htimerDebt
  rw [hframe] at hready hframeDebt
  exact ⟨htimerDebt, hready, hframeDebt, hmachine, hdelay, hsound, hactive⟩

/-- From a scheduler that is paced after `total`, every batch of a sequence is on time. -/
theorem onTime_of_paced {s : Scheduler} {total : Nat} (h : s.Paced total)
    {calls : List (Machine × Nat)} {k : Nat} {m : Machine} {elapsed : Nat}
    (hcall : calls[k]? = some (m, elapsed)) :
    ∃ b report, (s.runBatches calls)[k]? = some b ∧ b.result = .ok report ∧
      total / s.timerInterval + ticksBy (s.runBatches calls) (k + 1) =
        (total + elapsedBy calls (k + 1)) / s.timerInterval ∧
      OnTime s (total + elapsedBy calls k) (total + elapsedBy calls (k + 1)) m b report := by
  -- the rest of the calls starts from what the first batch has left, later than `total`
  induction calls generalizing s total k with
  | nil => contradiction
  | cons call rest ih =>
    obtain ⟨m₀, e₀⟩ := call
    obtain ⟨hpaced, report₀, hresult₀, hticks₀, hontime₀⟩ := paced_of_runBatch h m₀ e₀
    cases k with
    -- the call in question is the first: nothing has been reported before it
    | zero =>
      obtain ⟨rfl, rfl⟩ := Prod.mk.inj (Option.some.inj hcall)
      refine ⟨_, report₀, rfl, hresult₀, ?_, ?_⟩
      · rw [runBatches, ticksBy_cons_succ, ticksBy_zero, ticksOf_eq hresult₀, elapsedBy_cons_succ,
          elapsedBy_zero]
        exact hticks₀
      · rw [elapsedBy_zero, elapsedBy_cons_succ, elapsedBy_zero]
        exact hontime₀
    -- it comes later: what the first batch has ticked and taken moves to the total
    | succ k =>
      have hcall' : rest[k]? = some (m, elapsed) := hcall
      obtain ⟨b, report, hb, hresult, hticks, hontime⟩ := ih hpaced hcall'
      obtain ⟨hcycles, htimer, hframe⟩ := rates_runBatch h m₀ e₀
      refine ⟨b, report, hb, hresult, ?_, ?_⟩
      · rw [runBatches, ticksBy_cons_succ, ticksOf_eq hresult₀, elapsedBy_cons_succ,
          ← Nat.add_assoc, hticks₀, ← Nat.add_assoc, ← htimer]
        exact hticks
      · rw [elapsedBy_cons_succ, elapsedBy_cons_succ, ← Nat.add_assoc, ← Nat.add_assoc]
        exact hontime.of_rates hcycles htimer hframe

/-! ## Schedulers of a configuration

A configuration that passes its check may still have a rate above one per nanosecond; the bound on
the rates is what makes the first scheduler paced. -/

/-- A new scheduler owes nothing. -/
theorem paced_of_new {config : Config} {s : Scheduler} (hnew : Scheduler.new config = .ok s)
    (htimer : config.timerHz.toNat ≤ 1000000000)
    (hrefresh : config.refreshHz.toNat ≤ 1000000000) : s.Paced 0 := by
  unfold Scheduler.new at hnew
  cases hcheck : config.check with
  | error e =>
    simp only [hcheck] at hnew
    contradiction
  | ok _ =>
    have hvalid : config.Valid := (Config.check_eq_ok_iff config).1 hcheck
    simp only [hcheck] at hnew
    obtain rfl := Except.ok.inj hnew
    exact ⟨interval_pos hvalid.timerHz_ne_zero htimer,
      interval_pos hvalid.refreshHz_ne_zero hrefresh, (Nat.zero_mod _).symm, (Nat.zero_mod _).symm⟩

/-- **Time is divided once, however it is cut.** With rates of at most one per nanosecond, every
batch of every sequence of calls comes to its end; the ticks so far are the whole intervals so far,
a frame is due exactly if an interval was crossed, and the rest is owed. The machine has taken the
steps of its batch, and after them the ticks. -/
theorem onTime_of_new {config : Config} {s : Scheduler} (hnew : Scheduler.new config = .ok s)
    (htimer : config.timerHz.toNat ≤ 1000000000)
    (hrefresh : config.refreshHz.toNat ≤ 1000000000) (calls : List (Machine × Nat)) :
    (s.runBatches calls).length = calls.length ∧
      ∀ k m elapsed, calls[k]? = some (m, elapsed) →
        ∃ b report, (s.runBatches calls)[k]? = some b ∧ b.result = .ok report ∧
          ticksBy (s.runBatches calls) (k + 1) = elapsedBy calls (k + 1) / s.timerInterval ∧
          OnTime s (elapsedBy calls k) (elapsedBy calls (k + 1)) m b report := by
  refine ⟨length_runBatches s calls, ?_⟩
  intro k m elapsed hcall
  have hpaced : s.Paced 0 := paced_of_new hnew htimer hrefresh
  obtain ⟨b, report, hb, hresult, hticks, hontime⟩ := onTime_of_paced hpaced hcall
  rw [Nat.zero_div, Nat.zero_add, Nat.zero_add] at hticks
  rw [Nat.zero_add, Nat.zero_add] at hontime
  exact ⟨b, report, hb, hresult, hticks, hontime⟩

/-- One nanosecond is missing from an interval at first, and then it passes. -/
theorem onTime_at_boundary :
    ∃ h : Config.standard.Valid,
      let m := Machine.fresh Config.standard h (.ofSeed 0) []
      let calls := [(m, 16666665), (m, 1)]
      let s : Scheduler := ⟨10, 16666666, 16666666, 0, 0⟩
      Scheduler.new Config.standard = .ok s ∧ ticksBy (s.runBatches calls) 1 = 0 ∧
        ∃ b report, (s.runBatches calls)[1]? = some b ∧ b.result = .ok report ∧
          ticksBy (s.runBatches calls) 2 = 1 ∧ b.scheduler.timerDebt = 0 ∧
          report.frameReady = true := by
  refine ⟨(Config.check_eq_ok_iff _).1 rfl, ?_⟩
  intro m calls s
  have hnew : Scheduler.new Config.standard = .ok s := rfl
  have hall := (onTime_of_new hnew (by decide) (by decide) calls).2
  obtain ⟨_, _, -, -, hticks₀, -⟩ := hall 0 m 16666665 rfl
  obtain ⟨b, report, hb, hresult, hticks, hontime⟩ := hall 1 m 1 rfl
  -- the interval is 16666666 nanoseconds, and the first call is one short of it
  have hfirst : elapsedBy calls 1 = 16666665 := rfl
  have hboth : elapsedBy calls 2 = 16666666 := rfl
  refine ⟨hnew, ?_, b, report, hb, hresult, ?_, ?_, ?_⟩
  · rw [hticks₀, hfirst]
    decide
  · rw [hticks, hboth]
    decide
  · rw [hontime.timerDebt, hboth]
    decide
  · rw [hontime.frameReady, hfirst, hboth]
    decide

end Scheduler

end Cosmac
