import Cosmac.Proofs.Scheduler.Pacing

/-!
# Cosmac — batches that come to their end

An interval is a second divided by a rate, without its remainder, so it has no length where the rate
is more than one per nanosecond. The check of a configuration refuses rates of zero only, and lets
such rates through: timers then never catch up, and the debt of frames is divided by zero.

`catchUp` asks for an interval with a length, because otherwise it would not be a function. To say
of its loop that it does not end, the loop is described once more, as the relation `CatchesUp`,
which makes no such demand and holds of a start and an end exactly if the rounds lead from one to
the other.

* `CatchesUp` is the loop of the timers, round by round; `catchesUp_iff` — it ends exactly if the
  interval has a length.
* `Completes` is all that a batch has to do to come to its end.
* `completes_iff` — a batch comes to its end exactly if both rates are at most one per nanosecond,
  and the times and the count of ticks fit their words.
* `batch_of_fits`, `batches_eq_runBatches` — what is run is a batch in words, and where these are
  large enough it is the batch that all of this is about.
-/

namespace Cosmac

namespace Scheduler

/-! ## The loop of the timers

Each round takes an interval off the debt. With an interval of no length the debt stays as it is, so
the condition for another round, once true, stays true. -/

/-- The rounds in which the timers catch up: as long as a whole interval is owed to them, it is
taken off the debt and they tick. -/
inductive CatchesUp (interval : Nat) : CatchUp → CatchUp → Prop
  | done {c : CatchUp} (h : c.debt < interval) : CatchesUp interval c c
  | round {c c' : CatchUp} (h : interval ≤ c.debt)
    (rest : CatchesUp interval ⟨c.debt - interval, c.ticks + 1, c.timers.tick⟩ c') :
    CatchesUp interval c c'

/-- The function follows the rounds to their end. -/
theorem catchesUp_catchUp {interval : Nat} (hpos : 0 < interval) (c : CatchUp) :
    CatchesUp interval c (catchUp interval hpos c) := by
  fun_induction catchUp interval hpos c with
  | case1 c hle ih => exact .round hle ih
  | case2 c hlt => exact .done (Nat.lt_of_not_le hlt)

/-- The rounds leave no choice: from one start they lead to one end. -/
theorem CatchesUp.unique {interval : Nat} {c c₁ c₂ : CatchUp} (h₁ : CatchesUp interval c c₁)
    (h₂ : CatchesUp interval c c₂) : c₁ = c₂ := by
  induction h₁ with
  | done hlt =>
    cases h₂ with
    | done => rfl
    | round hle => exact absurd hlt (Nat.not_lt.2 hle)
  | round hle _ ih =>
    cases h₂ with
    | done hlt => exact absurd hlt (Nat.not_lt.2 hle)
    | round _ rest => exact ih rest

/-- Without a length, a whole interval is still owed after every round. -/
theorem not_catchesUp_zero (c c' : CatchUp) : ¬ CatchesUp 0 c c' := by
  intro h
  induction h with
  -- no debt is below zero, so the loop cannot be left
  | done hlt => exact Nat.not_lt_zero _ hlt
  | round _ _ ih => exact ih

/-- **The timers catch up exactly if their interval has a length.** -/
theorem catchesUp_iff (interval : Nat) (c : CatchUp) :
    (∃ c', CatchesUp interval c c') ↔ 0 < interval := by
  constructor
  · rintro ⟨c', h⟩
    refine Nat.pos_of_ne_zero ?_
    rintro rfl
    exact not_catchesUp_zero c c' h
  · intro hpos
    exact ⟨_, catchesUp_catchUp hpos c⟩

/-! ## Intervals

An interval is a quotient, which is nothing for rates above one per nanosecond. That is decided by
the configuration once and for all: no batch changes an interval. -/

/-- A rate has an interval with a length exactly if it is at most one per nanosecond. -/
theorem interval_pos_iff {hz : UInt32} (hne : hz ≠ 0) :
    0 < interval hz ↔ hz.toNat ≤ 1000000000 := by
  constructor
  · intro hpos
    refine Nat.le_of_not_lt fun hlt => ?_
    rw [interval, Nat.div_eq_of_lt hlt] at hpos
    exact Nat.lt_irrefl 0 hpos
  · exact interval_pos hne

/-- A batch leaves the intervals alone, also one that crashes. -/
theorem intervals_runBatch (s : Scheduler) (m : Machine) (elapsed : Nat) :
    (s.runBatch m elapsed).scheduler.timerInterval = s.timerInterval ∧
      (s.runBatch m elapsed).scheduler.frameInterval = s.frameInterval := by
  unfold runBatch payFrames
  dsimp only
  split
  · split
    · exact ⟨rfl, rfl⟩
    · split
      · exact ⟨rfl, rfl⟩
      · exact ⟨rfl, rfl⟩
  · exact ⟨rfl, rfl⟩

/-- The scheduler after a sequence of calls, each with a machine and the time since the call before.
-/
def after (s : Scheduler) : List (Machine × Nat) → Scheduler
  | [] => s
  | (m, elapsed) :: rest => (s.runBatch m elapsed).scheduler.after rest

/-- So do all batches of a sequence. -/
theorem intervals_after (s : Scheduler) (earlier : List (Machine × Nat)) :
    (s.after earlier).timerInterval = s.timerInterval ∧
      (s.after earlier).frameInterval = s.frameInterval := by
  induction earlier generalizing s with
  | nil => exact ⟨rfl, rfl⟩
  | cons call rest ih =>
    obtain ⟨htimer, hframe⟩ := ih (s.runBatch call.1 call.2).scheduler
    obtain ⟨htimer', hframe'⟩ := intervals_runBatch s call.1 call.2
    exact ⟨htimer.trans htimer', hframe.trans hframe'⟩

/-! ## One batch

What `Completes` asks for is what each line of a batch needs to go through: sums that fit, a loop
that ends, a divisor that is not zero. -/

/-- What a batch owes its timers when its steps are done. -/
def owed (s : Scheduler) (m : Machine) (elapsed : Nat) : CatchUp :=
  ⟨s.timerDebt + elapsed, 0, (m.run s.cyclesPerBatch).machine.timers⟩

/-- A batch comes to its end: no time and no count outgrows its word, the timers catch up, no debt
is divided by zero, and there is a report, with less than an interval owed. -/
structure Completes (s : Scheduler) (m : Machine) (elapsed : Nat) (b : Batch) : Prop where
  owed_lt : s.timerDebt + elapsed < timeLimit
  due_lt : s.frameDebt + elapsed < timeLimit
  catchesUp : ∃ paid, CatchesUp s.timerInterval (s.owed m elapsed) paid ∧
    paid.ticks < countLimit ∧ b.machine.timers = paid.timers ∧ b.scheduler.timerDebt = paid.debt
  divides : s.frameInterval ≤ s.frameDebt + elapsed → s.frameInterval ≠ 0
  reports : ∃ report, b.result = .ok report
  timerDebt_lt : b.scheduler.timerDebt < s.timerInterval
  frameDebt_lt : b.scheduler.frameDebt < s.frameInterval

/-- The timers tick once for every interval that is owed. -/
theorem CatchesUp.eq {s : Scheduler} {m : Machine} {elapsed : Nat} {paid : CatchUp}
    (hpos : 0 < s.timerInterval) (h : CatchesUp s.timerInterval (s.owed m elapsed) paid) :
    paid = ⟨(s.timerDebt + elapsed) % s.timerInterval, (s.timerDebt + elapsed) / s.timerInterval,
      (m.run s.cyclesPerBatch).machine.timers.ticks
        ((s.timerDebt + elapsed) / s.timerInterval)⟩ := by
  rw [h.unique (catchesUp_catchUp hpos _), catchUp_eq, owed, Nat.zero_add]

/-- Where both intervals have a length and numbers fit, a batch comes to its end. -/
theorem completes_of_pos {s : Scheduler} (htimer : 0 < s.timerInterval)
    (hframe : 0 < s.frameInterval) (m : Machine) {elapsed : Nat} (hfits : s.Fits elapsed) :
    s.Completes m elapsed (s.runBatch m elapsed) := by
  obtain ⟨hscheduler, hmachine, report, hresult, -⟩ := runBatch_of_pos htimer hframe m elapsed
  -- the loop ends, and `CatchesUp.eq` says where
  obtain ⟨paid, hpaid⟩ := (catchesUp_iff s.timerInterval (s.owed m elapsed)).2 htimer
  refine ⟨hfits.owed_lt, hfits.due_lt, ⟨paid, hpaid, ?_, ?_, ?_⟩, fun _ => Nat.ne_of_gt hframe,
    ⟨report, hresult⟩, ?_, ?_⟩
  · rw [hpaid.eq htimer]
    exact hfits.ticks_lt
  · rw [hmachine, Machine.repeat_tick, hpaid.eq htimer, Machine.machine_run]
  · rw [hscheduler, hpaid.eq htimer]
  · rw [hscheduler]
    exact Nat.mod_lt _ htimer
  · rw [hscheduler]
    exact Nat.mod_lt _ hframe

/-- A batch that comes to its end has shown that its intervals have a length: that of the timers by
leaving the loop, that of the frames by a debt that is below it. -/
theorem Completes.fits {s : Scheduler} {m : Machine} {elapsed : Nat} {b : Batch}
    (h : s.Completes m elapsed b) :
    0 < s.timerInterval ∧ 0 < s.frameInterval ∧ s.Fits elapsed := by
  obtain ⟨paid, hpaid, hticks, -⟩ := h.catchesUp
  have htimer : 0 < s.timerInterval := (catchesUp_iff _ _).1 ⟨paid, hpaid⟩
  refine ⟨htimer, Nat.zero_lt_of_lt h.frameDebt_lt, h.owed_lt, h.due_lt, ?_⟩
  -- the count at the end of the loop is the quotient that has to fit
  rw [hpaid.eq htimer] at hticks
  exact hticks

/-- Frames that are due at intervals of no length crash a batch, when its timers have caught up. -/
theorem result_of_frameInterval_zero {s : Scheduler} (htimer : 0 < s.timerInterval)
    (hframe : s.frameInterval = 0) (m : Machine) (elapsed : Nat) :
    (s.runBatch m elapsed).result = .error .frameInterval := by
  unfold runBatch payFrames
  simp only [dif_pos htimer, hframe, Nat.not_lt_zero, if_false, if_true]
  rfl

/-- So both together are the condition, for every scheduler. -/
theorem completes_runBatch_iff (s : Scheduler) (m : Machine) (elapsed : Nat) :
    s.Completes m elapsed (s.runBatch m elapsed) ↔
      0 < s.timerInterval ∧ 0 < s.frameInterval ∧ s.Fits elapsed := by
  constructor
  · exact Completes.fits
  · rintro ⟨htimer, hframe, hfits⟩
    exact completes_of_pos htimer hframe m hfits

/-! ## Batches in words

A batch as it is run crashes where a time or the count of ticks outgrows its word. Otherwise it is
the batch with times and counts of any size, and so are the batches of a sequence. -/

/-- Times and ticks that fit outgrow nothing. -/
theorem overflow?_of_fits {s : Scheduler} {elapsed : Nat} (h : s.Fits elapsed) :
    s.overflow? elapsed = none := by
  unfold overflow?
  rw [if_neg (Nat.not_le_of_lt h.owed_lt), if_neg (Nat.not_le_of_lt h.ticks_lt),
    if_neg fun hdue => Nat.not_le_of_lt h.due_lt hdue.2]

/-- A batch that fits its words is run as it is. -/
theorem batch_of_fits {s : Scheduler} {elapsed : Nat} (h : s.Fits elapsed) (m : Machine) :
    s.batch m elapsed = s.runBatch m elapsed := by
  simp only [batch, overflow?_of_fits h]

/-- A batch that has a report has outgrown nothing. -/
theorem batch_of_ok {s : Scheduler} {m : Machine} {elapsed : Nat} {report : Report}
    (h : (s.batch m elapsed).result = .ok report) : s.batch m elapsed = s.runBatch m elapsed := by
  unfold batch at h ⊢
  cases hover : s.overflow? elapsed with
  | none => rfl
  | some o =>
    -- a batch that has outgrown a word has no report
    simp only [hover] at h
    cases o with
    | _ => contradiction

/-- **A batch as it is run comes to its end under the same condition**, which includes that it fits
its words. -/
theorem completes_batch_iff (s : Scheduler) (m : Machine) (elapsed : Nat) :
    s.Completes m elapsed (s.batch m elapsed) ↔
      0 < s.timerInterval ∧ 0 < s.frameInterval ∧ s.Fits elapsed := by
  constructor
  · exact Completes.fits
  · rintro ⟨htimer, hframe, hfits⟩
    rw [batch_of_fits hfits]
    exact completes_of_pos htimer hframe m hfits

/-- The batches of a sequence of calls, as they are run. -/
def batches (s : Scheduler) : List (Machine × Nat) → List Batch
  | [] => []
  | (m, elapsed) :: rest =>
    let b := s.batch m elapsed
    b :: b.scheduler.batches rest

/-- Every batch of a sequence of calls fits its words. -/
def FitAll (s : Scheduler) : List (Machine × Nat) → Prop
  | [] => True
  | (m, elapsed) :: rest => s.Fits elapsed ∧ (s.runBatch m elapsed).scheduler.FitAll rest

/-- **A sequence that fits is run as it is**: what `onTime_of_paced` says of batches with times of
any size holds of the batches that are run. -/
theorem batches_eq_runBatches {s : Scheduler} {calls : List (Machine × Nat)} (h : s.FitAll calls) :
    s.batches calls = s.runBatches calls := by
  induction calls generalizing s with
  | nil => rfl
  | cons call rest ih =>
    obtain ⟨m, elapsed⟩ := call
    obtain ⟨hfits, hrest⟩ := h
    simp only [batches, runBatches, batch_of_fits hfits m, ih hrest]

/-! ## Schedulers of a configuration

What is left to say is which schedulers have intervals with a length: those of rates up to one per
nanosecond, before their first batch and after any others. -/

/-- A scheduler that owes nothing yet. -/
def fresh (config : Config) : Scheduler where
  cyclesPerBatch := config.cyclesPerBatch.toNat
  timerInterval := interval config.timerHz
  frameInterval := interval config.refreshHz
  timerDebt := 0
  frameDebt := 0

/-- A configuration that passes its check has a scheduler, whatever its rates. -/
theorem new_eq_ok {config : Config} (h : config.Valid) :
    Scheduler.new config = .ok (fresh config) := by
  simp only [Scheduler.new, (Config.check_eq_ok_iff config).2 h]
  rfl

/-- Batches do not change the intervals, so the rate of the timers decides at any time. -/
theorem timerInterval_pos_iff {config : Config} (h : config.Valid)
    (earlier : List (Machine × Nat)) :
    0 < ((fresh config).after earlier).timerInterval ↔ config.timerHz.toNat ≤ 1000000000 := by
  rw [(intervals_after _ _).1]
  exact interval_pos_iff h.timerHz_ne_zero

theorem frameInterval_pos_iff {config : Config} (h : config.Valid)
    (earlier : List (Machine × Nat)) :
    0 < ((fresh config).after earlier).frameInterval ↔ config.refreshHz.toNat ≤ 1000000000 := by
  rw [(intervals_after _ _).2]
  exact interval_pos_iff h.refreshHz_ne_zero

/-- **A batch comes to its end exactly if intervals have a length.** A configuration that passes the
check has a scheduler. After all batches before it, on every machine and for every time, a batch
comes to its end exactly if neither rate is above one per nanosecond and times and ticks fit their
words. With a faster rate the timers never catch up; with a faster rate of frames alone, the batch
crashes when it accounts for frames. -/
theorem completes_iff {config : Config} (hcheck : config.check = .ok ()) :
    ∃ s, Scheduler.new config = .ok s ∧
      ∀ (earlier : List (Machine × Nat)) (m : Machine) (elapsed : Nat),
        ((s.after earlier).Completes m elapsed ((s.after earlier).runBatch m elapsed) ↔
          config.timerHz.toNat ≤ 1000000000 ∧ config.refreshHz.toNat ≤ 1000000000 ∧
            (s.after earlier).Fits elapsed) ∧
        ((∃ paid, CatchesUp (s.after earlier).timerInterval ((s.after earlier).owed m elapsed) paid) ↔
          config.timerHz.toNat ≤ 1000000000) ∧
        (config.timerHz.toNat ≤ 1000000000 → 1000000000 < config.refreshHz.toNat →
          ((s.after earlier).runBatch m elapsed).result = .error .frameInterval) := by
  have hvalid : config.Valid := (Config.check_eq_ok_iff config).1 hcheck
  refine ⟨fresh config, new_eq_ok hvalid, ?_⟩
  intro earlier m elapsed
  have htimer := timerInterval_pos_iff hvalid earlier
  have hframe := frameInterval_pos_iff hvalid earlier
  refine ⟨?_, ?_, ?_⟩
  · rw [completes_runBatch_iff, htimer, hframe]
  · rw [catchesUp_iff, htimer]
  · intro hslow hfast
    -- no length means an interval of zero, since there is nothing below
    have hzero := mt hframe.1 (Nat.not_le.2 hfast)
    exact result_of_frameInterval_zero (htimer.2 hslow) (Nat.eq_zero_of_not_pos hzero) m elapsed

/-- The standard configuration comes to the end of a batch of an hour, whatever the machine does. -/
theorem completes_hour :
    Config.standard.check = .ok () ∧ ∃ s, Scheduler.new Config.standard = .ok s ∧
      ∀ m, s.Completes m 3600000000000 (s.runBatch m 3600000000000) := by
  obtain ⟨s, hnew, hall⟩ := completes_iff (rfl : Config.standard.check = .ok ())
  obtain rfl : fresh Config.standard = s := Except.ok.inj hnew
  refine ⟨rfl, _, hnew, fun m => ?_⟩
  exact (hall [] m 3600000000000).1.2 ⟨by decide, by decide, by decide, by decide, by decide⟩

/-- Two thousand million frames a second pass the check and crash the first batch. As many ticks a
second pass it too, and are never caught up with. -/
theorem not_completes_above_one_per_nanosecond :
    let frames := { Config.standard with refreshHz := 2000000000 }
    let ticks := { Config.standard with timerHz := 2000000000 }
    ∃ (h : frames.Valid) (h' : ticks.Valid),
      let m := Machine.fresh frames h (.ofSeed 0) [0x12, 0x00]
      let m' := Machine.fresh ticks h' (.ofSeed 0) [0x12, 0x00]
      Scheduler.new frames = .ok (fresh frames) ∧
        ((fresh frames).runBatch m 1000).result = .error .frameInterval ∧
        Scheduler.new ticks = .ok (fresh ticks) ∧
        ¬ ∃ paid, CatchesUp (fresh ticks).timerInterval ((fresh ticks).owed m' 1000) paid := by
  intro frames ticks
  have h : frames.Valid := (Config.check_eq_ok_iff _).1 rfl
  have h' : ticks.Valid := (Config.check_eq_ok_iff _).1 rfl
  refine ⟨h, h', new_eq_ok h, ?_, new_eq_ok h', ?_⟩
  · exact result_of_frameInterval_zero (by decide) (by decide) _ 1000
  · rw [catchesUp_iff]
    decide

end Scheduler

end Cosmac
