import Cosmac.Proofs.Machine.Tracing
import Cosmac.Proofs.Machine.Writes
import Cosmac.Proofs.Scheduler.Completion

/-!
# Cosmac — the books of a batch

A fault is counted three times: by the machine, in the tally of the batch, and in the log, which has
a warning for it. The three go together, step by step.

The three books are kept in different places, and none of them is read by the others. What ties them
is the outcome of a step: `Outcome.faults` has one entry if the step faulted and none if it did not,
and each book grows by just that. Everything else that is logged is below a warning.

* `warnings_step`, `faults_step` — a step that faults is counted once and warned of once, and no
  other step is.
* `Run.balanced_run` — so the books of a run balance, by induction on its steps.
* `Scheduler.balanced_runBatch` — and those of every batch of a scheduler that has come from a
  configuration.
-/

namespace Cosmac

/-- What a log warns of. -/
def warnings (log : List Event) : List Event :=
  log.filter (·.level = .warn)

/-- Warnings of a longer log are those of its parts, in order. -/
theorem warnings_append (log later : List Event) :
    warnings (log ++ later) = warnings log ++ warnings later :=
  List.filter_append log later

/-- The fault of a step, if it has one. -/
def Outcome.faults : Outcome → List Fault
  | .faulted fault => [fault]
  | .executed | .waiting | .idle => []

/-- A tally counts an outcome as a fault exactly if it has one. -/
theorem Tally.faulted_count (t : Tally) (o : Outcome) :
    (t.count o).faulted = t.faulted + o.faults.length := by
  cases o with
  | _ => rfl

/-! ## One step

An instruction that is carried out warns of nothing; one that is refused, and a fetch that fails,
warn once and are counted once. -/

namespace Machine

variable {m : Machine} {i : Instruction}

/-- What comes of an instruction that was carried out is no fault. -/
theorem faults_settle (m : Machine) (e : Effect) : (m.settle e).outcome.faults = [] := by
  unfold settle
  cases e.flow with
  | _ => rfl

/-- Nor is it warned of: what such an instruction reports is less than that. -/
theorem warnings_settle {e : Effect} (h : m.perform i = .ok e) :
    warnings (m.settle e).log = [] := by
  refine List.filter_eq_nil_iff.2 ?_
  intro event hmem
  rcases level_of_settle h hmem with hlevel | hlevel
  · simp [hlevel]
  · simp [hlevel]

/-- **A step that faults is counted once**, and no other step is. -/
theorem faults_step (m : Machine) :
    m.step.machine.faults = m.faults + m.step.outcome.faults.length := by
  cases hword : m.memory.ram.word? m.registers.pc.toNat with
  -- nothing was fetched: the fault is that of the address
  | error range =>
    rw [step_of_fetch_error hword]
    rfl
  | ok word =>
    rw [step_of_fetches hword]
    cases hperform : m.perform (Instruction.decode word) with
    -- carried out: `perform` leaves the count alone, and settling does not touch it
    | ok e =>
      obtain ⟨houtcome, hmachine⟩ := execute_of_perform hperform
      obtain ⟨pc, idleAt, heq⟩ := machine_settle_eq m e
      rw [houtcome, hmachine, heq, faults_settle]
      exact (writesOnly_of_perform hperform).faults
    -- refused: recovering from the fault is what counts it
    | error refusal =>
      obtain ⟨houtcome, hmachine⟩ := execute_of_refusal hperform
      rw [houtcome, hmachine]
      rfl

/-- **A step that faults is warned of once**, and no other step is. -/
theorem warnings_step (m : Machine) :
    warnings m.step.log = m.step.outcome.faults.map .faulted := by
  cases hword : m.memory.ram.word? m.registers.pc.toNat with
  | error range =>
    rw [step_of_fetch_error hword]
    rfl
  | ok word =>
    rw [step_of_fetches hword]
    cases hperform : m.perform (Instruction.decode word) with
    | ok e =>
      -- the trace is no warning
      have hlog : warnings (m.execute (Instruction.decode word)).log =
          warnings (m.settle e).log := by
        simp only [execute, hperform]
        rfl
      rw [hlog, (execute_of_perform hperform).1, faults_settle]
      exact warnings_settle hperform
    | error refusal =>
      simp only [execute, hperform]
      rfl

end Machine

/-! ## Runs

The machine of a run goes on from what it had counted before, the tally and the log start empty. So
the invariant relates the three to the machine that the run began with. -/

namespace Run

/-- The books of a run that began with the machine `m`: the machine has counted as many faults as
were tallied, and the log warns of as many and of nothing else. -/
structure Balanced (m : Machine) (r : Run) : Prop where
  counted : r.machine.faults = m.faults + r.tally.faulted
  warned : ∃ faults : List Fault, warnings r.log.toList = faults.map .faulted ∧
    faults.length = r.tally.faulted

/-- One more step keeps the books in balance. -/
theorem Balanced.next {m : Machine} {r : Run} (h : r.Balanced m) : r.next.Balanced m := by
  obtain ⟨hcounted, faults, hwarned, hlength⟩ := h
  have htally : r.next.tally.faulted = r.tally.faulted + r.machine.step.outcome.faults.length :=
    Tally.faulted_count _ _
  constructor
  · show r.machine.step.machine.faults = _
    rw [htally, Machine.faults_step, hcounted, Nat.add_assoc]
  · refine ⟨faults ++ r.machine.step.outcome.faults, ?_, ?_⟩
    · show warnings (r.log ++ r.machine.step.log).toList = _
      rw [Array.toList_appendList, warnings_append, hwarned, Machine.warnings_step,
        List.map_append]
    · rw [htally, List.length_append, hlength]

/-- **The books of a run balance**, by induction on the number of its steps. -/
theorem balanced_run (m : Machine) (n : Nat) : (m.run n).Balanced m := by
  induction n with
  | zero => exact ⟨rfl, [], rfl, rfl⟩
  | succ n ih =>
    rw [Machine.run_succ]
    exact ih.next

end Run

/-! ## Batches

A batch is a run, then ticks, then a report. Ticks count nothing and may report that the timers are
catching up, which is no warning; the report copies the tally. -/

namespace Scheduler

/-- A scheduler with a number of steps in each batch, whose intervals have a length. -/
structure Regular (cycles : Nat) (s : Scheduler) : Prop where
  cycles : s.cyclesPerBatch = cycles
  timer_pos : 0 < s.timerInterval
  frame_pos : 0 < s.frameInterval

/-- The books of a batch of `cycles` steps on the machine `m`. Every step is reported once, and
every fault is counted by the machine and warned of; there is no other warning. -/
structure Balanced (cycles : Nat) (m : Machine) (b : Batch) (report : Report) : Prop where
  reported : b.result = .ok report
  steps : report.executed + report.stalled + report.faults = cycles
  counted : b.machine.faults = m.faults + report.faults
  warned : ∃ faults : List Fault, warnings b.log.toList = faults.map .faulted ∧
    faults.length = report.faults

/-- The scheduler of a configuration with rates up to one per nanosecond is regular. -/
theorem regular_of_new {config : Config} {s : Scheduler} (hnew : Scheduler.new config = .ok s)
    (htimer : config.timerHz.toNat ≤ 1000000000) (hrefresh : config.refreshHz.toNat ≤ 1000000000) :
    s.Regular config.cyclesPerBatch.toNat := by
  unfold Scheduler.new at hnew
  cases hcheck : config.check with
  | error e =>
    rw [hcheck] at hnew
    contradiction
  | ok _ =>
    rw [hcheck] at hnew
    obtain rfl := Except.ok.inj hnew
    have hvalid : config.Valid := (Config.check_eq_ok_iff config).1 hcheck
    exact ⟨rfl, interval_pos hvalid.timerHz_ne_zero htimer,
      interval_pos hvalid.refreshHz_ne_zero hrefresh⟩

variable {cycles : Nat} {s : Scheduler}

/-- A batch leaves a regular scheduler regular. -/
theorem Regular.runBatch (h : s.Regular cycles) (m : Machine) (elapsed : Nat) :
    (s.runBatch m elapsed).scheduler.Regular cycles := by
  rw [(runBatch_of_pos h.timer_pos h.frame_pos m elapsed).1]
  exact ⟨h.cycles, h.timer_pos, h.frame_pos⟩

/-- So does a batch as it is run, also one that outgrows a word. -/
theorem Regular.batch (h : s.Regular cycles) (m : Machine) (elapsed : Nat) :
    (s.batch m elapsed).scheduler.Regular cycles := by
  have hrun := h.runBatch m elapsed
  unfold Scheduler.batch
  cases s.overflow? elapsed with
  | none => exact hrun
  | some o =>
    cases o with
    | owed | ticks => exact ⟨h.cycles, h.timer_pos, h.frame_pos⟩
    | due => exact ⟨hrun.cycles, hrun.timer_pos, hrun.frame_pos⟩

/-- And so do all batches of a sequence. -/
theorem Regular.after (h : s.Regular cycles) (earlier : List (Machine × Nat)) :
    (s.after earlier).Regular cycles := by
  induction earlier generalizing s with
  | nil => exact h
  | cons call rest ih => exact ih (h.runBatch call.1 call.2)

/-- What a batch warns of is what its run warned of. -/
theorem warnings_runBatch (htimer : 0 < s.timerInterval) (m : Machine) (elapsed : Nat) :
    warnings (s.runBatch m elapsed).log.toList = warnings (m.run s.cyclesPerBatch).log.toList := by
  unfold runBatch
  simp only [dif_pos htimer]
  split
  · -- that the timers catch up is reported, and is no warning
    rw [Array.toList_push, warnings_append]
    exact List.append_nil _
  · rfl

/-- What a batch reports of its steps is the tally of its run. -/
theorem tally_of_runBatch (hs : s.Regular cycles) {m : Machine} {elapsed : Nat}
    {report : Report} (h : (s.runBatch m elapsed).result = .ok report) :
    report.executed = (m.run s.cyclesPerBatch).tally.executed ∧
      report.stalled = (m.run s.cyclesPerBatch).tally.stalled ∧
      report.faults = (m.run s.cyclesPerBatch).tally.faulted := by
  unfold runBatch at h
  simp only [dif_pos hs.timer_pos] at h
  rw [payFrames_of_pos] at h
  · obtain rfl := Except.ok.inj h
    exact ⟨rfl, rfl, rfl⟩
  · exact hs.frame_pos

/-- **The books of every batch balance.** -/
theorem balanced_runBatch (h : s.Regular cycles) (m : Machine) (elapsed : Nat) :
    ∃ report, Balanced cycles m (s.runBatch m elapsed) report := by
  obtain ⟨hcounted, faults, hwarned, hlength⟩ := Run.balanced_run m s.cyclesPerBatch
  -- every step is tallied once, so the tally adds up to the steps of the batch
  have htotal : (m.run s.cyclesPerBatch).tally.total = cycles :=
    (Machine.total_run _ m).trans h.cycles
  have hmachine : (s.runBatch m elapsed).machine.faults =
      (m.run s.cyclesPerBatch).machine.faults := by
    unfold runBatch
    simp only [dif_pos h.timer_pos]
  obtain ⟨-, -, report, hreport, -⟩ := runBatch_of_pos h.timer_pos h.frame_pos m elapsed
  obtain ⟨hexecuted, hstalled, hfaulted⟩ := tally_of_runBatch h hreport
  refine ⟨report, hreport, ?_, ?_, faults, ?_, ?_⟩
  · rw [hexecuted, hstalled, hfaulted, Tally.stalled, ← htotal, Tally.total]
    omega
  · rw [hmachine, hcounted, hfaulted]
  · rw [warnings_runBatch h.timer_pos, hwarned]
  · rw [hlength, hfaulted]

/-- The books of a batch as it is run balance where it has a report. -/
theorem balanced_batch (h : s.Regular cycles) {m : Machine} {elapsed : Nat} {report : Report}
    (hreport : (s.batch m elapsed).result = .ok report) :
    Balanced cycles m (s.batch m elapsed) report := by
  have hbatch := batch_of_ok hreport
  rw [hbatch] at hreport ⊢
  obtain ⟨report', hbalanced⟩ := balanced_runBatch h m elapsed
  obtain rfl := Except.ok.inj (hbalanced.reported.symm.trans hreport)
  exact hbalanced

end Scheduler

end Cosmac
