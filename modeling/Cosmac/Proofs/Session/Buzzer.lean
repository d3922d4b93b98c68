import Cosmac.Proofs.Session.Course
import Mathlib.Data.List.Chain

/-!
# Cosmac — the buzzer of a session

A session asks its speaker for a change only, and remembers what the speaker last carried out. So
what the speaker carries out is on, off, on, off and so on, whatever fails in between.

What holds all the time is a relation between two moments, not a property of one: the calls that
were made between them alternate, starting from what was remembered at the first, and the last of
them that was carried out is what is remembered at the second. Such relations can be put one behind
the other, so it is enough to show one for each thing that can happen: a poll, a batch and a frame
make no call at all, and a switch makes one, for a change. A refused call leaves everything as it
was, and is not counted among those carried out.

* `SoundCall` is a call to the speaker; `Asked` says which calls were made between two moments, by
  what the host has recorded or the speaker has counted.
* `InTurn` is what calls have to do with what the session remembers; `Switched` joins the two.
* `switched_cycle` and `switched_mainLoop` — a cycle and a main loop switch in turn.
* `buzzer_switches_in_turn` — so does everything that can be done with a session.
-/

namespace Cosmac

/-! ## Calls to the speaker

A session cannot see its speaker, and the statement is about the speaker. What is left of a call to
compare is what the host has on record, or the number of calls that a speaker without a sound has
counted. -/

/-- A call to the speaker: whether it asks for the tone or for silence, and whether it was carried
out. -/
structure SoundCall where
  on : Bool
  done : Bool
  deriving DecidableEq

namespace SoundCall

/-- A call as the host records it. -/
def record (c : SoundCall) : CallRecord :=
  ⟨.sound (if c.on then Speaker.pitch else 0), c.done⟩

/-- The calls that were carried out, in order: `true` where the tone was switched on. -/
def carried (calls : List SoundCall) : List Bool :=
  (calls.filter (·.done)).map (·.on)

/-- The calls of two stretches are carried out one stretch after the other. -/
theorem carried_append (calls later : List SoundCall) :
    carried (calls ++ later) = carried calls ++ carried later := by
  simp only [carried, List.filter_append, List.map_append]

/-- Where every call was carried out, the last one is the last that was carried out. -/
theorem carried_of_all_done {calls : List SoundCall} (h : ∀ c ∈ calls, c.done = true) :
    carried calls = calls.map (·.on) := by
  rw [carried, List.filter_eq_self.2 h]

end SoundCall

open SoundCall (carried)

/-- Whether a call is made to the speaker. -/
def CallRecord.isSound (r : CallRecord) : Bool :=
  match r.call with
  | .sound _ => true
  | _ => false

/-- What shows of calls to a speaker, before and after. The host records the calls to its speaker,
and the speaker stays as the last one left it that was carried out. A speaker that makes no sound
counts its calls, and refuses none. -/
inductive Speaker.Heard (records : List CallRecord) (asked : List SoundCall) :
    Speaker → Speaker → Prop
  | beeper {beeping : Bool} (h : records.filter (·.isSound) = asked.map (·.record)) :
    Heard records asked (.beeper beeping) (.beeper ((carried asked).getLastD beeping))
  | mute {starts stops : Nat} (h : records.filter (·.isSound) = [])
    (hdone : ∀ c ∈ asked, c.done = true) :
    Heard records asked (.mute starts stops)
      (.mute (starts + asked.countP (·.on)) (stops + asked.countP (!·.on)))

/-- A session in its surroundings. -/
structure Scene where
  session : Session
  host : Host

/-- The calls that were made to the speaker from one scene to a later one. -/
def Asked (before after : Scene) (asked : List SoundCall) : Prop :=
  ∃ records, after.host.calls.toList = before.host.calls.toList ++ records ∧
    Speaker.Heard records asked before.session.speaker after.session.speaker

/-- Calls that ask for changes: with what is remembered before them, those carried out alternate,
and the last of them is what is remembered after them. -/
structure InTurn (before : Bool) (asked : List SoundCall) (after : Bool) : Prop where
  alternate : (before :: carried asked).IsChain (· ≠ ·)
  last : after = (carried asked).getLastD before

/-- From one scene to a later one, changes were asked for. -/
structure Switched (before after : Scene) (asked : List SoundCall) : Prop where
  calls : Asked before after asked
  inTurn : InTurn before.session.sounding asked after.session.sounding

/-! ## One stretch after the other

Two stretches with one moment in common make one. The calls add up in all three views of them: as
records, as what the speaker did, and as what is remembered. -/

theorem getLastD_append {α : Type} (l l' : List α) (a : α) :
    (l ++ l').getLastD a = l'.getLastD (l.getLastD a) := by
  rw [List.getLastD_eq_getLast?, List.getLast?_append, Option.getD_or,
    List.getLastD_eq_getLast?, List.getLastD_eq_getLast?]

/-- Two chains make one where the second starts with what the first ends with. -/
theorem isChain_append_of_getLastD {α : Type} {R : α → α → Prop} {a : α} {l l' : List α}
    (h : (a :: l).IsChain R) (h' : (l.getLastD a :: l').IsChain R) :
    (a :: (l ++ l')).IsChain R := by
  induction l generalizing a with
  | nil => exact h'
  | cons b l ih =>
    obtain ⟨hab, hrest⟩ := List.isChain_cons_cons.1 h
    rw [List.getLastD_cons] at h'
    exact List.isChain_cons_cons.2 ⟨hab, ih hrest h'⟩

/-- What shows of two stretches shows of both of them together. -/
theorem Speaker.Heard.trans {records records' : List CallRecord} {asked asked' : List SoundCall}
    {s s' s'' : Speaker} (h : Heard records asked s s') (h' : Heard records' asked' s' s'') :
    Heard (records ++ records') (asked ++ asked') s s'' := by
  cases h with
  -- where the first stretch leaves the speaker, the second one finds it
  | beeper hshown =>
    cases h' with
    | beeper hshown' =>
      rw [← getLastD_append, ← SoundCall.carried_append]
      refine .beeper ?_
      rw [List.filter_append, hshown, hshown', List.map_append]
  -- the counts of the stretches add up
  | mute hshown hdone =>
    cases h' with
    | mute hshown' hdone' =>
      rw [Nat.add_assoc, Nat.add_assoc, ← List.countP_append, ← List.countP_append]
      refine .mute ?_ ?_
      · rw [List.filter_append, hshown, hshown', List.append_nil]
      · intro c hc
        rcases List.mem_append.1 hc with hc | hc
        · exact hdone c hc
        · exact hdone' c hc

/-- The calls of two stretches are the calls from the start of the first to the end of the second.
-/
theorem Asked.trans {a b c : Scene} {asked asked' : List SoundCall} (h : Asked a b asked)
    (h' : Asked b c asked') : Asked a c (asked ++ asked') := by
  obtain ⟨records, hcalls, hheard⟩ := h
  obtain ⟨records', hcalls', hheard'⟩ := h'
  refine ⟨records ++ records', ?_, hheard.trans hheard'⟩
  rw [hcalls', hcalls, List.append_assoc]

/-- Calls that are in turn go on in turn where the memory is handed on. -/
theorem InTurn.trans {before between after : Bool} {asked asked' : List SoundCall}
    (h : InTurn before asked between) (h' : InTurn between asked' after) :
    InTurn before (asked ++ asked') after := by
  obtain ⟨halternate, rfl⟩ := h
  obtain ⟨halternate', rfl⟩ := h'
  refine ⟨?_, ?_⟩
  · rw [SoundCall.carried_append]
    exact isChain_append_of_getLastD halternate halternate'
  · rw [SoundCall.carried_append, getLastD_append]

/-- Both at once. -/
theorem Switched.trans {a b c : Scene} {asked asked' : List SoundCall} (h : Switched a b asked)
    (h' : Switched b c asked') : Switched a c (asked ++ asked') :=
  ⟨h.calls.trans h'.calls, h.inTurn.trans h'.inTurn⟩

/-! ## Stretches without a call

Most of what happens in a session has nothing to do with its speaker. Such a stretch is in turn
because there is nothing in it to be out of turn. -/

/-- From one scene to a later one, the speaker was left alone. -/
structure Quiet (before after : Scene) : Prop where
  speaker : after.session.speaker = before.session.speaker
  sounding : after.session.sounding = before.session.sounding
  calls : ∃ records, after.host.calls.toList = before.host.calls.toList ++ records ∧
    records.filter (·.isSound) = []

theorem Speaker.heard_nil (s : Speaker) {records : List CallRecord}
    (h : records.filter (·.isSound) = []) : Heard records [] s s := by
  cases s with
  | beeper beeping => exact .beeper h
  | mute starts stops => exact .mute h nofun

/-- A quiet stretch is in turn, without a call. -/
theorem Quiet.switched {before after : Scene} (h : Quiet before after) :
    Switched before after [] := by
  obtain ⟨records, hcalls, hshown⟩ := h.calls
  refine ⟨⟨records, hcalls, ?_⟩, ⟨List.isChain_singleton _, h.sounding⟩⟩
  rw [h.speaker]
  exact Speaker.heard_nil _ hshown

/-- A stretch is quiet where the host was not called and the session has forgotten nothing. -/
theorem Quiet.of_calls_eq {before after : Scene}
    (hspeaker : after.session.speaker = before.session.speaker)
    (hsounding : after.session.sounding = before.session.sounding)
    (hcalls : after.host.calls = before.host.calls) : Quiet before after :=
  ⟨hspeaker, hsounding, [], by rw [hcalls, List.append_nil], rfl⟩

/-- Two quiet stretches make one. -/
theorem Quiet.trans {a b c : Scene} (h : Quiet a b) (h' : Quiet b c) : Quiet a c := by
  obtain ⟨records, hcalls, hshown⟩ := h.calls
  obtain ⟨records', hcalls', hshown'⟩ := h'.calls
  refine ⟨h'.speaker.trans h.speaker, h'.sounding.trans h.sounding, records ++ records', ?_, ?_⟩
  · rw [hcalls', hcalls, List.append_assoc]
  · rw [List.filter_append, hshown, hshown', List.append_nil]

/-- A call is recorded, whether it is carried out or refused. -/
theorem Host.call_cases (h : Host) (c : HostCall) :
    h.call c = (.ok (), { h with calls := h.calls.push ⟨c, true⟩ }) ∨
      h.call c = (.error (.refused c.name), { h with calls := h.calls.push ⟨c, false⟩ }) := by
  unfold Host.call
  split
  · exact .inr rfl
  · exact .inl rfl

/-- Polling makes no call. -/
theorem InputDevice.calls_poll (d : InputDevice) (host : Host) (keypad : Keypad) :
    (d.poll host keypad).host.calls = host.calls := by
  unfold InputDevice.poll
  split
  · rfl
  · rfl
  · rfl

/-- Showing a frame asks the host for a picture at most. -/
theorem Display.exists_present (d : Display) (host : Host) (f : Frame) :
    ∃ records, (d.present host f).2.2.calls.toList = host.calls.toList ++ records ∧
      records.filter (·.isSound) = [] := by
  have hnone : ∃ records, host.calls.toList = host.calls.toList ++ records ∧
      records.filter (·.isSound) = [] := ⟨[], (List.append_nil _).symm, rfl⟩
  cases d with
  | recorder frames last => exact hnone
  -- a frame of another size never comes as far as the host, nor one too large for a picture
  | terminal width height =>
    simp only [Display.present]
    split
    · cases Picture.ofFrame? f with
      | error c => exact hnone
      | ok picture =>
        rcases host.call_cases (.draw picture) with hcall | hcall
        · simp only [hcall]
          exact ⟨[⟨.draw picture, true⟩], Array.toList_push, rfl⟩
        · simp only [hcall]
          exact ⟨[⟨.draw picture, false⟩], Array.toList_push, rfl⟩
    · exact hnone

namespace Session

/-- A poll is quiet. -/
theorem quiet_listened (s : Session) (host : Host) :
    Quiet ⟨s, host⟩ ⟨s.listened host, (s.polled host).host⟩ :=
  .of_calls_eq rfl rfl (InputDevice.calls_poll _ _ _)

/-- So is a batch. -/
theorem quiet_worked (s : Session) (host : Host) (elapsed : Nat) :
    Quiet ⟨s, host⟩ ⟨s.worked host elapsed, (s.polled host).host⟩ :=
  .of_calls_eq rfl rfl (InputDevice.calls_poll _ _ _)

/-- So is showing a frame, whatever comes of it. -/
theorem quiet_of_present {s s' : Session} {host host' : Host} {due : Bool}
    {shown : Except (Stopped HostError) Unit} (h : s.present host due = (shown, s', host')) :
    Quiet ⟨s, host⟩ ⟨s', host'⟩ := by
  obtain ⟨rfl, rfl⟩ : (s.present host due).2.1 = s' ∧ (s.present host due).2.2 = host' := by
    rw [h]
    exact ⟨rfl, rfl⟩
  cases due with
  | false => exact .of_calls_eq rfl rfl rfl
  | true =>
    obtain ⟨records, hcalls, hshown⟩ := s.display.exists_present host s.machine.screen.frame
    exact ⟨rfl, rfl, records, hcalls, hshown⟩

/-- So nothing was heard before a cycle comes to its speaker. -/
theorem Presented.quiet {s s' : Session} {host host' : Host} {elapsed : Nat} {report : Report}
    (h : s.Presented host elapsed report s' host') : Quiet ⟨s, host⟩ ⟨s', host'⟩ :=
  (s.quiet_worked host elapsed).trans (quiet_of_present h.shown)

/-! ## Switching the speaker

The one place where calls come from. Whether there is a call depends on what is remembered, and what
will be remembered depends on whether the call is carried out. -/

/-- A speaker is asked once, and does what it is asked or stays as it was. -/
theorem exists_heard_switch (s : Speaker) (host : Host) (on : Bool) :
    ∃ done, ((s.switch host on).1 = .ok () ↔ done = true) ∧
      ∃ records, (s.switch host on).2.2.calls.toList = host.calls.toList ++ records ∧
        Speaker.Heard records [⟨on, done⟩] s (s.switch host on).2.1 := by
  cases s with
  -- a speaker without a sound counts the call and never refuses
  | mute starts stops =>
    have hall : ∀ c ∈ [SoundCall.mk on true], c.done = true := by simp
    have hheard : Speaker.Heard [] [⟨on, true⟩] (.mute starts stops) _ := .mute rfl hall
    cases on with
    | false => exact ⟨true, by simp [Speaker.switch], [], (List.append_nil _).symm, hheard⟩
    | true => exact ⟨true, by simp [Speaker.switch], [], (List.append_nil _).symm, hheard⟩
  -- the host records the call, and the speaker follows if the host does
  | beeper beeping =>
    rcases host.call_cases (.sound (if on then Speaker.pitch else 0)) with hcall | hcall
    · simp only [Speaker.switch, hcall]
      exact ⟨true, by simp, [⟨.sound (if on then Speaker.pitch else 0), true⟩],
        Array.toList_push, .beeper rfl⟩
    · simp only [Speaker.switch, hcall]
      exact ⟨false, by simp, [⟨.sound (if on then Speaker.pitch else 0), false⟩],
        Array.toList_push, .beeper rfl⟩

/-- A session asks for a change, and for nothing else. -/
theorem switched_soundAs (s : Session) (host : Host) (active : Bool) :
    (active = s.sounding → s.soundAs host active = (.ok (), s, host)) ∧
      (active ≠ s.sounding → ∃ done, ((s.soundAs host active).1 = .ok () ↔ done = true) ∧
        Switched ⟨s, host⟩ ⟨(s.soundAs host active).2.1, (s.soundAs host active).2.2⟩
          [⟨active, done⟩]) := by
  constructor
  · intro hsame
    rw [soundAs, if_pos hsame]
  · intro hne
    obtain ⟨done, hdone, records, hcalls, hheard⟩ := exists_heard_switch s.speaker host active
    rw [soundAs, if_neg hne]
    rcases hswitch : s.speaker.switch host active with ⟨switched, speaker, host'⟩
    rw [hswitch] at hdone hcalls hheard
    cases switched with
    | ok _ =>
      obtain rfl : done = true := hdone.1 rfl
      refine ⟨true, by simp, ⟨records, hcalls, hheard⟩, ?_, rfl⟩
      exact List.isChain_pair.2 hne.symm
    -- nothing was carried out, so what is remembered stays true
    | error e =>
      obtain rfl : done = false := by simpa using hdone
      exact ⟨false, by simp, ⟨records, hcalls, hheard⟩, List.isChain_singleton _, rfl⟩

/-- What a call leaves remembered: the change, if it was carried out. -/
theorem sounding_of_switched_one {before after : Scene} {on done : Bool}
    (h : Switched before after [⟨on, done⟩]) :
    after.session.sounding = if done then on else before.session.sounding := by
  rw [h.inTurn.last]
  cases done with
  | false => rfl
  | true => rfl

/-! ## Cycles

A cycle either comes to its speaker, having been quiet before, or ends earlier and stays quiet. -/

/-- Once the frame is shown, a cycle asks its speaker for the state of the sound timer, if that is
not how the speaker was left. -/
theorem switched_of_presented {s s' : Session} {host host' : Host} {elapsed : Nat} {report : Report}
    (h : s.Presented host elapsed report s' host') :
    (report.soundActive = s.sounding → (s.cycle host elapsed).result = .ran report ∧
      Quiet ⟨s, host⟩ ⟨(s.cycle host elapsed).session, (s.cycle host elapsed).host⟩) ∧
    (report.soundActive ≠ s.sounding → ∃ done,
      ((s.cycle host elapsed).result = .ran report ↔ done = true) ∧
      Switched ⟨s, host⟩ ⟨(s.cycle host elapsed).session, (s.cycle host elapsed).host⟩
        [⟨report.soundActive, done⟩]) := by
  have hquiet := h.quiet
  -- polling, the batch and the frame have not touched what is remembered
  have hsounding : s'.sounding = s.sounding := hquiet.sounding
  obtain ⟨hsame, hchange⟩ := switched_soundAs s' host' report.soundActive
  rw [hsounding] at hsame hchange
  rw [cycle_of_presented h]
  constructor
  · intro heq
    rw [hsame heq]
    exact ⟨rfl, hquiet⟩
  · intro hne
    obtain ⟨done, hdone, hswitched⟩ := hchange hne
    refine ⟨done, ?_⟩
    rcases hsound : s'.soundAs host' report.soundActive with ⟨switched, s'', host''⟩
    rw [hsound] at hdone hswitched
    cases switched with
    | ok _ => exact ⟨by simpa using hdone, hquiet.switched.trans hswitched⟩
    | error e => exact ⟨by simpa using hdone, hquiet.switched.trans hswitched⟩

/-- The report of a cycle that ran to its end is the one that it had when it came to its speaker. -/
theorem report_of_presented {s s' : Session} {host host' : Host} {elapsed : Nat}
    {report report' : Report} (h : s.Presented host elapsed report s' host')
    (hran : (s.cycle host elapsed).result = .ran report') : report' = report := by
  rw [cycle_of_presented h] at hran
  split at hran
  · contradiction
  · exact (CycleResult.ran.inj hran).symm

/-- A cycle that ends before leaves the speaker alone. -/
theorem quiet_of_not_presented {s : Session} {host : Host} {elapsed : Nat}
    (h : ∀ report s' host', ¬ s.Presented host elapsed report s' host') :
    (∀ report, (s.cycle host elapsed).result ≠ .ran report) ∧
      Quiet ⟨s, host⟩ ⟨(s.cycle host elapsed).session, (s.cycle host elapsed).host⟩ := by
  have hend := s.cycleEnd_cycle host elapsed
  generalize s.cycle host elapsed = c at hend ⊢
  cases hend with
  | pollFailed | pollCrashed | quit => exact ⟨nofun, s.quiet_listened host⟩
  | batchCrashed => exact ⟨nofun, s.quiet_worked host elapsed⟩
  | drawFailed _ hdraw | drawCrashed _ hdraw =>
    exact ⟨nofun, (s.quiet_worked host elapsed).trans (quiet_of_present hdraw)⟩
  | soundFailed hpresented | ran hpresented => exact absurd hpresented (h _ _ _)

/-- **A cycle asks for changes only.** Where it runs to its end, what is remembered is the state of
the sound timer; where it does not, and no call has failed, it is what was remembered before. -/
theorem switched_cycle (s : Session) (host : Host) (elapsed : Nat) :
    ∃ asked,
      Switched ⟨s, host⟩ ⟨(s.cycle host elapsed).session, (s.cycle host elapsed).host⟩ asked ∧
      (∀ report, (s.cycle host elapsed).result = .ran report →
        (s.cycle host elapsed).session.sounding = report.soundActive) ∧
      ((∀ report, (s.cycle host elapsed).result ≠ .ran report) → (∀ c ∈ asked, c.done = true) →
        (s.cycle host elapsed).session.sounding = s.sounding) := by
  by_cases hpresented : ∃ report s' host', s.Presented host elapsed report s' host'
  · -- the cycle comes to its speaker
    obtain ⟨report, s', host', h⟩ := hpresented
    obtain ⟨hsame, hchange⟩ := switched_of_presented h
    by_cases heq : report.soundActive = s.sounding
    · obtain ⟨-, hquiet⟩ := hsame heq
      refine ⟨[], hquiet.switched, ?_, fun _ _ => hquiet.sounding⟩
      intro report' hran
      obtain rfl := report_of_presented h hran
      exact hquiet.sounding.trans heq.symm
    · obtain ⟨done, hdone, hswitched⟩ := hchange heq
      refine ⟨_, hswitched, ?_, ?_⟩
      · intro report' hran
        obtain rfl := report_of_presented h hran
        rw [sounding_of_switched_one hswitched, if_pos (hdone.1 hran)]
      · intro hnot hall
        have hcarried : done = true := hall _ List.mem_cons_self
        exact absurd (hdone.2 hcarried) (hnot report)
  · -- the cycle ends before, so it neither calls nor forgets
    have hnone : ∀ report s' host', ¬ s.Presented host elapsed report s' host' :=
      fun report s' host' h => hpresented ⟨report, s', host', h⟩
    obtain ⟨hnot, hquiet⟩ := quiet_of_not_presented hnone
    exact ⟨[], hquiet.switched, fun report hran => absurd hran (hnot report),
      fun _ _ => hquiet.sounding⟩

/-! ## Main loops

Along its course by induction, and at its end once more: a main loop that stops in order asks for
silence, one that fails asks for nothing. -/

/-- **A main loop asks for changes only.** As long as no call has failed, what is remembered is how
the latest cycle that ran to its end left the sound timer. -/
theorem switched_of_course {limit : Option Nat} {clock : Nat → Nat} {p q : Progress}
    {reports : List Report} {stop : Stop} (h : Course limit clock p reports q stop) :
    ∃ asked, Switched ⟨p.session, p.host⟩ ⟨q.session, q.host⟩ asked ∧
      ((∀ c ∈ asked, c.done = true) →
        q.session.sounding = (reports.map (·.soundActive)).getLastD p.session.sounding) := by
  -- on the cycles: each of them goes on from what the ones before it left
  induction h with
  | unfinished p | @limit p =>
    have hquiet : Quiet ⟨p.session, p.host⟩ ⟨p.session, p.host⟩ := .of_calls_eq rfl rfl rfl
    exact ⟨[], hquiet.switched, fun _ => rfl⟩
  | @quit p hgo hresult | @failed p e hgo hresult | @crashed p c hgo hresult =>
    obtain ⟨asked, hswitched, -, hkept⟩ := p.session.switched_cycle p.host (clock p.summary.batches)
    refine ⟨asked, hswitched, hkept ?_⟩
    intro report hran
    have hran' : (p.cycle clock).result = .ran report := hran
    rw [hresult] at hran'
    contradiction
  | @ran p q report later stop hgo hresult _ ih =>
    obtain ⟨asked, hswitched, hran, -⟩ := p.session.switched_cycle p.host (clock p.summary.batches)
    obtain ⟨asked', hswitched', hlater⟩ := ih
    refine ⟨asked ++ asked', hswitched.trans hswitched', ?_⟩
    intro hall
    -- the cycles behind this one go on from what it has remembered
    have hhead : (p.counted (p.cycle clock) report).session.sounding = report.soundActive :=
      hran report hresult
    rw [hlater fun c hc => hall c (List.mem_append_right _ hc), hhead, List.map_cons,
      List.getLastD_cons]

/-- The orderly end of a main loop leaves the tone off, unless the speaker refuses. -/
theorem switched_wind (p : Progress) :
    ∃ asked, Switched ⟨p.session, p.host⟩ ⟨(wind p).session, (wind p).host⟩ asked ∧
      (((∃ total, (wind p).result = .finished total) ∧ (wind p).session.sounding = false) ∨
        ((∃ e, (wind p).result = .failed e) ∧ ∃ c ∈ asked, c.done = false)) := by
  obtain ⟨hsame, hchange⟩ := switched_soundAs p.session p.host false
  unfold wind
  by_cases hoff : false = p.session.sounding
  · -- the tone is off already, so there is nothing to ask for
    rw [hsame hoff]
    exact ⟨[], (Quiet.of_calls_eq rfl rfl rfl).switched, .inl ⟨⟨_, rfl⟩, hoff.symm⟩⟩
  · obtain ⟨done, hdone, hswitched⟩ := hchange hoff
    have hsounding := sounding_of_switched_one hswitched
    rcases hsound : p.session.soundAs p.host false with ⟨switched, s, host⟩
    rw [hsound] at hdone hswitched hsounding
    cases switched with
    | ok _ =>
      rw [if_pos (hdone.1 rfl)] at hsounding
      exact ⟨_, hswitched, .inl ⟨⟨_, rfl⟩, hsounding⟩⟩
    | error e =>
      have hrefused : done = false := by simpa using hdone
      exact ⟨_, hswitched, .inr ⟨⟨_, rfl⟩, _, List.mem_cons_self, hrefused⟩⟩

/-- A main loop that is finished leaves the tone off. One that fails, other than by a call to the
speaker, leaves it as the latest cycle did that ran to its end. -/
theorem switched_mainLoop (s : Session) (host : Host) (limit : Option Nat) (clock : Nat → Nat)
    (rounds : Nat) :
    let loop := s.mainLoop host limit clock rounds
    ∃ asked reports p stop, Switched ⟨s, host⟩ ⟨loop.session, loop.host⟩ asked ∧
      Course limit clock (s.begin host) reports p stop ∧ loop = conclude p stop ∧
      (∀ total, loop.result = .finished total → loop.session.sounding = false) ∧
      (∀ e, loop.result = .failed e → (∀ c ∈ asked, c.done = true) →
        loop.session.sounding = (reports.map (·.soundActive)).getLastD s.sounding) := by
  intro loop
  obtain ⟨reports, hcourse⟩ := course_cycles limit clock rounds (s.begin host)
  obtain ⟨asked, hswitched, hkept⟩ := switched_of_course hcourse
  rcases hcycles : cycles limit clock rounds (s.begin host) with ⟨p, stop⟩
  rw [hcycles] at hcourse hswitched hkept
  have hloop : loop = conclude p stop := by
    simp only [loop, mainLoop, hcycles]
  have hstart : Switched ⟨s, host⟩ ⟨p.session, p.host⟩ asked := hswitched
  rw [hloop]
  cases stop with
  | limit | quit =>
    -- the loop stops in order, and winds up after its last cycle
    obtain ⟨asked', hswitched', hend⟩ := switched_wind p
    refine ⟨asked ++ asked', reports, p, _, hstart.trans hswitched', hcourse, rfl, ?_, ?_⟩
    · intro total hfinished
      rcases hend with ⟨-, hoff⟩ | ⟨⟨e, hfailed⟩, -⟩
      · exact hoff
      · have hwind : (wind p).result = .finished total := hfinished
        rw [hfailed] at hwind
        contradiction
    · intro e hfailed hall
      rcases hend with ⟨⟨total, hfinished⟩, -⟩ | ⟨-, c, hc, hrefused⟩
      · have hwind : (wind p).result = .failed e := hfailed
        rw [hfinished] at hwind
        contradiction
      · rw [hall c (List.mem_append_right _ hc)] at hrefused
        contradiction
  -- there is no call after the last cycle
  | failed e | crashed c | unfinished =>
    exact ⟨asked, reports, p, _, hstart, hcourse, rfl, nofun, fun _ _ hall => hkept hall⟩

end Session

/-! ## Everything that can be done with a session

Cycles and main loops in any order, between them any other machine, other events and other refusals.
None of these has a say in whether the speaker is switched in turn. -/

/-- What can be done with a session. -/
inductive Visit
  | cycle (elapsed : Nat)
  /-- A main loop, as far as `rounds` follow it. -/
  | mainLoop (limit : Option Nat) (clock : Nat → Nat) (rounds : Nat)
  /-- Put the machine into any state: a program is loaded, keys or registers are changed. -/
  | setMachine (machine : Machine)
  /-- Other events come in, and from now on other calls are refused. -/
  | setHost (queue : List TerminalEvent) (refuses : Nat → HostCall → Bool)

namespace Scene

open Session

/-- The scene after a visit. -/
def visit (x : Scene) : Visit → Scene
  | .cycle elapsed =>
    let c := x.session.cycle x.host elapsed
    ⟨c.session, c.host⟩
  | .mainLoop limit clock rounds =>
    let loop := x.session.mainLoop x.host limit clock rounds
    ⟨loop.session, loop.host⟩
  | .setMachine machine => ⟨{ x.session with machine }, x.host⟩
  | .setHost queue refuses => ⟨x.session, { x.host with queue, refuses }⟩

/-- The scene after some visits, one after the other. -/
def visits (x : Scene) (vs : List Visit) : Scene :=
  vs.foldl visit x

/-- Every visit switches in turn. -/
theorem switched_visit (x : Scene) (v : Visit) : ∃ asked, Switched x (x.visit v) asked := by
  cases v with
  | cycle elapsed =>
    obtain ⟨asked, hswitched, -⟩ := x.session.switched_cycle x.host elapsed
    exact ⟨asked, hswitched⟩
  | mainLoop limit clock rounds =>
    obtain ⟨asked, -, -, -, hswitched, -⟩ :=
      x.session.switched_mainLoop x.host limit clock rounds
    exact ⟨asked, hswitched⟩
  | setMachine machine =>
    -- another machine or another queue makes no call
    have hquiet : Quiet x (x.visit (.setMachine machine)) := .of_calls_eq rfl rfl rfl
    exact ⟨[], hquiet.switched⟩
  | setHost queue refuses =>
    have hquiet : Quiet x (x.visit (.setHost queue refuses)) := .of_calls_eq rfl rfl rfl
    exact ⟨[], hquiet.switched⟩

/-- So do any visits, one after the other. -/
theorem switched_visits (x : Scene) (vs : List Visit) :
    ∃ asked, Switched x (x.visits vs) asked := by
  induction vs generalizing x with
  | nil => exact ⟨[], (Quiet.of_calls_eq rfl rfl rfl).switched⟩
  | cons v vs ih =>
    obtain ⟨asked, hfirst⟩ := x.switched_visit v
    obtain ⟨asked', hrest⟩ := ih (x.visit v)
    exact ⟨asked ++ asked', hfirst.trans hrest⟩

/-- A session whose speaker makes no sound, and that knows so. -/
def Silent (x : Scene) : Prop :=
  x.session.sounding = false ∧ x.session.speaker ≠ .beeper true

/-- From a silent session on, the session remembers how the host's speaker is left. -/
theorem Silent.beeping_eq {x now : Scene} (hsilent : x.Silent) {asked : List SoundCall}
    (h : Switched x now asked) {beeping : Bool} (hnow : now.session.speaker = .beeper beeping) :
    beeping = now.session.sounding := by
  obtain ⟨hoff, hspeaker⟩ := hsilent
  obtain ⟨records, -, hheard⟩ := h.calls
  rw [hnow] at hheard
  rw [h.inTurn.last, hoff]
  generalize x.session.speaker = speaker at hheard hspeaker
  cases hheard with
  | @beeper before hshown =>
    -- both have started off, and have followed the same calls since
    have hbefore : before = false := eq_false_of_ne_true fun hon => hspeaker (congrArg _ hon)
    rw [hbefore]

/-- **The speaker is switched on, off, on, off and so on.** From a silent session, whatever is done
with it and whatever fails meanwhile: the calls that were carried out alternate and begin with the
tone; what the session remembers is the last of them, and how the host's speaker was left. Where a
cycle runs to its end, that is the state of the sound timer. And a cycle that comes to its speaker
asks for a change if the timer's state is not what is remembered, which a refusal leaves as it was.
-/
theorem buzzer_switches_in_turn {x : Scene} (hsilent : x.Silent) (vs : List Visit) :
    let now := x.visits vs
    ∃ asked, Asked x now asked ∧ (carried asked).IsChain (· ≠ ·) ∧
      (∀ first ∈ (carried asked).head?, first = true) ∧
      (now.session.sounding = true ↔ (carried asked).getLast? = some true) ∧
      (∀ beeping, now.session.speaker = .beeper beeping → beeping = now.session.sounding) ∧
      ∀ elapsed,
        let c := now.session.cycle now.host elapsed
        (∀ report, c.result = .ran report → c.session.sounding = report.soundActive) ∧
        ∀ report s host, now.session.Presented now.host elapsed report s host →
          (report.soundActive = now.session.sounding → Asked now ⟨c.session, c.host⟩ []) ∧
          (report.soundActive ≠ now.session.sounding → ∃ done,
            Asked now ⟨c.session, c.host⟩ [⟨report.soundActive, done⟩] ∧
            (done = false → c.session.sounding = now.session.sounding)) := by
  intro now
  obtain ⟨asked, hswitched⟩ := x.switched_visits vs
  obtain ⟨halternate, hlast⟩ := hswitched.inTurn
  -- nothing is remembered at first, so the first call carried out is for the tone
  rw [hsilent.1] at halternate hlast
  obtain ⟨hfirst, hchain⟩ := List.isChain_cons.1 halternate
  refine ⟨asked, hswitched.calls, hchain, ?_, ?_, ?_, ?_⟩
  · intro first hmem
    exact eq_true_of_ne_false (hfirst first hmem).symm
  · rw [hlast, List.getLastD_eq_getLast?]
    cases (carried asked).getLast? with
    | none => simp
    | some on => simp
  · intro beeping hnow
    exact hsilent.beeping_eq hswitched hnow
  · intro elapsed
    obtain ⟨-, -, hran, -⟩ := now.session.switched_cycle now.host elapsed
    refine ⟨hran, ?_⟩
    intro report s host hpresented
    obtain ⟨hsame, hchange⟩ := switched_of_presented hpresented
    constructor
    · intro heq
      exact (hsame heq).2.switched.calls
    · intro hne
      obtain ⟨done, -, hone⟩ := hchange hne
      refine ⟨done, hone.calls, ?_⟩
      rintro rfl
      exact sounding_of_switched_one hone

/-- `6001 F018 1204` in a session with a terminal's keyboard and the host's speaker: the buzzer is
to sound for one tick. -/
def pulsing (host : Host) : Scene where
  session := {
    input := .terminal ⟨Vector.replicate 16 0, .literal⟩
    display := .recorder 0 none
    speaker := .beeper false
    machine := {
      memory := ⟨Ram.zero.overwrite 0x200 [0x60, 0x01, 0xf0, 0x18, 0x12, 0x04], 0x200, 0x50, 6⟩
      registers := .start 0x200
      stack := .empty
      screen := ⟨.blank 64 32, by decide, by decide⟩
      timers := .idle
      keypad := .released
      dialect := .legacy
      generator := .ofSeed 0
      idleAt := none
      faults := 0 }
    scheduler := ⟨3, 16666666, 16666666, 0, 0⟩
    batchInterval := 16666666
    sounding := false }
  host := host

/-- The tone is off, and is remembered as off. -/
theorem silent_pulsing (host : Host) : (pulsing host).Silent :=
  ⟨rfl, nofun⟩

/-- The host refuses the first call, so the second cycle asks again, and is heard. -/
theorem buzzer_asks_again :
    let x := pulsing (.start [] fun calls _ => calls = 0)
    let now := x.visits [.cycle 0, .cycle 0]
    x.Silent ∧ ∃ asked, Asked x now asked ∧ (carried asked).IsChain (· ≠ ·) ∧
      (∀ first ∈ (carried asked).head?, first = true) ∧
      (carried asked).getLast? = some true ∧ now.session.speaker = .beeper true ∧
      now.host.calls.toList = [⟨.sound 2093, false⟩, ⟨.sound 2093, true⟩] := by
  intro x now
  obtain ⟨asked, hasked, hchain, hfirst, hflag, -⟩ :=
    buzzer_switches_in_turn (silent_pulsing _) [.cycle 0, .cycle 0]
  obtain ⟨hsounding, hspeaker, hcalls⟩ : now.session.sounding = true ∧
      now.session.speaker = .beeper true ∧
      now.host.calls.toList = [⟨.sound 2093, false⟩, ⟨.sound 2093, true⟩] := by decide +kernel
  exact ⟨silent_pulsing _, asked, hasked, hchain, hfirst, hflag.1 hsounding, hspeaker, hcalls⟩

end Scene

end Cosmac
