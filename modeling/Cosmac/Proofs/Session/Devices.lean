import Cosmac.Proofs.Session.Accounting

/-!
# Cosmac — the devices of a session

A terminal is taken over by some calls and given back by others. In between, a session asks it for
pictures and sounds, and for nothing else.

This is a relation between two scenes again, and it goes the way of the buzzer: stage by stage along
a cycle, cycle by cycle along a main loop. The calls that take a terminal over and give it back come
in rows, of which one kind stops at the first refusal and the other goes on.

* `Host.callInTurn_cases` and `Host.exists_callAll` — what the host has recorded after several
  calls.
* `Plays` — from one scene to a later one, there were only pictures and sounds, and the devices are
  what they were.
* `plays_cycle` and `plays_mainLoop` — so it is for cycles and main loops.
-/

namespace Cosmac

/-! ## Calls

Every call is recorded, carried out or not. A row of calls that needs all of them to succeed stops
behind the first that is refused; a row that cleans up goes on regardless. -/

namespace HostCall

/-- Whether a call is for something to see or to hear. -/
def isOutput : HostCall → Bool
  | .draw _ | .sound _ => true
  | _ => false

/-- A call that was carried out. -/
def carriedOut (c : HostCall) : CallRecord :=
  ⟨c, true⟩

end HostCall

namespace Host

/-- One more call is one more record. -/
theorem exists_call (h : Host) (c : HostCall) :
    ∃ done, (h.call c).2.calls.toList = h.calls.toList ++ [⟨c, done⟩] := by
  rcases h.call_cases c with hcall | hcall
  · rw [hcall]
    exact ⟨true, Array.toList_push⟩
  · rw [hcall]
    exact ⟨false, Array.toList_push⟩

/-- Calls in turn are all carried out, or up to one that is refused, which is the last. -/
theorem callInTurn_cases (h : Host) (cs : List HostCall) :
    (∃ h', h.callInTurn cs = (.ok (), h') ∧
        h'.calls.toList = h.calls.toList ++ cs.map (·.carriedOut)) ∨
      ∃ e h' earlier c later, h.callInTurn cs = (.error e, h') ∧ cs = earlier ++ c :: later ∧
        h'.calls.toList = h.calls.toList ++ (earlier.map (·.carriedOut) ++ [⟨c, false⟩]) := by
  induction cs generalizing h with
  | nil => exact .inl ⟨h, rfl, (List.append_nil _).symm⟩
  | cons c rest ih =>
    rcases h.call_cases c with hcall | hcall
    · have hcalls : ({ h with calls := h.calls.push ⟨c, true⟩ } : Host).calls.toList =
          h.calls.toList ++ [c.carriedOut] := Array.toList_push
      have hturn : h.callInTurn (c :: rest) =
          ({ h with calls := h.calls.push ⟨c, true⟩ } : Host).callInTurn rest := by
        simp only [callInTurn, hcall]
      rw [hturn]
      rcases ih { h with calls := h.calls.push ⟨c, true⟩ } with
        ⟨h', hrest, hcalls'⟩ | ⟨e, h', earlier, c', later, hrest, hsplit, hcalls'⟩
      · refine .inl ⟨h', hrest, ?_⟩
        rw [hcalls', hcalls, List.append_assoc]
        rfl
      · refine .inr ⟨e, h', c :: earlier, c', later, hrest, by rw [hsplit]; rfl, ?_⟩
        rw [hcalls', hcalls, List.append_assoc]
        rfl
    · -- the host refuses, and the calls behind are never made
      refine .inr ⟨_, _, [], c, rest, by simp only [callInTurn, hcall]; rfl, rfl, ?_⟩
      exact Array.toList_push

/-- Calls that are made whatever becomes of them are all recorded. -/
theorem exists_callAll (h : Host) (cs : List HostCall) :
    ∃ records, (h.callAll cs).calls.toList = h.calls.toList ++ records ∧
      records.map (·.call) = cs := by
  induction cs generalizing h with
  | nil => exact ⟨[], (List.append_nil _).symm, rfl⟩
  | cons c rest ih =>
    obtain ⟨done, hcall⟩ := h.exists_call c
    obtain ⟨records, hrest, hrecords⟩ := ih (h.call c).2
    refine ⟨⟨c, done⟩ :: records, ?_, by rw [List.map_cons, hrecords]⟩
    show ((h.call c).2.callAll rest).calls.toList = _
    rw [hrest, hcall, List.append_assoc, List.singleton_append]

end Host

/-! ## Between opening and closing

Each stage of a cycle keeps a terminal a terminal. What it asks the host for can be seen or heard.
-/

/-- A session that has taken the terminal over, to read from it and to draw on it. -/
structure Session.OnTerminal (s : Session) : Prop where
  input : ∃ keyboard, s.input = .terminal keyboard
  display : ∃ width height, s.display = .terminal width height

/-- From one scene to a later one, nothing was asked for but pictures and sounds, and a terminal
that was taken over still is. -/
structure Plays (before after : Scene) : Prop where
  devices : before.session.OnTerminal → after.session.OnTerminal
  calls : ∃ records, after.host.calls.toList = before.host.calls.toList ++ records ∧
    ∀ r ∈ records, r.call.isOutput = true

theorem Plays.refl (x : Scene) : Plays x x :=
  ⟨id, [], (List.append_nil _).symm, List.forall_mem_nil _⟩

/-- Two stretches make one. -/
theorem Plays.trans {x y z : Scene} (h : Plays x y) (h' : Plays y z) : Plays x z := by
  obtain ⟨records, hcalls, houtput⟩ := h.calls
  obtain ⟨records', hcalls', houtput'⟩ := h'.calls
  refine ⟨h'.devices ∘ h.devices, records ++ records', ?_, ?_⟩
  · rw [hcalls', hcalls, List.append_assoc]
  · intro r hr
    rcases List.mem_append.1 hr with hr | hr
    · exact houtput r hr
    · exact houtput' r hr

/-- One call more, for something to see or to hear. -/
theorem Host.exists_call_output (h : Host) {c : HostCall} (hc : c.isOutput = true) :
    ∃ records, (h.call c).2.calls.toList = h.calls.toList ++ records ∧
      ∀ r ∈ records, r.call.isOutput = true := by
  obtain ⟨done, hcall⟩ := h.exists_call c
  refine ⟨_, hcall, ?_⟩
  intro r hr
  rw [List.mem_singleton.1 hr]
  exact hc

namespace Session

variable {s s' : Session} {host host' : Host}

/-- A poll keeps the keyboard, with other counts, and calls nobody. -/
theorem plays_listened (s : Session) (host : Host) :
    Plays ⟨s, host⟩ ⟨s.listened host, (s.polled host).host⟩ := by
  refine ⟨?_, [], ?_, List.forall_mem_nil _⟩
  · rintro ⟨⟨keyboard, hinput⟩, hdisplay⟩
    refine ⟨?_, hdisplay⟩
    show ∃ keyboard, (s.input.poll host s.machine.keypad).device = .terminal keyboard
    rw [hinput]
    exact ⟨_, rfl⟩
  · rw [List.append_nil]
    exact congrArg _ (InputDevice.calls_poll _ _ _)

/-- A batch is between the machine and the clock. -/
theorem plays_worked (s : Session) (host : Host) (elapsed : Nat) :
    Plays ⟨s, host⟩ ⟨s.worked host elapsed, (s.polled host).host⟩ :=
  ⟨fun h => ⟨((s.plays_listened host).devices h).input, h.display⟩, (s.plays_listened host).calls⟩

/-- Showing a frame plays, whatever comes of it. -/
theorem plays_of_present {due : Bool} {shown : Except (Stopped HostError) Unit}
    (h : s.present host due = (shown, s', host')) : Plays ⟨s, host⟩ ⟨s', host'⟩ := by
  obtain ⟨rfl, rfl⟩ : (s.present host due).2.1 = s' ∧ (s.present host due).2.2 = host' := by
    rw [h]
    exact ⟨rfl, rfl⟩
  cases due with
  | false => exact .refl _
  | true =>
    -- a terminal stays a terminal, and is asked for a picture at most
    simp only [present, if_true]
    cases hdisplay : s.display with
    | recorder frames last =>
      refine ⟨?_, [], (List.append_nil _).symm, List.forall_mem_nil _⟩
      rintro ⟨-, width, height, hterminal⟩
      have hterminal' : s.display = .terminal width height := hterminal
      rw [hdisplay] at hterminal'
      contradiction
    | terminal width height =>
      have hdevices (kept : Display) (hkept : kept = .terminal width height)
          (hterminal : s.OnTerminal) : OnTerminal { s with display := kept } :=
        ⟨hterminal.input, width, height, hkept⟩
      simp only [Display.present]
      split
      · cases Picture.ofFrame? s.machine.screen.frame with
        | error c => exact ⟨hdevices _ rfl, [], (List.append_nil _).symm, List.forall_mem_nil _⟩
        | ok picture => exact ⟨hdevices _ rfl, host.exists_call_output rfl⟩
      · exact ⟨hdevices _ rfl, [], (List.append_nil _).symm, List.forall_mem_nil _⟩

/-- So does switching the speaker. -/
theorem plays_of_soundAs {active : Bool} {switched : Except HostError Unit}
    (h : s.soundAs host active = (switched, s', host')) : Plays ⟨s, host⟩ ⟨s', host'⟩ := by
  refine ⟨?_, ?_⟩
  · obtain ⟨⟨speaker, sounding, rfl⟩, -⟩ := eq_of_soundAs h
    exact fun hterminal => ⟨hterminal.input, hterminal.display⟩
  · obtain rfl : (s.soundAs host active).2.2 = host' := by rw [h]
    -- where the speaker is not asked, no call is added
    have hnone : ∃ records, host.calls.toList = host.calls.toList ++ records ∧
        ∀ r ∈ records, r.call.isOutput = true := ⟨[], (List.append_nil _).symm, List.forall_mem_nil _⟩
    unfold soundAs
    split
    · exact hnone
    · cases s.speaker with
      | mute starts stops =>
        cases active with
        | _ => exact hnone
      | beeper beeping =>
        let sound := HostCall.sound (if active then Speaker.pitch else 0)
        have houtput := host.exists_call_output (c := sound) rfl
        -- carried out or refused, the call is recorded
        rcases host.call_cases sound with hcall | hcall
        all_goals
          rw [hcall] at houtput
          simp only [Speaker.switch, sound, hcall]
          exact houtput

/-- **A cycle plays**, whichever of its stages it ends in. -/
theorem plays_cycle (s : Session) (host : Host) (elapsed : Nat) :
    Plays ⟨s, host⟩ ⟨(s.cycle host elapsed).session, (s.cycle host elapsed).host⟩ := by
  have hend := s.cycleEnd_cycle host elapsed
  generalize s.cycle host elapsed = c at hend ⊢
  cases hend with
  | pollFailed | pollCrashed | quit => exact s.plays_listened host
  | batchCrashed => exact s.plays_worked host elapsed
  | drawFailed _ hdraw | drawCrashed _ hdraw =>
    exact (s.plays_worked host elapsed).trans (plays_of_present hdraw)
  | soundFailed hpresented hsound | ran hpresented hsound =>
    exact ((s.plays_worked host elapsed).trans (plays_of_present hpresented.shown)).trans
      (plays_of_soundAs hsound)

/-! ## Main loops

By induction along the course. The end of a main loop in order is one more sound at most. -/

/-- The cycles of a main loop play, one after the other. -/
theorem plays_of_course {limit : Option Nat} {clock : Nat → Nat} {p q : Progress}
    {reports : List Report} {stop : Stop} (h : Course limit clock p reports q stop) :
    Plays ⟨p.session, p.host⟩ ⟨q.session, q.host⟩ := by
  induction h with
  | unfinished p | limit => exact .refl _
  | @quit p | @failed p | @crashed p => exact p.session.plays_cycle p.host _
  | @ran p _ _ _ _ _ _ _ ih => exact (p.session.plays_cycle p.host _).trans ih

/-- So does its end. -/
theorem plays_wind (p : Progress) :
    Plays ⟨p.session, p.host⟩ ⟨(wind p).session, (wind p).host⟩ := by
  rcases hsound : p.session.soundAs p.host false with ⟨switched, s, host⟩
  unfold wind
  rw [hsound]
  cases switched with
  | _ => exact plays_of_soundAs hsound

/-- **So does a main loop**, however it ends. -/
theorem plays_mainLoop (s : Session) (host : Host) (limit : Option Nat) (clock : Nat → Nat)
    (rounds : Nat) :
    Plays ⟨s, host⟩ ⟨(s.mainLoop host limit clock rounds).session,
      (s.mainLoop host limit clock rounds).host⟩ := by
  obtain ⟨reports, hcourse⟩ := course_cycles limit clock rounds (s.begin host)
  unfold mainLoop
  rcases hcycles : cycles limit clock rounds (s.begin host) with ⟨p, stop⟩
  rw [hcycles] at hcourse
  have hplays : Plays ⟨s, host⟩ ⟨p.session, p.host⟩ := plays_of_course hcourse
  cases stop with
  | limit | quit => exact hplays.trans (plays_wind p)
  | failed | crashed | unfinished => exact hplays

end Session

end Cosmac
