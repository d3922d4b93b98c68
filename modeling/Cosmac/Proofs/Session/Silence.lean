import Cosmac.Proofs.Session.Buzzer

/-!
# Cosmac — silence after a main loop

A main loop that is finished has switched the buzzer off. One that fails gives up at once, with the
buzzer as it is.

How the buzzer is left is what the last call to the speaker asked for. With no call refused that is
what the session remembers, so the question is what is remembered at the end. A main loop in order
ends with a request for silence; one that fails has remembered the sound timer of the last cycle
that came to its end, and the tone stays if that timer was running.

* `LeftOff` says that the buzzer was left off: the last call to the speaker, if any, asked for
  silence.
* `off_after_mainLoop_iff` — after a failure this is so exactly if the latest cycle that ran to its
  end left the sound timer at zero.
* `off_at_limit` and `not_off_after_failed_poll` — one program, with the tone on, and a main loop
  that comes to its limit or to a failing poll.
-/

namespace Cosmac

open Session

/-- The last call to the speaker, if any, asked for silence, and the host's speaker is off. -/
def LeftOff (asked : List SoundCall) (s : Session) : Prop :=
  (∀ last ∈ asked.getLast?, last.on = false) ∧ s.speaker ≠ .beeper true

/-- The last of some truth values, if any, is false. -/
theorem getLastD_map_eq_false_iff {α : Type} (l : List α) (f : α → Bool) :
    (l.map f).getLastD false = false ↔ ∀ last ∈ l.getLast?, f last = false := by
  rw [List.getLastD_eq_getLast?, List.getLast?_map]
  cases l.getLast? with
  | none => simp
  | some last => simp

/-- Where no call failed, the buzzer is left off exactly if the session remembers it so. -/
theorem leftOff_iff {x now : Scene} {asked : List SoundCall} (hsilent : x.Silent)
    (h : Switched x now asked) (hall : ∀ c ∈ asked, c.done = true) :
    LeftOff asked now.session ↔ now.session.sounding = false := by
  -- without refusals the last call made is the last carried out
  have hlast : now.session.sounding = false ↔ ∀ last ∈ asked.getLast?, last.on = false := by
    rw [h.inTurn.last, SoundCall.carried_of_all_done hall, hsilent.1]
    exact getLastD_map_eq_false_iff asked (·.on)
  constructor
  · rintro ⟨hcall, -⟩
    exact hlast.2 hcall
  · intro hoff
    refine ⟨hlast.1 hoff, ?_⟩
    intro hbeeping
    have hon := hsilent.beeping_eq h hbeeping
    rw [hoff] at hon
    contradiction

/-- A host that has carried out every call has carried out those to its speaker. -/
theorem Asked.all_done {x now : Scene} {asked : List SoundCall} (h : Asked x now asked)
    (hcalls : ∀ r ∈ now.host.calls.toList, r.done = true) : ∀ c ∈ asked, c.done = true := by
  obtain ⟨records, hrecords, hheard⟩ := h
  intro c hc
  generalize x.session.speaker = before, now.session.speaker = after at hheard
  cases hheard with
  | mute _ hdone => exact hdone c hc
  -- a call to the speaker is on the host's record, and so are its fortunes
  | beeper hshown =>
    have hmem : c.record ∈ records.filter (·.isSound) := by
      rw [hshown]
      exact List.mem_map_of_mem hc
    refine hcalls c.record ?_
    rw [hrecords]
    exact List.mem_append_right _ (List.mem_filter.1 hmem).1

namespace Scene

/-- **After a main loop the buzzer is off, unless it failed while the buzzer was on.** From a silent
session, with every limit, clock and host, and if no call to the speaker failed: a loop that is
finished leaves the buzzer off; one that fails leaves it off exactly if the latest of its cycles
that ran to its end left the sound timer at zero. -/
theorem off_after_mainLoop_iff {x : Scene} (hsilent : x.Silent) (limit : Option Nat)
    (clock : Nat → Nat) (rounds : Nat) :
    let loop := x.session.mainLoop x.host limit clock rounds
    ∃ asked reports p stop, Asked x ⟨loop.session, loop.host⟩ asked ∧
      Course limit clock (x.session.begin x.host) reports p stop ∧ loop = conclude p stop ∧
      ((∀ c ∈ asked, c.done = true) →
        (∀ total, loop.result = .finished total → LeftOff asked loop.session) ∧
        (∀ e, loop.result = .failed e → (LeftOff asked loop.session ↔
          ∀ latest ∈ reports.getLast?, latest.soundActive = false))) := by
  intro loop
  obtain ⟨asked, reports, p, stop, hswitched, hcourse, hloop, hfinished, hfailed⟩ :=
    x.session.switched_mainLoop x.host limit clock rounds
  refine ⟨asked, reports, p, stop, hswitched.calls, hcourse, hloop, ?_⟩
  intro hall
  have hoff := leftOff_iff hsilent hswitched hall
  refine ⟨?_, ?_⟩
  · intro total hresult
    exact hoff.2 (hfinished total hresult)
  · intro e hresult
    have hlatest := hfailed e hresult hall
    -- a session without any such cycle remembers the silence that it began with
    rw [hsilent.1] at hlatest
    rw [hoff, hlatest]
    exact getLastD_map_eq_false_iff reports (·.soundActive)

/-- A host whose keyboard fails at the second poll, and that refuses nothing. -/
def failingHost : Host :=
  .start [.pause, .pollFailure] fun _ _ => false

/-- At its limit a main loop switches the buzzer off, although the sound timer is running. -/
theorem off_at_limit :
    let x := pulsing failingHost
    let loop := x.session.mainLoop x.host (some 1) (fun _ => 0) 2
    x.Silent ∧ loop.result = .finished ⟨1, 2, 0, 0⟩ ∧ loop.session.machine.timers.sound = 1 ∧
      ∃ asked, Asked x ⟨loop.session, loop.host⟩ asked ∧ (∀ c ∈ asked, c.done = true) ∧
        LeftOff asked loop.session := by
  intro x loop
  obtain ⟨asked, reports, p, stop, hasked, -, -, hoff⟩ :=
    off_after_mainLoop_iff (silent_pulsing failingHost) (some 1) (fun _ => 0) 2
  obtain ⟨hresult, hsound, hcalls⟩ : loop.result = .finished ⟨1, 2, 0, 0⟩ ∧
      loop.session.machine.timers.sound = 1 ∧
      loop.host.calls.toList = [⟨.sound 2093, true⟩, ⟨.sound 0, true⟩] := by decide +kernel
  have hall : ∀ c ∈ asked, c.done = true := by
    refine hasked.all_done ?_
    rw [hcalls]
    simp
  exact ⟨silent_pulsing _, hresult, hsound, asked, hasked, hall, (hoff hall).1 _ hresult⟩

/-- The second poll fails while the buzzer is on. The main loop gives up, and no call to the speaker
follows. -/
theorem not_off_after_failed_poll :
    let x := pulsing failingHost
    let loop := x.session.mainLoop x.host none (fun _ => 0) 2
    x.Silent ∧ loop.result = .failed (.io (.refused "poll")) ∧
      loop.host.calls.toList = [⟨.sound 2093, true⟩] ∧
      ∃ asked, Asked x ⟨loop.session, loop.host⟩ asked ∧ (∀ c ∈ asked, c.done = true) ∧
        ¬ LeftOff asked loop.session := by
  intro x loop
  obtain ⟨hresult, hspeaker, hcalls⟩ : loop.result = .failed (.io (.refused "poll")) ∧
      loop.session.speaker = .beeper true ∧
      loop.host.calls.toList = [⟨.sound 2093, true⟩] := by decide +kernel
  have hheard : Speaker.Heard [⟨.sound 2093, true⟩] [⟨true, true⟩] (.beeper false)
      loop.session.speaker := by
    rw [hspeaker]
    exact .beeper rfl
  refine ⟨silent_pulsing _, hresult, hcalls, [⟨true, true⟩], ⟨_, hcalls, hheard⟩, by simp, ?_⟩
  rintro ⟨-, hoff⟩
  exact hoff hspeaker

end Scene

end Cosmac
