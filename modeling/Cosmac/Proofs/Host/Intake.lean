import Cosmac.Proofs.Host.KeyHold

/-!
# Cosmac — what polls take in

Polls one after the other share the queue of the terminal: each takes a part off the front, and what
it leaves is found by the next. More events may come in before each of them, at the back.

That no event is lost and none read twice is a statement about the queue as it was and is: what the
polls so far have used up, followed by what is in the queue now, is everything that has come in. One
poll cuts the queue that it finds in two, and the induction along the polls moves the cut.

* `Intake` says that a poll takes in exactly some events: they alone decide what it does, and all
  others stay in the queue.
* `Finishes` says that a poll takes in what it should and comes to an end of its own; `finishes_iff`
  — it does so exactly if no key past the pad is among these events.
* `turn_of_polls` — the queue and the counts that a poll finds, from all that was before it.
* `every_event_read_once` — no poll in a sequence loses an event or takes one twice, also if it
  crashes.
-/

namespace Cosmac

namespace Keyboard

variable {keymap : KeyMap}

/-! ## One poll

A poll is reading, from counts that have aged. So the fields of `Intake` are those of a reading, and
what `read_eq` says of it. -/

/-- The counts that a poll leaves which takes in some events: all counts age, then the presses start
theirs anew. -/
def heldAfter (keymap : KeyMap) (held : Held) (events : List TerminalEvent) : Held :=
  hold (age held) (presses keymap events)

/-- A poll that finds some counts and a queue takes in exactly some events. -/
structure Intake (keymap : KeyMap) (held : Held) (queue events : List TerminalEvent) (p : Poll) :
    Prop where
  /-- The loop ends, and in no other way than this. -/
  ends : ∀ reading, Reads keymap (age held) queue reading ↔
    reading = ⟨heldAfter keymap held events, p.host.queue, p.log, p.result⟩
  /-- The events are those in front, and the others stay. -/
  splits : events ++ p.host.queue = queue
  counts : p.device = device keymap (heldAfter keymap held events)
  log : p.log = reports keymap events
  result : p.result = ending keymap events
  /-- Where an event ended the loop, it ends in the same way whatever is queued behind. -/
  alone : (∃ e ∈ events, (keymap.ending? e).isSome = true) → ∀ behind reading,
    Reads keymap (age held) (events ++ behind) reading ↔
      reading = ⟨heldAfter keymap held events, behind, p.log, p.result⟩

/-- A poll takes in what it should, the events up to the first that ends every poll, and comes to an
end of its own. -/
structure Finishes (keymap : KeyMap) (held : Held) (queue : List TerminalEvent) (p : Poll) :
    Prop extends Intake keymap held queue (taken queue) p where
  not_crashed : ∀ c, p.result ≠ .error (.crashed c)

/-- A poll takes in what it uses up, whatever the key map, the counts and the queue are. -/
theorem intake_poll (keymap : KeyMap) (held : Held) (host : Host) (k : Keypad) :
    Intake keymap held host.queue (usedUp keymap host.queue)
      ((device keymap held).poll host k) := by
  have hread := read_eq keymap (age held) host.queue
  have hrest : ((device keymap held).poll host k).host.queue =
      host.queue.drop (usedUp keymap host.queue).length :=
    congrArg Reading.rest hread
  have hlog : ((device keymap held).poll host k).log = reports keymap (usedUp keymap host.queue) :=
    congrArg Reading.log hread
  have hresult : ((device keymap held).poll host k).result =
      ending keymap (usedUp keymap host.queue) :=
    congrArg Reading.result hread
  refine ⟨?_, usedUp_append_rest keymap (age held) host.queue, ?_, hlog, hresult, ?_⟩
  · intro reading
    rw [reads_iff, hread, hrest, hlog, hresult]
    rfl
  · exact congrArg (fun reading : Reading => device keymap reading.held) hread
  · intro hends behind reading
    -- with other events behind, the same part is used up, and the rest is those events
    rw [reads_iff, read_eq, usedUp_append hends, List.drop_left, hlog, hresult]
    rfl

/-- A poll finishes exactly if no key past the pad is among the events that it should take in. -/
theorem finishes_iff (keymap : KeyMap) (held : Held) (host : Host) (k : Keypad) :
    Finishes keymap held host.queue ((device keymap held).poll host k) ↔
      ∀ e ∈ taken host.queue, ¬ keymap.Misses e := by
  have hintake := intake_poll keymap held host k
  constructor
  · -- a key past the pad that should be taken is met, and the poll crashes
    intro hfinishes e hmem hmisses
    have hused := (misses_usedUp_iff host.queue).2 ⟨e, hmem, hmisses⟩
    obtain ⟨c, hcrash⟩ := (crashes_iff host.queue).2 hused
    exact hfinishes.not_crashed c (hintake.result.trans hcrash)
  · intro hpad
    -- without one nothing stops the poll early
    have hused : ∀ e ∈ usedUp keymap host.queue, ¬ keymap.Misses e :=
      fun e hmem => hpad e ((usedUp_isPrefix_taken host.queue).subset hmem)
    refine ⟨usedUp_eq_taken hused ▸ hintake, ?_⟩
    intro c hcrash
    obtain ⟨e, hmem, hmisses⟩ := (crashes_iff host.queue).1 ⟨c, hintake.result.symm.trans hcrash⟩
    exact hused e hmem hmisses

/-! ## Polls one after the other

The counts that a poll finds are those that the polls before it have left, one after the other, each
from its own part of the queue. -/

/-- What the polls before a turn have used up, and the queue that it finds, are all events that have
come so far; the counts that it finds are those that the polls before it leave. -/
theorem turn_of_polls {held : Held} {host : Host} {k : Keypad}
    {arrivals : List (List TerminalEvent)} {n : Nat} {t : InputDevice.Turn}
    (ht : ((device keymap held).polls host k arrivals)[n]? = some t) :
    let earlier := (((device keymap held).polls host k arrivals).take n).map fun turn =>
      usedUp keymap turn.queue
    earlier.flatten ++ t.queue = host.queue ++ (arrivals.take (n + 1)).flatten ∧
      ∃ host', host'.queue = t.queue ∧
        t.poll = (device keymap (earlier.foldl (heldAfter keymap) held)).poll host' t.keypad := by
  -- the first poll leaves its counts and its queue to those after it
  induction arrivals generalizing held host k n with
  | nil => contradiction
  | cons arrived rest ih =>
    let found : Host := { host with queue := host.queue ++ arrived }
    let p := (device keymap held).poll found k
    have hintake : Intake keymap held found.queue (usedUp keymap found.queue) p :=
      intake_poll keymap held found k
    have hturns : (device keymap held).polls host k (arrived :: rest) = ⟨found.queue, k, p⟩ ::
        (device keymap (heldAfter keymap held (usedUp keymap found.queue))).polls p.host p.keypad
          rest := by
      rw [← hintake.counts]
      rfl
    rw [hturns] at ht ⊢
    cases n with
    | zero =>
      obtain rfl := Option.some.inj ht
      -- nothing was used up before the first poll
      refine ⟨?_, found, rfl, rfl⟩
      simp [found]
    | succ n =>
      obtain ⟨hall, hpoll⟩ := ih ht
      -- what the first poll has used up stands before what the others have, and its rest is their
      -- queue
      refine ⟨?_, hpoll⟩
      rw [List.take_succ_cons, List.map_cons, List.flatten_cons, List.append_assoc]
      calc
        _ = usedUp keymap found.queue ++ (p.host.queue ++ (rest.take (n + 1)).flatten) :=
          congrArg (usedUp keymap found.queue ++ ·) hall
        _ = found.queue ++ (rest.take (n + 1)).flatten := by
          rw [← List.append_assoc, hintake.splits]
        _ = host.queue ++ ((arrived :: rest).take (n + 1 + 1)).flatten := by
          rw [List.take_succ_cons, List.flatten_cons, List.append_assoc]

/-- **Every event is read once and in order, and a poll finishes unless it meets a key past the
pad.** For every key map, all counts and every queue, and whatever comes in before each of the
polls: what the polls before have used up, and the queue that a poll finds, are the events so far.
It takes a part off the front, and this part alone decides the counts, the reports and the end. The
part is the one up to the first event that ends every poll, and the poll comes to an end of its own,
exactly if no key past the pad is in it. -/
theorem every_event_read_once (keymap : KeyMap) (held : Held) (host : Host) (k : Keypad)
    (arrivals : List (List TerminalEvent)) :
    let turns := (device keymap held).polls host k arrivals
    turns.length = arrivals.length ∧
      ∀ n t, turns[n]? = some t →
        let earlier := (turns.take n).map fun turn => usedUp keymap turn.queue
        let found := earlier.foldl (heldAfter keymap) held
        earlier.flatten ++ t.queue = host.queue ++ (arrivals.take (n + 1)).flatten ∧
          Intake keymap found t.queue (usedUp keymap t.queue) t.poll ∧
          (Finishes keymap found t.queue t.poll ↔ ∀ e ∈ taken t.queue, ¬ keymap.Misses e) := by
  intro turns
  refine ⟨InputDevice.length_polls _ _ _ _, ?_⟩
  intro n t ht earlier found
  obtain ⟨hall, host', hqueue, hpoll⟩ := turn_of_polls ht
  refine ⟨hall, ?_, ?_⟩
  · rw [← hqueue, hpoll]
    exact intake_poll keymap found host' t.keypad
  · rw [← hqueue, hpoll]
    exact finishes_iff keymap found host' t.keypad

/-- Four polls with the keys on the left of a keyboard. Somebody quits, a poll and a read fail, and
the last poll still shows the three keys that were pressed before the pause. -/
theorem read_in_four_polls :
    let host := Host.start [.key 'Q', .escape, .key '?', .other, .pollFailure, .key 'w', .readFailure,
      .key 'e'] fun _ _ => false
    let turns := (device .conventional (Vector.replicate 16 0)).polls host .released
      [[], [], [.pause, .key 'r'], []]
    turns.map (fun turn => usedUp .conventional turn.queue) =
        [[.key 'Q', .escape], [.key '?', .other, .pollFailure], [.key 'w', .readFailure],
          [.key 'e', .pause]] ∧
      ∃ t found, turns[3]? = some t ∧ Finishes .conventional found t.queue t.poll ∧
        t.poll.host.queue = [.key 'r'] ∧ t.poll.keypad.down = [4, 5, 6] := by
  intro host turns
  have hlast : turns[3]? = some turns[3] := rfl
  obtain ⟨-, hall⟩ := every_event_read_once .conventional (Vector.replicate 16 0) host .released
    [[], [], [.pause, .key 'r'], []]
  obtain ⟨-, -, hfinishes⟩ := hall 3 _ hlast
  refine ⟨by decide, _, _, hlast, hfinishes.2 ?_, by decide, by decide +kernel⟩
  intro e _
  exact KeyMap.not_misses (by decide) e

/-- A key map with a key past the pad. Its press crashes the poll, which then leaves the press
behind it in the queue. -/
theorem not_finishes_past_pad :
    let keymap := [('a', 16), ('b', 11)]
    let host := Host.start [.key 'a', .key 'b'] fun _ _ => false
    let p := (device keymap (Vector.replicate 16 0)).poll host .released
    taken host.queue = [.key 'a', .key 'b'] ∧ p.result = .error (.crashed .noSuchKey) ∧
      p.host.queue = [.key 'b'] ∧ p.keypad.isDown? 11 = some false ∧
      ∀ found, ¬ Finishes keymap found host.queue p := by
  intro keymap host p
  have hresult : p.result = .error (.crashed .noSuchKey) := rfl
  refine ⟨rfl, hresult, rfl, rfl, ?_⟩
  intro found hfinishes
  exact hfinishes.not_crashed .noSuchKey hresult

end Keyboard

end Cosmac
