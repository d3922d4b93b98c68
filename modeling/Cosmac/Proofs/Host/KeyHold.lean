import Cosmac.Proofs.Host.Reading

/-!
# Cosmac — how long a key is held

A terminal reports presses only, so a press counts as held for six polls: the one that read it and
the five after it, whether they succeed or not.

The keyboard keeps one count for each key, which starts at six with a press and is one less with
each poll. A count cannot tell when its key was pressed, only how long it is still to be down. So
the invariant is not about one number of polls but about all: a key counts for more than `m` polls
exactly if a press that is less than `6 - m` polls old is in the past. One poll makes every press
one poll older and every count one less, which is the same statement for `m + 1`.

* `Pressed` says which keys the events press that a poll has `taken` off the queue.
* `Recalls` is the invariant: a key still counts for more than `m` polls exactly if it was pressed
  less than six polls ago, `m` of them added. `recalls_read` — every poll keeps it.
* `down_iff_of_recalls` — from any past, by induction along the polls.
* `down_iff_pressed_lately` — so after a poll exactly the keys of the last six polls are down.
-/

namespace Cosmac

/-! ## What a poll reads

With a key map of pad keys no press misses the pad, so what a poll uses up is what it should take,
and the facts about what is used up become facts about what is taken. -/

/-- Some of the events is the press of a character that stands for the key, in whichever case. -/
def Keyboard.Pressed (keymap : KeyMap) (events : List TerminalEvent) (key : Fin 16) : Prop :=
  ∃ c, .key c ∈ events ∧ keymap.Sends c.toLower key.val

namespace Keyboard

variable {keymap : KeyMap}

/-- Every count that has not run out is one less after a poll. -/
theorem get_age (held : Held) (key : Fin 16) : (age held).get key = held.get key - 1 := by
  show (age held)[key.val] = held[key.val] - 1
  rw [age, Vector.getElem_map]

/-- A key is among the presses of some events exactly if one of them presses it. -/
theorem mem_presses_iff (events : List TerminalEvent) (key : Fin 16) :
    key.val ∈ presses keymap events ↔ Pressed keymap events key := by
  simp only [presses, List.mem_filterMap, Pressed, ← KeyMap.key?_eq_some_iff]
  constructor
  · rintro ⟨e, hmem, hkey⟩
    cases e with
    | key c => exact ⟨c, hmem, hkey⟩
    | other | pause | escape | pollFailure | readFailure => contradiction
  · rintro ⟨c, hmem, hkey⟩
    exact ⟨.key c, hmem, hkey⟩

/-- The counts of the keys that are pressed start anew, and the others stay. -/
theorem get_hold (held : Held) (keys : List Nat) (key : Fin 16) :
    (hold held keys).get key = if key.val ∈ keys then holdPolls else held.get key := by
  induction keys generalizing held with
  | nil => rfl
  | cons k keys ih =>
    have hfirst : (held.setIfInBounds k holdPolls).get key =
        if k = key.val then holdPolls else held.get key :=
      Vector.getElem_setIfInBounds key.isLt
    rw [hold, List.foldl_cons, ← hold, ih, hfirst]
    -- a later press of the key starts its count anew, so it does not matter what this one has done
    by_cases hlater : key.val ∈ keys
    · simp [hlater]
    · simp [hlater, eq_comm]

/-- With a key map of pad keys, a poll uses up what it should. -/
theorem usedUp_of_pad (hkeys : ∀ pair ∈ keymap, pair.2 < 16) (queue : List TerminalEvent) :
    usedUp keymap queue = taken queue :=
  usedUp_eq_taken fun e _ => KeyMap.not_misses hkeys e

/-- What a poll takes and what it leaves are the queue that it found. -/
theorem taken_append_rest (hkeys : ∀ pair ∈ keymap, pair.2 < 16) (held : Held)
    (queue : List TerminalEvent) : taken queue ++ (read keymap held queue).rest = queue := by
  rw [← usedUp_of_pad hkeys]
  exact usedUp_append_rest keymap held queue

theorem result_read (hkeys : ∀ pair ∈ keymap, pair.2 < 16) (held : Held)
    (queue : List TerminalEvent) :
    ((read keymap held queue).result = .ok .quit ↔ .escape ∈ taken queue) ∧
      ((∃ e, (read keymap held queue).result = .error e) ↔
        .pollFailure ∈ taken queue ∨ .readFailure ∈ taken queue) := by
  rw [read_eq, ← usedUp_of_pad hkeys]
  refine ⟨quits_iff queue, ?_⟩
  rw [← fails_iff]
  constructor
  · rintro ⟨e, hends⟩
    cases e with
    | failed e => exact ⟨e, hends⟩
    -- a crash needs a key past the pad, of which this key map has none
    | crashed c =>
      obtain ⟨e, -, hmisses⟩ := (crashes_iff queue).1 ⟨c, hends⟩
      exact absurd hmisses (KeyMap.not_misses hkeys e)
  · rintro ⟨e, hends⟩
    exact ⟨.failed e, hends⟩

/-- Reading starts the counts of the keys anew that are pressed, and leaves the others. -/
theorem held_read (hkeys : ∀ pair ∈ keymap, pair.2 < 16) (held : Held)
    (queue : List TerminalEvent) (key : Fin 16) :
    (Pressed keymap (taken queue) key → (read keymap held queue).held.get key = holdPolls) ∧
      (¬ Pressed keymap (taken queue) key →
        (read keymap held queue).held.get key = held.get key) := by
  rw [read_eq, usedUp_of_pad hkeys, ← mem_presses_iff]
  dsimp only
  rw [get_hold]
  exact ⟨fun h => if_pos h, fun h => if_neg h⟩

/-! ## The counts remember the last six polls

The past is a list of what polls have taken, the latest first, so a press is as many polls old as
there are entries before it. -/

/-- `past` has what the polls so far have taken, the latest first. A key counts for more than `m`
polls exactly if it was pressed less than six polls ago, `m` of them added. -/
def Recalls (keymap : KeyMap) (held : Held) (past : List (List TerminalEvent)) : Prop :=
  ∀ (key : Fin 16) (m : Nat), m < held.get key ↔
    ∃ ago events, past[ago]? = some events ∧ Pressed keymap events key ∧ ago + m < holdPolls

/-- A new keyboard has no past, and no key counts. -/
theorem recalls_start (keymap : KeyMap) : Recalls keymap (Vector.replicate 16 0) [] := by
  intro key m
  have hzero : (Vector.replicate 16 0).get key = 0 := Vector.getElem_replicate key.isLt
  simp [hzero]

/-- A poll lets the counts age and then reads: what it takes is remembered first. -/
theorem recalls_read (hkeys : ∀ pair ∈ keymap, pair.2 < 16) {held : Held}
    {past : List (List TerminalEvent)} (h : Recalls keymap held past)
    (queue : List TerminalEvent) :
    Recalls keymap (read keymap (age held) queue).held (taken queue :: past) := by
  intro key m
  obtain ⟨hpressed, hkept⟩ := held_read hkeys (age held) queue key
  by_cases hnow : Pressed keymap (taken queue) key
  · -- the count starts anew, and no older press counts for longer
    rw [hpressed hnow]
    constructor
    · intro hm
      exact ⟨0, taken queue, rfl, hnow, by omega⟩
    · rintro ⟨ago, events, -, -, hago⟩
      omega
  · -- the count is one less, and all presses are one poll older
    have hage : m < held.get key - 1 ↔ m + 1 < held.get key := by omega
    rw [hkept hnow, get_age, hage, h key (m + 1)]
    constructor
    · rintro ⟨ago, events, hevents, hold, hago⟩
      exact ⟨ago + 1, events, hevents, hold, by omega⟩
    · rintro ⟨ago, events, hevents, hold, hago⟩
      cases ago with
      | zero =>
        obtain rfl := Option.some.inj hevents
        exact absurd hold hnow
      | succ ago => exact ⟨ago, events, hevents, hold, by omega⟩

/-- A key shows as down as long as it counts for more polls. -/
theorem isDown?_keypad (held : Held) (key : Fin 16) :
    (keypad held).isDown? key.val = some true ↔ 0 < held.get key := by
  rw [keypad, Keypad.isDown?_ofHeld, Option.some.injEq, decide_eq_true_iff]

end Keyboard

/-! ## Polls one after the other

Device, queue and keypad are handed from poll to poll. What the polls before a turn have done
reaches it by the counts alone. -/

/-- One of several polls: the queue and the keypad that it found, and what came of it. -/
structure InputDevice.Turn where
  queue : List TerminalEvent
  keypad : Keypad
  poll : Poll

/-- Polls one after the other. The device, the queue and the keypad go from each to the next, and
before each of them more events may have come in. -/
def InputDevice.polls (d : InputDevice) (host : Host) (keypad : Keypad) :
    List (List TerminalEvent) → List InputDevice.Turn
  | [] => []
  | arrived :: rest =>
    let found := { host with queue := host.queue ++ arrived }
    let p := d.poll found keypad
    ⟨found.queue, keypad, p⟩ :: p.device.polls p.host p.keypad rest

/-- Every time that events may have come in has its poll. -/
theorem InputDevice.length_polls (d : InputDevice) (host : Host) (keypad : Keypad)
    (arrivals : List (List TerminalEvent)) :
    (d.polls host keypad arrivals).length = arrivals.length := by
  induction arrivals generalizing d host keypad with
  | nil => rfl
  | cons arrived rest ih => exact congrArg (· + 1) (ih _ _ _)

namespace Keyboard

variable {keymap : KeyMap}

/-- The keyboard of a terminal, whatever the counts are. -/
abbrev device (keymap : KeyMap) (held : Held) : InputDevice :=
  .terminal ⟨held, keymap⟩

/-- Every poll in a sequence reads from the queue that it found. -/
theorem poll_of_polls {held : Held} {host : Host} {keypad : Keypad}
    {arrivals : List (List TerminalEvent)} {n : Nat} {t : InputDevice.Turn}
    (ht : ((device keymap held).polls host keypad arrivals)[n]? = some t) :
    ∃ held' host', host'.queue = t.queue ∧
      t.poll = (device keymap held').poll host' t.keypad := by
  induction arrivals generalizing held host keypad n with
  | nil => contradiction
  | cons arrived rest ih =>
    cases n with
    | zero =>
      obtain rfl := Option.some.inj ht
      exact ⟨held, _, rfl, rfl⟩
    -- a later turn belongs to the polls behind the first
    | succ n => exact ih ht

/-- One poll that succeeds shows the counts. -/
theorem keypad_poll {held : Held} {host : Host} {k : Keypad} {control : Control}
    (h : ((device keymap held).poll host k).result = .ok control) :
    ((device keymap held).poll host k).keypad =
      keypad (read keymap (age held) host.queue).held := by
  have hresult : (read keymap (age held) host.queue).result = .ok control := h
  simp only [InputDevice.poll, hresult]

/-- One poll that fails leaves the keypad as it was. -/
theorem keypad_poll_of_error {held : Held} {host : Host} {k : Keypad} {e : Stopped HostError}
    (h : ((device keymap held).poll host k).result = .error e) :
    ((device keymap held).poll host k).keypad = k := by
  have hresult : (read keymap (age held) host.queue).result = .error e := h
  simp only [InputDevice.poll, hresult]

/-- From counts that recall the polls in `past`, a poll that succeeds shows the keys that were
pressed in it or in one of the five before it. -/
theorem down_iff_of_recalls (hkeys : ∀ pair ∈ keymap, pair.2 < 16) {held : Held}
    {past : List (List TerminalEvent)} (hrecalls : Recalls keymap held past) {host : Host}
    {k : Keypad} {arrivals : List (List TerminalEvent)} {n : Nat} {t : InputDevice.Turn}
    (ht : ((device keymap held).polls host k arrivals)[n]? = some t) {control : Control}
    (hresult : t.poll.result = .ok control) (key : Fin 16) :
    t.poll.keypad.isDown? key.val = some true ↔
      (∃ i t', i ≤ n ∧ n ≤ i + 5 ∧ ((device keymap held).polls host k arrivals)[i]? = some t' ∧
        Pressed keymap (taken t'.queue) key) ∨
      ∃ ago events, past[ago]? = some events ∧ Pressed keymap events key ∧ n + ago < 5 := by
  -- the first poll becomes the latest of the past for those after it
  induction arrivals generalizing held past host k n with
  | nil => contradiction
  | cons arrived rest ih =>
    let queue := host.queue ++ arrived
    have hrecalls' : Recalls keymap (read keymap (age held) queue).held (taken queue :: past) :=
      recalls_read hkeys hrecalls queue
    cases n with
    | zero =>
      obtain rfl := Option.some.inj ht
      -- the poll in question is the first: its own events are the latest of the past
      rw [keypad_poll hresult, isDown?_keypad, hrecalls' key 0]
      constructor
      · rintro ⟨ago, events, hevents, hpressed, hago⟩
        cases ago with
        | zero =>
          obtain rfl := Option.some.inj hevents
          exact .inl ⟨0, _, Nat.le_refl 0, Nat.zero_le _, rfl, hpressed⟩
        | succ ago =>
          simp only [holdPolls] at hago
          exact .inr ⟨ago, events, hevents, hpressed, by omega⟩
      · rintro (⟨i, t', hi, -, ht', hpressed⟩ | ⟨ago, events, hevents, hpressed, hago⟩)
        · obtain rfl := Nat.le_zero.1 hi
          obtain rfl := Option.some.inj ht'
          exact ⟨0, _, rfl, hpressed, by decide⟩
        · exact ⟨ago + 1, events, hevents, hpressed, by simp only [holdPolls]; omega⟩
    | succ n =>
      have ht' := ht
      rw [InputDevice.polls, List.getElem?_cons_succ] at ht'
      -- it comes later: the first poll is in its past, one poll nearer than all before it
      rw [ih hrecalls' ht']
      constructor
      · rintro (⟨i, t', hi, hn, hmem, hpressed⟩ | ⟨ago, events, hevents, hpressed, hago⟩)
        · exact .inl ⟨i + 1, t', by omega, by omega, hmem, hpressed⟩
        · cases ago with
          | zero =>
            obtain rfl := Option.some.inj hevents
            exact .inl ⟨0, _, Nat.zero_le _, by omega, rfl, hpressed⟩
          | succ ago => exact .inr ⟨ago, events, hevents, hpressed, by omega⟩
      · rintro (⟨i, t', hi, hn, hmem, hpressed⟩ | ⟨ago, events, hevents, hpressed, hago⟩)
        · cases i with
          | zero =>
            obtain rfl := Option.some.inj hmem
            exact .inr ⟨0, _, rfl, hpressed, by omega⟩
          | succ i => exact .inl ⟨i, t', by omega, by omega, hmem, hpressed⟩
        · exact .inr ⟨ago + 1, events, hevents, hpressed, by omega⟩

/-- **A key is down exactly if it was pressed lately.** With a key map of pad keys, every poll of a
new keyboard takes a part off the front of the queue and ends as the last event of it says: an
Escape asks to quit, and a poll or a read that fails makes the poll fail. A poll that succeeds shows
exactly the keys that were pressed in it or in one of the five before it, failed ones included; one
that fails leaves the keypad as it was. -/
theorem down_iff_pressed_lately (hkeys : ∀ pair ∈ keymap, pair.2 < 16) {host host' : Host}
    {d : InputDevice} (hopen : InputDevice.openTerminal keymap host = (.ok d, host'))
    (k : Keypad) (arrivals : List (List TerminalEvent)) :
    (d.polls host' k arrivals).length = arrivals.length ∧
      ∀ n t, (d.polls host' k arrivals)[n]? = some t →
        taken t.queue ++ t.poll.host.queue = t.queue ∧
        (t.poll.result = .ok .quit ↔ .escape ∈ taken t.queue) ∧
        ((∃ e, t.poll.result = .error e) ↔
          .pollFailure ∈ taken t.queue ∨ .readFailure ∈ taken t.queue) ∧
        (∀ control, t.poll.result = .ok control → ∀ key : Fin 16,
          t.poll.keypad.isDown? key.val = some true ↔
            ∃ i t', i ≤ n ∧ n ≤ i + 5 ∧ (d.polls host' k arrivals)[i]? = some t' ∧
              Pressed keymap (taken t'.queue) key) ∧
        ∀ e, t.poll.result = .error e → t.poll.keypad = t.keypad := by
  have hnew : d = device keymap (Vector.replicate 16 0) := by
    unfold InputDevice.openTerminal at hopen
    split at hopen
    · cases hopen
    · obtain ⟨hd, -⟩ := Prod.mk.inj hopen
      exact (Except.ok.inj hd).symm
  subst hnew
  refine ⟨InputDevice.length_polls _ _ _ _, ?_⟩
  intro n t ht
  -- all but the keys that are down depends on this one poll and the queue that it found
  obtain ⟨held, found, hqueue, hpoll⟩ := poll_of_polls ht
  rw [← hqueue]
  obtain ⟨hquit, herror⟩ := result_read hkeys (age held) found.queue
  refine ⟨?_, ?_, ?_, ?_, ?_⟩
  · rw [hpoll]
    exact taken_append_rest hkeys (age held) found.queue
  · rw [hpoll]
    exact hquit
  · rw [hpoll]
    exact herror
  · intro control hresult key
    have hdown := down_iff_of_recalls hkeys (recalls_start keymap) ht hresult key
    simpa using hdown
  · intro e hresult
    rw [hpoll] at hresult ⊢
    exact keypad_poll_of_error hresult

/-- A press in upper case is read by a poll that fails after it. The next poll shows the key, which
is that of the later of two pairs. -/
theorem down_after_failed_poll :
    let host := Host.start [.key 'A', .pollFailure] fun _ _ => false
    let keymap := [('a', 3), ('a', 10)]
    ∃ d host', InputDevice.openTerminal keymap host = (.ok d, host') ∧
      (∀ pair ∈ keymap, pair.2 < 16) ∧
      ∃ t, (d.polls host' .released [[], []])[1]? = some t ∧
        t.poll.keypad.isDown? 10 = some true ∧ ¬ t.poll.keypad.isDown? 3 = some true := by
  intro host keymap
  have hkeys : ∀ pair ∈ keymap, pair.2 < 16 := by decide
  have hopen : InputDevice.openTerminal keymap host =
      (.ok (device keymap (Vector.replicate 16 0)), (host.call .enterRawMode).2) := rfl
  obtain ⟨-, hall⟩ := down_iff_pressed_lately hkeys hopen .released [[], []]
  obtain ⟨-, -, -, hdown, -⟩ := hall 1 _ rfl
  -- the later pair counts
  have hten : KeyMap.Sends keymap 'a' 10 := ⟨[('a', 3)], [], rfl, nofun⟩
  refine ⟨_, _, hopen, hkeys, _, rfl, ?_, ?_⟩
  · -- pressed at the first poll, which failed, and shown at the second
    exact (hdown .proceed rfl (10 : Fin 16)).2
      ⟨0, _, by decide, by decide, rfl, 'A', by decide, hten⟩
  · refine mt (hdown .proceed rfl (3 : Fin 16)).1 ?_
    rintro ⟨i, t, hi, -, ht, c, hmem, hsends⟩
    -- two polls, the second of which had nothing to read
    obtain rfl | rfl : i = 0 ∨ i = 1 := by omega
    · obtain rfl := Option.some.inj ht
      have hread : TerminalEvent.key c ∈ [.key 'A', .pollFailure] := hmem
      obtain rfl : c = 'A' := by simpa using hread
      exact absurd (KeyMap.sends_unique hsends hten) (by decide)
    · obtain rfl := Option.some.inj ht
      contradiction

end Keyboard

end Cosmac
