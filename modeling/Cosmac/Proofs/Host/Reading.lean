import Cosmac.Host.Input

/-!
# Cosmac — how events are read

A poll asks the terminal whether there is an event and takes it if there is one, again and again:
until there is none for now, until something fails, or until somebody wants to quit. A press of a
key past the pad ends it too, with a crash.

`Keyboard.read` does all of this in one recursion along the queue. What the terminal is asked, and
what it answers, cannot be seen there, nor that reading never waits for an event that is not there.
So the loop is taken apart first: a round asks and takes once, and `Reads` puts rounds together
until one of them ends the reading. The two are then shown to be the same.

The second question is which events a poll is about. It looks at the queue from the front and stops
behind the first event with which reading ends, so there is a part of the queue that it uses up.
Counts, reports and the end are functions of that part alone; this is what lets polls be compared
that find the same events with different ones behind them.

* `Keyboard.ask` and `Keyboard.take?` are what the terminal answers, `Keyboard.round` asks and takes
  once.
* `Keyboard.Reads` is the loop of the rounds; `reads_iff` — it always ends, and as `Keyboard.read`
  says.
* `Keyboard.usedUp` is what a poll takes off the queue; `read_eq` — nothing else has a say in what
  the poll does.
* `Keyboard.taken` is what it should take; `usedUp_eq_taken` — it does so unless it meets a key past
  the pad.
-/

namespace Cosmac

/-! ## Keys of characters

A key map is a list of pairs that is turned into a table, so of two pairs for one character the
later one counts. -/

/-- The pair for a character that counts is the last one. -/
def KeyMap.Sends (keymap : KeyMap) (c : Char) (key : Nat) : Prop :=
  ∃ earlier later, keymap = earlier ++ (c, key) :: later ∧ ∀ pair ∈ later, pair.1 ≠ c

/-- Looking a character up finds the pair that counts, or none. -/
theorem KeyMap.key?_eq_some_iff (keymap : KeyMap) (c : Char) (key : Nat) :
    keymap.key? c = some key ↔ keymap.Sends c key := by
  unfold KeyMap.key? KeyMap.Sends
  constructor
  · intro h
    obtain ⟨⟨c', key'⟩, hfind, rfl⟩ := Option.map_eq_some_iff.1 h
    -- the search goes through the map from its end, so what it passes over comes later
    obtain ⟨hc, later, earlier, hsplit, hlater⟩ := List.find?_eq_some_iff_append.1 hfind
    obtain rfl : c' = c := by simpa using hc
    refine ⟨earlier.reverse, later.reverse, ?_, ?_⟩
    · rw [← List.reverse_reverse keymap, hsplit]
      simp
    · intro pair hpair
      simpa using hlater pair (List.mem_reverse.1 hpair)
  · rintro ⟨earlier, later, rfl, hlater⟩
    have hskip : later.reverse.find? (fun pair => pair.1 = c) = none := by
      rw [List.find?_eq_none]
      intro pair hpair
      simpa using hlater pair (List.mem_reverse.1 hpair)
    simp [List.reverse_append, List.find?_append, hskip]

/-- A key map of pad keys sends characters to the pad. -/
theorem KeyMap.lt_of_sends {keymap : KeyMap} (hkeys : ∀ pair ∈ keymap, pair.2 < 16) {c : Char}
    {key : Nat} (h : keymap.Sends c key) : key < 16 := by
  obtain ⟨earlier, later, rfl, -⟩ := h
  exact hkeys (c, key) (List.mem_append_right _ List.mem_cons_self)

/-- A character has at most one key. -/
theorem KeyMap.sends_unique {keymap : KeyMap} {c : Char} {key key' : Nat} (h : keymap.Sends c key)
    (h' : keymap.Sends c key') : key = key' := by
  rw [← key?_eq_some_iff] at h h'
  rw [h] at h'
  exact Option.some.inj h'

/-- The press of a character that the key map sends to a number past the pad. -/
def KeyMap.Misses (keymap : KeyMap) (e : TerminalEvent) : Prop :=
  ∃ c key, e = .key c ∧ keymap.Sends c.toLower key ∧ 16 ≤ key

/-- A press misses the pad exactly if its character is found with a number past it. -/
theorem KeyMap.misses_key_iff (keymap : KeyMap) (c : Char) :
    keymap.Misses (.key c) ↔ ∃ key, keymap.key? c.toLower = some key ∧ 16 ≤ key := by
  simp only [Misses, key?_eq_some_iff]
  constructor
  · rintro ⟨c', key, hc, h⟩
    obtain rfl := TerminalEvent.key.inj hc
    exact ⟨key, h⟩
  · rintro ⟨key, h⟩
    exact ⟨c, key, rfl, h⟩

theorem KeyMap.not_misses {keymap : KeyMap} (hkeys : ∀ pair ∈ keymap, pair.2 < 16)
    (e : TerminalEvent) : ¬ keymap.Misses e := by
  rintro ⟨c, key, -, hsends, hpast⟩
  exact Nat.not_lt.2 hpast (lt_of_sends hkeys hsends)

/-! ## Events with which reading ends

Four events end every poll. That a press can do so too depends on the key map, and is what sets
`KeyMap.ending?` apart from `TerminalEvent.endsPoll`. -/

/-- Whether an event is the last that a poll reads. -/
def TerminalEvent.endsPoll : TerminalEvent → Bool
  | .pause | .escape | .pollFailure | .readFailure => true
  | .key _ | .other => false

/-- How reading ends with an event, if it does. -/
def KeyMap.ending? (keymap : KeyMap) : TerminalEvent → Option (Except (Stopped HostError) Control)
  | .pause => some (.ok .proceed)
  | .escape => some (.ok .quit)
  | .pollFailure => some (.error (.failed (.refused "poll")))
  | .readFailure => some (.error (.failed (.refused "read")))
  | .other => none
  | .key c =>
    match keymap.key? c.toLower with
    | some key => if key < 16 then none else some (.error (.crashed .noSuchKey))
    | none => none

/-- Reading ends with the events that end every poll, and with keys past the pad. -/
theorem KeyMap.isSome_ending?_iff (keymap : KeyMap) (e : TerminalEvent) :
    (keymap.ending? e).isSome = true ↔ e.endsPoll = true ∨ keymap.Misses e := by
  cases e with
  | key c =>
    rw [misses_key_iff]
    cases hkey : keymap.key? c.toLower with
    | none => simp [ending?, hkey, TerminalEvent.endsPoll]
    | some key =>
      simp only [ending?, hkey, TerminalEvent.endsPoll, Option.some.injEq, exists_eq_left']
      -- the map has the character: a pad key goes on, any other ends reading
      by_cases hlt : key < 16
      · simp [hlt, Nat.not_le.2 hlt]
      · simp [hlt, Nat.not_lt.1 hlt]
  | other | pause | escape | pollFailure | readFailure =>
    simp [ending?, TerminalEvent.endsPoll, Misses]

/-- All other events are behind the poll when it goes on. -/
theorem KeyMap.ending?_eq_none_iff (keymap : KeyMap) (e : TerminalEvent) :
    keymap.ending? e = none ↔ e.endsPoll = false ∧ ¬ keymap.Misses e := by
  rw [← Option.not_isSome_iff_eq_none, keymap.isSome_ending?_iff, not_or, Bool.not_eq_true]

/-- What each of the ends comes from: quitting, failing and crashing. -/
theorem KeyMap.ending?_eq_some_iff (keymap : KeyMap) (e : TerminalEvent) :
    (keymap.ending? e = some (.ok .quit) ↔ e = .escape) ∧
      ((∃ err, keymap.ending? e = some (.error (.failed err))) ↔
        e = .pollFailure ∨ e = .readFailure) ∧
      ((∃ c, keymap.ending? e = some (.error (.crashed c))) ↔ keymap.Misses e) := by
  cases e with
  | key c =>
    rw [misses_key_iff]
    cases hkey : keymap.key? c.toLower with
    | none => simp [ending?, hkey]
    | some key => simp [ending?, hkey]
  | other | pause | escape | pollFailure | readFailure => simp [ending?, Misses]

namespace Keyboard

/-! ## Asking and taking

Asking uses up a pause or a failure to ask, taking uses up everything else. A round takes only after
it was told that there is something to take. -/

/-- Asks whether there is an event. A pause and a failure are used up by asking, an event is not. -/
def ask : List TerminalEvent → Except HostError Bool × List TerminalEvent
  | [] => (.ok false, [])
  | .pause :: rest => (.ok false, rest)
  | .pollFailure :: rest => (.error (.refused "poll"), rest)
  | queue => (.ok true, queue)

/-- Takes the event in front, or fails to. Where there is none, it would wait for one. -/
def take? : List TerminalEvent → Option (Except HostError TerminalEvent × List TerminalEvent)
  | [] => none
  | .readFailure :: rest => some (.error (.refused "read"), rest)
  | e :: rest => some (.ok e, rest)

/-- What becomes of reading in one round. -/
inductive Round
  | goesOn (held : Held) (queue : List TerminalEvent) (log : List Event)
  | ends (reading : Reading)
  | waits

/-- Asks, takes the event if there is one, and counts it if it is the press of a key. -/
def round (keymap : KeyMap) (held : Held) (queue : List TerminalEvent) : Round :=
  match ask queue with
  | (.error e, rest) => .ends ⟨held, rest, [], .error (.failed e)⟩
  | (.ok false, rest) => .ends ⟨held, rest, [], .ok .proceed⟩
  | (.ok true, queue) =>
    -- there is an event, so taking it does not wait
    match take? queue with
    | none => .waits
    | some (.error e, rest) => .ends ⟨held, rest, [], .error (.failed e)⟩
    | some (.ok .escape, rest) => .ends ⟨held, rest, [], .ok .quit⟩
    | some (.ok (.key c), rest) =>
      match keymap.key? c.toLower with
      | some key =>
        if h : key < 16 then .goesOn (held.set key holdPolls) rest []
        else .ends ⟨held, rest, [], .error (.crashed .noSuchKey)⟩
      | none => .goesOn held rest [.unmappedKey c]
    | some (.ok _, rest) => .goesOn held rest []

/-- The rounds of reading, up to the one that ends it. -/
inductive Reads (keymap : KeyMap) : Held → List TerminalEvent → Reading → Prop
  | last {held : Held} {queue : List TerminalEvent} {reading : Reading}
    (h : round keymap held queue = .ends reading) : Reads keymap held queue reading
  | more {held held' : Held} {queue rest : List TerminalEvent} {log : List Event}
    {reading : Reading} (h : round keymap held queue = .goesOn held' rest log)
    (hrest : Reads keymap held' rest reading) :
    Reads keymap held queue { reading with log := log ++ reading.log }

/-! ## What events do

An event that reading goes on behind, or ends with, presses at most one key and is reported at most
once. Each effect is a function of a list of events, so that those of a whole poll are those of its
parts. -/

/-- The keys that events press, in order, by the numbers that the key map has for them. -/
def presses (keymap : KeyMap) (events : List TerminalEvent) : List Nat :=
  events.filterMap fun
    | .key c => keymap.key? c.toLower
    | _ => none

/-- The counts when keys are pressed one after the other: each count starts anew. -/
def hold (held : Held) (keys : List Nat) : Held :=
  keys.foldl (fun held key => held.setIfInBounds key holdPolls) held

/-- What is reported of events: the characters that the key map does not have. -/
def reports (keymap : KeyMap) (events : List TerminalEvent) : List Event :=
  events.filterMap fun
    | .key c => if keymap.key? c.toLower = none then some (.unmappedKey c) else none
    | _ => none

/-- How reading ends that has used up some events: as the last of them says, or because there is
nothing more for now. -/
def ending (keymap : KeyMap) (events : List TerminalEvent) :
    Except (Stopped HostError) Control :=
  (events.getLast?.bind keymap.ending?).getD (.ok .proceed)

variable {keymap : KeyMap}

theorem presses_cons (e : TerminalEvent) (rest : List TerminalEvent) :
    presses keymap (e :: rest) = presses keymap [e] ++ presses keymap rest :=
  List.filterMap_append (l := [e])

theorem reports_cons (e : TerminalEvent) (rest : List TerminalEvent) :
    reports keymap (e :: rest) = reports keymap [e] ++ reports keymap rest :=
  List.filterMap_append (l := [e])

theorem effects_of_key? {c : Char} {key : Nat} (h : keymap.key? c.toLower = some key) :
    presses keymap [.key c] = [key] ∧ reports keymap [.key c] = [] := by
  simp [presses, reports, h]

/-- Keys that are pressed one after the other can be counted in two parts. -/
theorem hold_append (held : Held) (keys keys' : List Nat) :
    hold held (keys ++ keys') = hold (hold held keys) keys' :=
  List.foldl_append

/-- One press starts one count. -/
theorem hold_singleton (held : Held) {key : Nat} (h : key < 16) :
    hold held [key] = held.set key holdPolls h := by
  simp [hold, Vector.setIfInBounds, Vector.set, Array.setIfInBounds, h]

/-- There is no count for a key past the pad. -/
theorem hold_singleton_of_past (held : Held) {key : Nat} (h : 16 ≤ key) : hold held [key] = held :=
  Vector.setIfInBounds_eq_of_size_le h

/-! ## One event after the other

One lemma for the event with which reading ends, and one for the event behind which it goes on. Each
says what the round does and what `Keyboard.read` does, so that the two recursions can be followed
together. -/

/-- What a round, and reading as a whole, make of an event with which reading ends. -/
theorem step_of_ending {e : TerminalEvent} {result : Except (Stopped HostError) Control}
    (h : keymap.ending? e = some result) (held : Held) (rest : List TerminalEvent) :
    let reading : Reading := ⟨hold held (presses keymap [e]), rest, reports keymap [e], result⟩
    round keymap held (e :: rest) = .ends reading ∧ read keymap held (e :: rest) = reading := by
  cases e with
  | key c =>
    cases hkey : keymap.key? c.toLower with
    | none => simp [KeyMap.ending?, hkey] at h
    | some key =>
      simp only [KeyMap.ending?, hkey, Option.ite_none_left_eq_some, Option.some.injEq] at h
      -- only a key past the pad ends reading, and it has no count
      obtain ⟨hpast, rfl⟩ := h
      obtain ⟨hpresses, hreports⟩ := effects_of_key? hkey
      rw [hpresses, hreports, hold_singleton_of_past held (Nat.not_lt.1 hpast)]
      simp [round, ask, take?, read, hkey, hpast]
  | other => contradiction
  | pause | escape | pollFailure | readFailure =>
    obtain rfl := Option.some.inj h
    exact ⟨rfl, rfl⟩

/-- What a round, and reading as a whole, make of an event behind which reading goes on. -/
theorem step_of_going_on {e : TerminalEvent} (h : keymap.ending? e = none) (held : Held)
    (rest : List TerminalEvent) :
    let held' := hold held (presses keymap [e])
    let later := read keymap held' rest
    round keymap held (e :: rest) = .goesOn held' rest (reports keymap [e]) ∧
      read keymap held (e :: rest) = { later with log := reports keymap [e] ++ later.log } := by
  cases e with
  | key c =>
    cases hkey : keymap.key? c.toLower with
    | none => simp [round, ask, take?, read, presses, reports, hold, hkey]
    | some key =>
      have hlt : key < 16 := by simpa [KeyMap.ending?, hkey] using h
      obtain ⟨hpresses, hreports⟩ := effects_of_key? hkey
      rw [hpresses, hreports, hold_singleton held hlt]
      simp [round, ask, take?, read, hkey, hlt]
  | other => exact ⟨rfl, rfl⟩
  | pause | escape | pollFailure | readFailure => contradiction

/-! ## The loop ends

By induction along the queue. Each round that goes on has taken an event, so the loop has no more
rounds than there are events, and one more. -/

/-- The rounds come to the reading that `Keyboard.read` computes. -/
theorem reads_read (held : Held) (queue : List TerminalEvent) :
    Reads keymap held queue (read keymap held queue) := by
  induction queue generalizing held with
  -- an empty queue ends reading in its first round
  | nil => exact .last rfl
  | cons e rest ih =>
    cases hend : keymap.ending? e with
    | some result =>
      obtain ⟨hround, hread⟩ := step_of_ending hend held rest
      rw [hread]
      exact .last hround
    | none =>
      obtain ⟨hround, hread⟩ := step_of_going_on hend held rest
      rw [hread]
      exact .more hround (ih _)

/-- The rounds leave no choice, so there is at most one reading. -/
theorem Reads.unique {held : Held} {queue : List TerminalEvent} {reading reading' : Reading}
    (h : Reads keymap held queue reading) (h' : Reads keymap held queue reading') :
    reading = reading' := by
  -- a round ends reading or goes on, never both
  induction h generalizing reading' with
  | last hround =>
    cases h' with
    | last hround' => exact Round.ends.inj (hround.symm.trans hround')
    | more hround' => cases hround.symm.trans hround'
  | more hround _ ih =>
    cases h' with
    | last hround' => cases hround.symm.trans hround'
    | more hround' hrest' =>
      obtain ⟨rfl, rfl, rfl⟩ := Round.goesOn.inj (hround.symm.trans hround')
      rw [ih hrest']

/-- **The loop ends, whatever is in the queue**, and in one way only. -/
theorem reads_iff (held : Held) (queue : List TerminalEvent) (reading : Reading) :
    Reads keymap held queue reading ↔ reading = read keymap held queue := by
  constructor
  · intro h
    exact h.unique (reads_read held queue)
  · rintro rfl
    exact reads_read held queue

/-! ## What is used up

The part of the queue up to the first event with which reading ends, and that event. All effects of
a poll are read off it. -/

/-- What a poll takes off a queue: the events up to the first with which reading ends, and that one.
-/
def usedUp (keymap : KeyMap) : List TerminalEvent → List TerminalEvent
  | [] => []
  | e :: rest => if (keymap.ending? e).isSome then [e] else e :: usedUp keymap rest

/-- An event with which reading ends is the last that is used up. -/
theorem usedUp_cons_of_ending {e : TerminalEvent} {result : Except (Stopped HostError) Control}
    (h : keymap.ending? e = some result) (rest : List TerminalEvent) :
    usedUp keymap (e :: rest) = [e] := by
  simp [usedUp, h]

/-- Any other is used up with what follows it. -/
theorem usedUp_cons_of_going_on {e : TerminalEvent} (h : keymap.ending? e = none)
    (rest : List TerminalEvent) : usedUp keymap (e :: rest) = e :: usedUp keymap rest := by
  simp [usedUp, h]

/-- Reading ends as the event says with which it ends. -/
theorem ending_singleton {e : TerminalEvent} {result : Except (Stopped HostError) Control}
    (h : keymap.ending? e = some result) : ending keymap [e] = result := by
  simp [ending, h]

/-- Events behind which reading goes on have no say in how it ends. -/
theorem ending_cons_of_going_on {e : TerminalEvent} (h : keymap.ending? e = none)
    (rest : List TerminalEvent) : ending keymap (e :: rest) = ending keymap rest := by
  cases rest with
  | nil => simp [ending, h]
  | cons e' rest => rfl

/-- What is used up lies in front of the queue. -/
theorem usedUp_isPrefix (queue : List TerminalEvent) : usedUp keymap queue <+: queue := by
  induction queue with
  | nil => exact List.prefix_rfl
  | cons e rest ih =>
    cases hend : keymap.ending? e with
    | some result =>
      rw [usedUp_cons_of_ending hend]
      exact List.prefix_append [e] rest
    | none =>
      rw [usedUp_cons_of_going_on hend]
      exact List.cons_prefix_cons.2 ⟨rfl, ih⟩

/-- **What is used up alone decides what reading does**: the counts, the reports and the end. The
rest of the queue stays as it is. -/
theorem read_eq (keymap : KeyMap) (held : Held) (queue : List TerminalEvent) :
    read keymap held queue =
      ⟨hold held (presses keymap (usedUp keymap queue)), queue.drop (usedUp keymap queue).length,
        reports keymap (usedUp keymap queue), ending keymap (usedUp keymap queue)⟩ := by
  induction queue generalizing held with
  | nil => rfl
  | cons e rest ih =>
    cases hend : keymap.ending? e with
    -- this event is all that is used up
    | some result =>
      rw [(step_of_ending hend held rest).2, usedUp_cons_of_ending hend, ending_singleton hend]
      rfl
    | none =>
      -- the first event has its effects, and those of the rest come after them
      rw [(step_of_going_on hend held rest).2, ih, usedUp_cons_of_going_on hend,
        presses_cons e (usedUp keymap rest), reports_cons e (usedUp keymap rest), hold_append,
        ending_cons_of_going_on hend]
      rfl

/-- What is used up and what is left are the queue, and nothing is lost between them. -/
theorem usedUp_append_rest (keymap : KeyMap) (held : Held) (queue : List TerminalEvent) :
    usedUp keymap queue ++ (read keymap held queue).rest = queue := by
  rw [read_eq]
  exact List.prefix_iff_eq_append.1 (usedUp_isPrefix queue)

/-- What lies behind the event with which reading ends has no part in it. -/
theorem usedUp_append {queue : List TerminalEvent}
    (h : ∃ e ∈ usedUp keymap queue, (keymap.ending? e).isSome = true)
    (behind : List TerminalEvent) :
    usedUp keymap (usedUp keymap queue ++ behind) = usedUp keymap queue := by
  induction queue with
  | nil =>
    obtain ⟨e, hmem, -⟩ := h
    exact absurd hmem List.not_mem_nil
  | cons e rest ih =>
    cases hend : keymap.ending? e with
    | some result =>
      rw [usedUp_cons_of_ending hend]
      exact usedUp_cons_of_ending hend behind
    | none =>
      rw [usedUp_cons_of_going_on hend] at h ⊢
      rw [List.cons_append, usedUp_cons_of_going_on hend, ih]
      -- the event with which reading ends is not the first, behind which it has gone on
      obtain ⟨e', hmem, hends⟩ := h
      refine ⟨e', (List.mem_cons.1 hmem).resolve_left ?_, hends⟩
      rintro rfl
      rw [hend] at hends
      contradiction

/-! ## How reading ends

A poll that runs out of events goes on quietly. Every other end comes from an event that was used
up, and the event can be told from the end. -/

/-- Reading ends in another way than for want of events exactly if an event says so. -/
theorem ending_usedUp_iff {result : Except (Stopped HostError) Control}
    (hresult : result ≠ .ok .proceed) (queue : List TerminalEvent) :
    ending keymap (usedUp keymap queue) = result ↔
      ∃ e ∈ usedUp keymap queue, keymap.ending? e = some result := by
  induction queue with
  -- nothing was used up, so reading went on
  | nil => simpa [usedUp, ending] using hresult.symm
  | cons e rest ih =>
    cases hend : keymap.ending? e with
    | some result' =>
      rw [usedUp_cons_of_ending hend, ending_singleton hend]
      simp [hend]
    | none =>
      rw [usedUp_cons_of_going_on hend, ending_cons_of_going_on hend, ih]
      simp [hend]

/-- A poll asks to quit exactly if it has used up an Escape. -/
theorem quits_iff (queue : List TerminalEvent) :
    ending keymap (usedUp keymap queue) = .ok .quit ↔ .escape ∈ usedUp keymap queue := by
  rw [ending_usedUp_iff (by nofun)]
  simp [(keymap.ending?_eq_some_iff _).1]

/-- It fails exactly if asking or taking has failed. -/
theorem fails_iff (queue : List TerminalEvent) :
    (∃ err, ending keymap (usedUp keymap queue) = .error (.failed err)) ↔
      .pollFailure ∈ usedUp keymap queue ∨ .readFailure ∈ usedUp keymap queue := by
  constructor
  · rintro ⟨err, hfails⟩
    obtain ⟨e, hmem, hend⟩ := (ending_usedUp_iff (by nofun) queue).1 hfails
    obtain ⟨-, hfailed, -⟩ := keymap.ending?_eq_some_iff e
    obtain rfl | rfl := hfailed.1 ⟨err, hend⟩
    · exact .inl hmem
    · exact .inr hmem
  · rintro (hmem | hmem)
    · exact ⟨_, (ending_usedUp_iff (by nofun) queue).2 ⟨_, hmem, rfl⟩⟩
    · exact ⟨_, (ending_usedUp_iff (by nofun) queue).2 ⟨_, hmem, rfl⟩⟩

/-- It crashes exactly if it has met a key past the pad. -/
theorem crashes_iff (queue : List TerminalEvent) :
    (∃ c, ending keymap (usedUp keymap queue) = .error (.crashed c)) ↔
      ∃ e ∈ usedUp keymap queue, keymap.Misses e := by
  constructor
  · rintro ⟨c, hcrashes⟩
    obtain ⟨e, hmem, hend⟩ := (ending_usedUp_iff (by nofun) queue).1 hcrashes
    obtain ⟨-, -, hcrashed⟩ := keymap.ending?_eq_some_iff e
    exact ⟨e, hmem, hcrashed.1 ⟨c, hend⟩⟩
  · rintro ⟨e, hmem, hmisses⟩
    obtain ⟨-, -, hcrashed⟩ := keymap.ending?_eq_some_iff e
    obtain ⟨c, hend⟩ := hcrashed.2 hmisses
    exact ⟨c, (ending_usedUp_iff (by nofun) queue).2 ⟨e, hmem, hend⟩⟩

/-! ## What should be taken

The events up to the first that ends every poll, and that one. No key map has a say in it, so a poll
that crashes can stop before the end of this part. -/

/-- What a poll takes off a queue: the events up to the first that ends it, and that one. -/
def taken : List TerminalEvent → List TerminalEvent
  | [] => []
  | e :: rest => if e.endsPoll then [e] else e :: Keyboard.taken rest

/-- An event that ends every poll is the last to be taken. -/
theorem taken_cons_of_ends {e : TerminalEvent} (h : e.endsPoll = true)
    (rest : List TerminalEvent) : taken (e :: rest) = [e] :=
  if_pos h

/-- Any other is taken with what follows it. -/
theorem taken_cons_of_goes_on {e : TerminalEvent} (h : e.endsPoll = false)
    (rest : List TerminalEvent) : taken (e :: rest) = e :: taken rest := by
  rw [taken, h]
  rfl

/-- A poll never uses up more than it should take. -/
theorem usedUp_isPrefix_taken (queue : List TerminalEvent) :
    usedUp keymap queue <+: taken queue := by
  induction queue with
  | nil => exact List.prefix_rfl
  | cons e rest ih =>
    cases hends : e.endsPoll with
    -- an event that ends every poll ends this one: both parts stop behind it
    | true =>
      obtain ⟨result, hend⟩ :=
        Option.isSome_iff_exists.1 ((keymap.isSome_ending?_iff e).2 (.inl hends))
      have hsame : usedUp keymap (e :: rest) = taken (e :: rest) :=
        (usedUp_cons_of_ending hend rest).trans (taken_cons_of_ends hends rest).symm
      exact hsame ▸ List.prefix_rfl
    | false =>
      rw [taken_cons_of_goes_on hends]
      cases hend : keymap.ending? e with
      | some result =>
        rw [usedUp_cons_of_ending hend]
        exact List.prefix_append [e] (taken rest)
      | none =>
        rw [usedUp_cons_of_going_on hend]
        exact List.cons_prefix_cons.2 ⟨rfl, ih⟩

/-- Without a key past the pad, what is used up is what should be taken. -/
theorem usedUp_eq_taken {queue : List TerminalEvent}
    (h : ∀ e ∈ usedUp keymap queue, ¬ keymap.Misses e) : usedUp keymap queue = taken queue := by
  induction queue with
  | nil => rfl
  | cons e rest ih =>
    cases hend : keymap.ending? e with
    | some result =>
      rw [usedUp_cons_of_ending hend] at h ⊢
      -- reading ends here, and not because of a key past the pad
      have hmiss := h e (List.mem_singleton_self e)
      have hends := (keymap.isSome_ending?_iff e).1 (Option.isSome_of_eq_some hend)
      rw [taken_cons_of_ends (hends.resolve_right hmiss)]
    | none =>
      rw [usedUp_cons_of_going_on hend] at h ⊢
      rw [taken_cons_of_goes_on ((keymap.ending?_eq_none_iff e).1 hend).1,
        ih fun e' hmem => h e' (List.mem_cons_of_mem e hmem)]

/-- A poll meets a key past the pad exactly if there is one among the events that it should take. -/
theorem misses_usedUp_iff (queue : List TerminalEvent) :
    (∃ e ∈ usedUp keymap queue, keymap.Misses e) ↔ ∃ e ∈ taken queue, keymap.Misses e := by
  constructor
  · rintro ⟨e, hmem, hmisses⟩
    exact ⟨e, (usedUp_isPrefix_taken queue).subset hmem, hmisses⟩
  · rintro ⟨e, hmem, hmisses⟩
    -- a poll that met no key past the pad has used up all that it should take
    refine Classical.byContradiction fun hnone => ?_
    have hall : ∀ e ∈ usedUp keymap queue, ¬ keymap.Misses e := by simpa using hnone
    rw [usedUp_eq_taken hall] at hall
    exact hall e hmem hmisses

end Keyboard

end Cosmac
