import Cosmac.Registers

/-!
# Cosmac — the call stack as a list

A stack has sixteen slots and a depth, and forgets by lowering the depth, so old addresses stay in
the free slots. None of them ever shows: asked in any order to take an address, to give one back or
to be cleared, a stack answers as a list of at most sixteen addresses does, the latest first.

This is a refinement. A function takes the stack to the list of its open calls, and one request
keeps the two in step: the answers agree, and the function takes what is left of the stack to what
is left of the list. By induction they agree on any number of requests. As the free slots are not in
the list, they are not in the answers either.

* `OpenCalls.serve` — how such a list answers; `CallStack.serve` — how a stack does.
* `CallStack.calls` takes a stack to the list of its open calls.
* `serve_refines` — one request: the answers agree, and so do the stack and the list after it.
* `trace_eq` — any number of requests, from any stack.
* `list_of_sixteen` — what that says of a new stack.
-/

namespace Cosmac

/-- What can be asked of a stack of return addresses. -/
inductive StackRequest
  | push (addr : UInt16)
  | pop
  | clear
  deriving DecidableEq

/-- What it answers: whether an address was taken, or which one is given back. -/
inductive StackAnswer
  | pushed (accepted : Bool)
  | popped (addr : Option UInt16)
  | cleared
  deriving DecidableEq

/-! ## The list

What a stack should be, with no slots and no depth. -/

namespace OpenCalls

/-- The return addresses of open calls, the latest first, of which there can be sixteen. -/
def serve (calls : List UInt16) : StackRequest → StackAnswer × List UInt16
  | .push addr =>
    if calls.length < 16 then (.pushed true, addr :: calls) else (.pushed false, calls)
  | .pop => (.popped calls.head?, calls.tail)
  | .clear => (.cleared, [])

/-- The answers to some requests, each with how many calls are open after it. -/
def trace (calls : List UInt16) : List StackRequest → List (StackAnswer × Nat)
  | [] => []
  | r :: rest =>
    ((serve calls r).1, (serve calls r).2.length) :: trace (serve calls r).2 rest

def after (calls : List UInt16) (history : List StackRequest) : List UInt16 :=
  history.foldl (fun calls r => (serve calls r).2) calls

end OpenCalls

namespace CallStack

/-- A request to a stack of which there is only one: what is refused leaves it as it was. -/
def serve (s : CallStack) : StackRequest → StackAnswer × CallStack
  | .push addr =>
    match s.push? addr with
    | none => (.pushed false, s)
    | some s' => (.pushed true, s')
  | .pop =>
    match s.pop? with
    | none => (.popped none, s)
    | some (addr, s') => (.popped (some addr), s')
  | .clear => (.cleared, s.clear)

def trace (s : CallStack) : List StackRequest → List (StackAnswer × Nat)
  | [] => []
  | r :: rest => ((s.serve r).1, (s.serve r).2.depth) :: trace (s.serve r).2 rest

def after (s : CallStack) (history : List StackRequest) : CallStack :=
  history.foldl (fun s r => (s.serve r).2) s

/-- The open calls of a stack as a list. The free slots are left out. -/
def calls (s : CallStack) : List UInt16 :=
  s.live.reverse

@[simp] theorem length_calls (s : CallStack) : s.calls.length = s.depth := by
  rw [calls, List.length_reverse, length_live]

/-! ## One request

One lemma for each kind of request says when it is refused, and what it does to the list otherwise.
-/

/-- An address is refused by a full stack, and else is the latest call. -/
theorem serve_push (s : CallStack) (addr : UInt16) :
    (s.depth = 16 ∧ s.serve (.push addr) = (.pushed false, s)) ∨
      s.depth < 16 ∧ ∃ s', s.serve (.push addr) = (.pushed true, s') ∧
        s'.calls = addr :: s.calls := by
  cases hpush : s.push? addr with
  | none =>
    have hfull := (push?_eq_none_iff s addr).mp hpush
    rw [length_live] at hfull
    exact .inl ⟨hfull, by simp only [serve, hpush]⟩
  | some s' =>
    have hroom : s.depth ≠ 16 := by
      intro hfull
      rw [(push?_eq_none_iff s addr).mpr (by rw [length_live, hfull])] at hpush
      contradiction
    have hle := s.depth_le
    refine .inr ⟨by omega, s', by simp only [serve, hpush], ?_⟩
    -- the view has the latest call at its end, the list at its head
    rw [calls, live_of_push? hpush, List.reverse_concat]
    rfl

/-- The latest call is given back, if any is open. -/
theorem serve_pop (s : CallStack) :
    (s.calls = [] ∧ s.serve .pop = (.popped none, s)) ∨
      ∃ addr s', s.serve .pop = (.popped (some addr), s') ∧ s.calls = addr :: s'.calls := by
  cases hpop : s.pop? with
  | none =>
    have hnone : s.calls = [] := by rw [calls, (pop?_eq_none_iff s).mp hpop, List.reverse_nil]
    exact .inl ⟨hnone, by simp only [serve, hpop]⟩
  | some popped =>
    obtain ⟨addr, s'⟩ := popped
    refine .inr ⟨addr, s', by simp only [serve, hpop], ?_⟩
    rw [calls, live_of_pop? hpop, List.reverse_concat]
    rfl

/-- A request is answered by a stack as by the list of its open calls, and leaves them in step. -/
theorem serve_refines (s : CallStack) (r : StackRequest) :
    (s.serve r).1 = (OpenCalls.serve s.calls r).1 ∧
      (s.serve r).2.calls = (OpenCalls.serve s.calls r).2 := by
  cases r with
  | push addr =>
    rcases s.serve_push addr with ⟨hfull, hserve⟩ | ⟨hroom, s', hserve, hcalls⟩
    · have hlist : OpenCalls.serve s.calls (.push addr) = (.pushed false, s.calls) :=
        if_neg (show ¬ s.calls.length < 16 by rw [length_calls]; omega)
      rw [hserve, hlist]
      exact ⟨rfl, rfl⟩
    · have hlist : OpenCalls.serve s.calls (.push addr) = (.pushed true, addr :: s.calls) :=
        if_pos (show s.calls.length < 16 by rw [length_calls]; omega)
      rw [hserve, hlist]
      exact ⟨rfl, hcalls⟩
  | pop =>
    rcases s.serve_pop with ⟨hnone, hserve⟩ | ⟨addr, s', hserve, hcalls⟩
    · rw [hserve, hnone]
      exact ⟨rfl, rfl⟩
    · rw [hserve, hcalls]
      exact ⟨rfl, rfl⟩
  -- clearing leaves all slots as they are, and no call open
  | clear =>
    refine ⟨rfl, ?_⟩
    show s.clear.calls = []
    rw [calls, live_clear, List.reverse_nil]

/-! ## Histories

By induction on the requests, from any stack and the list of its calls. -/

/-- Stack and list give the same answers to any requests. -/
theorem trace_eq (s : CallStack) (history : List StackRequest) :
    s.trace history = OpenCalls.trace s.calls history := by
  induction history generalizing s with
  | nil => rfl
  | cons r rest ih =>
    obtain ⟨hanswer, hcalls⟩ := s.serve_refines r
    rw [trace, OpenCalls.trace, ih, ← hanswer, ← hcalls, length_calls]

/-- They are still in step after that. -/
theorem calls_after (s : CallStack) (history : List StackRequest) :
    (s.after history).calls = OpenCalls.after s.calls history := by
  induction history generalizing s with
  | nil => rfl
  | cons r rest ih =>
    show ((s.serve r).2.after rest).calls = OpenCalls.after (OpenCalls.serve s.calls r).2 rest
    rw [ih, (s.serve_refines r).2]

/-- **A stack is a list of at most sixteen addresses.** Asked anything in any order, a new stack
gives the answers of the list and has its depth. After that, an address is taken exactly if fewer
than sixteen calls are open, and the one that is given back is the latest that was taken and has not
been given back or cleared since; where one is refused or there is none, nothing has changed. What
is left in the free slots does not matter: every stack with the same calls open answers alike from
there on. -/
theorem list_of_sixteen (history : List StackRequest) :
    let s := empty.after history
    let openCalls := OpenCalls.after [] history
    empty.trace history = OpenCalls.trace [] history ∧
      s.depth = openCalls.length ∧
      (∀ addr, ((s.serve (.push addr)).1 = .pushed true ↔ openCalls.length < 16) ∧
        (¬ openCalls.length < 16 → s.serve (.push addr) = (.pushed false, s))) ∧
      ((s.serve .pop).1 = .popped openCalls.head?) ∧
      (openCalls = [] → s.serve .pop = (.popped none, s)) ∧
      ∀ t : CallStack, t.live = s.live → ∀ later, t.trace later = s.trace later := by
  intro s openCalls
  have hcalls : s.calls = openCalls := calls_after empty history
  have hdepth : s.depth = openCalls.length := by rw [← hcalls, length_calls]
  refine ⟨trace_eq empty history, hdepth, ?_, ?_, ?_, ?_⟩
  · intro addr
    rw [← hdepth]
    rcases s.serve_push addr with ⟨hfull, hserve⟩ | ⟨hroom, s', hserve, -⟩
    · rw [hserve]
      exact ⟨iff_of_false (by simp) (by omega), fun _ => rfl⟩
    · rw [hserve]
      exact ⟨iff_of_true rfl hroom, fun hfull => absurd hroom hfull⟩
  · rw [(s.serve_refines .pop).1, hcalls]
    rfl
  · intro hnone
    rcases s.serve_pop with ⟨-, hserve⟩ | ⟨addr, s', -, hcons⟩
    · exact hserve
    · rw [hcalls, hnone] at hcons
      contradiction
  · -- two stacks with the same calls open are refined by the same list
    intro t hlive later
    rw [trace_eq, trace_eq, calls, hlive]
    rfl

/-- The seventeenth address is refused, the sixteenth comes back, and after a clearing none does. -/
example :
    let history := List.replicate 15 (.push 2) ++ [.push 4, .push 6, .pop, .clear, .pop]
    (empty.trace history).drop 15 =
      [(.pushed true, 16), (.pushed false, 16), (.popped (some 4), 15), (.cleared, 0),
        (.popped none, 0)] := by
  decide

end CallStack

end Cosmac
