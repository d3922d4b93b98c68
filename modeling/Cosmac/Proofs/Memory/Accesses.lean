import Cosmac.Proofs.Machine.Loading

/-!
# Cosmac — memory as an array

Four kinds of access reach for memory: bytes are laid down, a range is taken to be written and
filled, a range is read, and two bytes are read as a word. Each has a check of its own that the
range lies inside. Over any history of them, whether they succeed or not, memory is an array of 4096
bytes.

An array is described without a memory. What an access lays down at an address can be told from the
access alone, and the byte that was laid down there last from the history. Memory comes in where one
access is compared with what it lays down, and the history follows by induction.

* `Access.lays?` — what an access lays down at an address, from which `latest?` tells the byte that
  was laid down there last. Neither looks at a memory.

* `Served` — how an access ends. `served` says that there are no other ways.

* `byteAt_serve` — one access; `byteAt_after` — after a history, a byte is what was laid down last,
  or what it was at first.

* `array_under_history` — which accesses succeed, and what they give and change.
-/

namespace Cosmac

namespace Ram

/-- An access to memory: bytes are laid down, a writable range is filled, or bytes or a word are
read. -/
inductive Access
  | write (start : UInt16) (data : List UInt8)
  | fill (start : UInt16) (len : Nat) (value : UInt8)
  | read (start : UInt16) (len : Nat)
  | word (addr : UInt16)
  deriving DecidableEq

/-- What a successful access gives. -/
inductive Answer
  | done
  | bytes (data : List UInt8)
  | word (w : UInt16)
  deriving DecidableEq

namespace Access

def start : Access → UInt16
  | write start _ | fill start _ _ | read start _ => start
  | word addr => addr

def len : Access → Nat
  | write _ data => data.length
  | fill _ len _ | read _ len => len
  | word _ => 2

/-- The bytes that an access wants to lay down. -/
def data : Access → List UInt8
  | write _ data => data
  | fill _ len value => List.replicate len value
  | read .. | word _ => []

/-- What an access lays down at `a`: nothing, unless its whole range lies inside memory. -/
def lays? (access : Access) (a : Nat) : Option UInt8 :=
  if access.start.toNat + access.len ≤ 4096 ∧ access.start.toNat ≤ a then
    access.data[a - access.start.toNat]?
  else none

end Access

/-- What was laid down at `a` last. -/
def latest? (history : List Access) (a : Nat) : Option UInt8 :=
  (history.filterMap (·.lays? a)).getLast?

/-- An access to a memory of which there is only one: its answer, and the memory after it, whether
it succeeds or not. -/
def serve (m : Ram) : Access → Except OutOfBounds Answer × Ram
  | .write start data =>
    match m.write? start.toNat data with
    | .error e => (.error e, m)
    | .ok m' => (.ok .done, m')
  | .fill start len value =>
    match m.fill? start.toNat len value with
    | .error e => (.error e, m)
    | .ok m' => (.ok .done, m')
  | .read start len => ((m.read? start.toNat len).map .bytes, m)
  | .word addr => ((m.word? addr.toNat).map .word, m)

/-- Memory after a history. -/
def after (m : Ram) (history : List Access) : Ram :=
  history.foldl (fun m access => (m.serve access).2) m

/-! ## One access

Every access is refused for the same reason, that its range does not end inside memory, and says
what it reached for. So there is one constructor for refusals, and one for each kind of access that
goes through. -/

/-- How an access ends, and the memory after it. -/
inductive Served (m : Ram) : Access → Except OutOfBounds Answer × Ram → Prop
  | refused {access : Access} (h : ¬ access.start.toNat + access.len ≤ 4096) :
    Served m access (.error ⟨access.start.toNat, access.len⟩, m)
  | written {start : UInt16} {data : List UInt8} (h : start.toNat + data.length ≤ 4096) :
    Served m (.write start data) (.ok .done, m.overwrite start.toNat data)
  | filled {start : UInt16} {len : Nat} {value : UInt8} (h : start.toNat + len ≤ 4096) :
    Served m (.fill start len value)
      (.ok .done, m.overwrite start.toNat (List.replicate len value))
  | read {start : UInt16} {len : Nat} {data : List UInt8} (h : start.toNat + len ≤ 4096)
    (length : data.length = len) (bytes : ∀ k < len, data[k]? = m.byteAt (start.toNat + k)) :
    Served m (.read start len) (.ok (.bytes data), m)
  | word {addr : UInt16} {hi lo : UInt8} (h : addr.toNat + 2 ≤ 4096)
    (high : m.byteAt addr.toNat = some hi) (low : m.byteAt (addr.toNat + 1) = some lo) :
    Served m (.word addr) (.ok (.word (wordOfBytes hi lo)), m)

theorem exists_byteAt (m : Ram) {a : Nat} (h : a < 4096) : ∃ b, m.byteAt a = some b :=
  ⟨m.bytes[a], Vector.getElem?_eq_getElem h⟩

/-- An access of which the whole range lies inside memory goes through. -/
theorem served_of_fits (m : Ram) {access : Access}
    (h : access.start.toNat + access.len ≤ 4096) : Served m access (m.serve access) := by
  cases access with
  | write start data =>
    have hwrite := (write?_eq_ok_iff m _ start.toNat data).mpr ⟨h, rfl⟩
    have hserve : m.serve (.write start data) = (.ok .done, m.overwrite start.toNat data) := by
      simp only [serve, hwrite]
    rw [hserve]
    exact .written h
  | fill start len value =>
    have hfill : m.fill? start.toNat len value =
        .ok (m.overwrite start.toNat (List.replicate len value)) := if_pos h
    have hserve : m.serve (.fill start len value) =
        (.ok .done, m.overwrite start.toNat (List.replicate len value)) := by
      simp only [serve, hfill]
    rw [hserve]
    exact .filled h
  | read start len =>
    obtain ⟨data, hread⟩ : ∃ data, m.read? start.toNat len = .ok data := ⟨_, if_pos h⟩
    have hserve : m.serve (.read start len) = (.ok (.bytes data), m) := by
      simp only [serve, hread]
      rfl
    rw [hserve]
    refine .read h (length_of_read? hread) ?_
    intro k hk
    rw [getElem?_of_read? hread, if_pos hk]
  | word addr =>
    -- a word needs both of its bytes
    have hle : addr.toNat + 2 ≤ 4096 := h
    obtain ⟨hi, hhi⟩ := m.exists_byteAt (show addr.toNat < 4096 by omega)
    obtain ⟨lo, hlo⟩ := m.exists_byteAt (show addr.toNat + 1 < 4096 by omega)
    have hserve : m.serve (.word addr) = (.ok (.word (wordOfBytes hi lo)), m) := by
      simp only [serve, word?_eq_ok hhi hlo]
      rfl
    rw [hserve]
    exact .word h hhi hlo

/-- Any other is refused, and memory stays as it was. -/
theorem serve_of_not_fits (m : Ram) {access : Access}
    (h : ¬ access.start.toNat + access.len ≤ 4096) :
    m.serve access = (.error ⟨access.start.toNat, access.len⟩, m) := by
  -- four checks, with one bound
  cases access with
  | write start data =>
    have hwrite : m.write? start.toNat data = .error ⟨start.toNat, data.length⟩ := if_neg h
    simp only [serve, hwrite]
    rfl
  | fill start len value =>
    have hfill : m.fill? start.toNat len value = .error ⟨start.toNat, len⟩ := if_neg h
    simp only [serve, hfill]
    rfl
  | read start len =>
    have hread : m.read? start.toNat len = .error ⟨start.toNat, len⟩ := if_neg h
    simp only [serve, hread]
    rfl
  | word addr =>
    have hword : m.word? addr.toNat = .error ⟨addr.toNat, 2⟩ := dif_neg h
    simp only [serve, hword]
    rfl

/-- **These are all the ways in which an access ends.** -/
theorem served (m : Ram) (access : Access) : Served m access (m.serve access) := by
  by_cases h : access.start.toNat + access.len ≤ 4096
  · exact m.served_of_fits h
  · rw [m.serve_of_not_fits h]
    exact .refused h

/-- Which accesses succeed does not depend on what is in memory. -/
theorem exists_ok_iff (m : Ram) (access : Access) :
    (∃ answer m', m.serve access = (.ok answer, m')) ↔ access.start.toNat + access.len ≤ 4096 := by
  have hserved := m.served access
  generalize m.serve access = ending at hserved
  -- only a refusal has no answer, and it says that the range does not fit
  cases hserved with
  | refused h => simp [h]
  | written h => exact iff_of_true ⟨_, _, rfl⟩ h
  | filled h => exact iff_of_true ⟨_, _, rfl⟩ h
  | read h length bytes => exact iff_of_true ⟨_, _, rfl⟩ h
  | word h high low => exact iff_of_true ⟨_, _, rfl⟩ h

/-! ## Histories

The latest byte of a longer history is that of its end, if the end lays one down there, and so
memory after the first access takes the place of the memory at first. -/

theorem lays?_of_not_fits {access : Access} (h : ¬ access.start.toNat + access.len ≤ 4096)
    (a : Nat) : access.lays? a = none :=
  if_neg fun hin => h hin.1

theorem lays?_of_data_nil {access : Access} (h : access.data = []) (a : Nat) :
    access.lays? a = none := by
  rw [Access.lays?, h]
  simp

/-- Bytes that are laid down hide what was there before. -/
theorem byteAt_overwrite_data (m : Ram) (access : Access)
    (hfits : access.start.toNat + access.len ≤ 4096) (hlen : access.data.length = access.len)
    (a : Nat) :
    (m.overwrite access.start.toNat access.data).byteAt a = (access.lays? a).or (m.byteAt a) := by
  have hle : access.start.toNat + access.data.length ≤ size := by
    rw [hlen]
    exact hfits
  rw [byteAt_overwrite_of_le hle, Access.lays?]
  -- inside the range that is laid down, before it, or behind it
  by_cases hin : access.start.toNat ≤ a ∧ a < access.start.toNat + access.data.length
  · rw [if_pos hin, if_pos ⟨hfits, hin.1⟩,
      List.getElem?_eq_getElem (show a - access.start.toNat < access.data.length by omega)]
    rfl
  · rw [if_neg hin]
    by_cases hstart : access.start.toNat ≤ a
    · rw [if_pos ⟨hfits, hstart⟩,
        List.getElem?_eq_none (show access.data.length ≤ a - access.start.toNat by omega)]
      rfl
    · rw [if_neg fun h => hstart h.2]
      rfl

/-- After one more access there is what it lays down, and elsewhere what was there. -/
theorem byteAt_serve (m : Ram) (access : Access) (a : Nat) :
    (m.serve access).2.byteAt a = (access.lays? a).or (m.byteAt a) := by
  have hserved := m.served access
  generalize m.serve access = ending at hserved
  -- what is refused and what is read lay nothing down
  cases hserved with
  | refused h => rw [lays?_of_not_fits h, Option.none_or]
  | @written start data h => exact m.byteAt_overwrite_data (.write start data) h rfl a
  | @filled start len value h =>
    exact m.byteAt_overwrite_data (.fill start len value) h List.length_replicate a
  | read h length bytes => rw [lays?_of_data_nil rfl, Option.none_or]
  | word h high low => rw [lays?_of_data_nil rfl, Option.none_or]

/-- **A byte is what was laid down last at its address, or what it was at first.** -/
theorem byteAt_after (m : Ram) (history : List Access) (a : Nat) :
    (m.after history).byteAt a = (latest? history a).or (m.byteAt a) := by
  induction history generalizing m with
  | nil => rfl
  | cons access history ih =>
    show ((m.serve access).2.after history).byteAt a = _
    rw [ih, byteAt_serve, ← Option.or_assoc]
    congr 1
    -- the first access counts only where none of the others lays something down
    cases hlays : access.lays? a with
    | none => simp [latest?, hlays]
    | some b => simp [latest?, hlays, List.getLast?_cons]

/-- **Memory is an array under every history.** After any accesses, successful or not, and from any
bytes at the beginning, let `byte` be what was laid down last at an address, or what was there at
first. Reading a range and taking it to be written succeed for the same ranges, those that lie
inside memory. A read gives the bytes of its range, and a word is two of them. What fails says what
it reached for, and has changed nothing. -/
theorem array_under_history (initial : Ram) (history : List Access) :
    let m := initial.after history
    let byte (a : Nat) := (latest? history a).or (initial.byteAt a)
    (∀ start len value,
      ((∃ answer m', m.serve (.read start len) = (.ok answer, m')) ↔ start.toNat + len ≤ 4096) ∧
      ((∃ answer m', m.serve (.fill start len value) = (.ok answer, m')) ↔
        start.toNat + len ≤ 4096)) ∧
    (∀ start data, (∃ answer m', m.serve (.write start data) = (.ok answer, m')) ↔
      start.toNat + data.length ≤ 4096) ∧
    (∀ start len answer m', m.serve (.read start len) = (.ok answer, m') →
      ∃ data, answer = .bytes data ∧ data.length = len ∧
        ∀ k < len, data[k]? = byte (start.toNat + k)) ∧
    (∀ access e m', m.serve access = (.error e, m') →
      e = ⟨access.start.toNat, access.len⟩ ∧ m' = m) ∧
    (∀ addr, (∃ answer m', m.serve (.word addr) = (.ok answer, m')) ↔ addr.toNat ≤ 0xffe) ∧
    (∀ addr answer m', m.serve (.word addr) = (.ok answer, m') →
      ∃ w hi lo, answer = .word w ∧ byte addr.toNat = some hi ∧ byte (addr.toNat + 1) = some lo ∧
        w.toNat = 256 * hi.toNat + lo.toNat) := by
  intro m byte
  have hbyte (a : Nat) : m.byteAt a = byte a := byteAt_after initial history a
  have hok := m.exists_ok_iff
  refine ⟨fun start len value => ⟨hok (.read start len), hok (.fill start len value)⟩,
    fun start data => hok (.write start data), ?_, ?_, ?_, ?_⟩
  · -- what was read, told by the history
    intro start len answer m' h
    have hread := m.served (.read start len)
    rw [h] at hread
    cases hread with
    | read hle length bytes =>
      refine ⟨_, rfl, length, ?_⟩
      intro k hk
      rw [bytes k hk, hbyte]
  · intro access e m' h
    have hrefused := m.served access
    rw [h] at hrefused
    cases hrefused with
    | refused h => exact ⟨rfl, rfl⟩
  · -- the last word begins one byte before the end
    intro addr
    refine (hok (.word addr)).trans ?_
    show addr.toNat + 2 ≤ 4096 ↔ addr.toNat ≤ 0xffe
    omega
  · intro addr answer m' h
    have hword := m.served (.word addr)
    rw [h] at hword
    cases hword with
    | word hle high low =>
      rw [hbyte] at high low
      exact ⟨_, _, _, rfl, high, low, toNat_wordOfBytes _ _⟩

/-- The write that reaches past the end does not count, and the fill hides one byte of two. -/
example :
    let history : List Access :=
      [.write 0xffe [1, 2], .write 0xfff [3, 4], .read 0 4096, .fill 0xffe 1 9, .fill 0xfff 0 5]
    latest? history 0xffe = some 9 ∧ latest? history 0xfff = some 2 ∧
      latest? history 0xffd = none := by
  decide

end Ram

end Cosmac
