/-!
# Cosmac — the keypad

Sixteen keys, `0` to `F`. Numbers past `F` name no key: setting one changes nothing, asking for one
has no answer.

A keypad is the state of its keys at one moment. Whose fingers they are under, and for how long a
press counts, is the business of the input devices.
-/

namespace Cosmac

structure Keypad where
  keys : Vector Bool 16
  deriving DecidableEq

namespace Keypad

/-- No key is down. -/
def released : Keypad where
  keys := Vector.replicate 16 false

def setKey (k : Keypad) (key : Nat) (down : Bool) : Keypad where
  keys := k.keys.setIfInBounds key down

def isDown? (k : Keypad) (key : Nat) : Option Bool :=
  k.keys[key]?

/-- The keys that are down, in order. -/
def down (k : Keypad) : List (Fin 16) :=
  (List.finRange 16).filter fun key => k.keys[key]

/-- The lowest key that is down. -/
def first? (k : Keypad) : Option (Fin 16) :=
  (List.finRange 16).find? fun key => k.keys[key]

/-- The keypad on which exactly the keys with `held` are down. -/
def ofHeld (held : Fin 16 → Bool) : Keypad where
  keys := Vector.ofFn held

theorem isDown?_ofHeld (held : Fin 16 → Bool) (key : Fin 16) :
    (ofHeld held).isDown? key.val = some (held key) := by
  simp [isDown?, ofHeld]

theorem isDown?_eq_some_iff (k : Keypad) (key : Fin 16) (b : Bool) :
    k.isDown? key.val = some b ↔ k.keys[key] = b := by
  rw [isDown?, Vector.getElem?_eq_getElem key.isLt, Option.some_inj]
  rfl

/-- There is no lowest key exactly where no key is down. -/
theorem first?_eq_none_iff (k : Keypad) :
    k.first? = none ↔ ∀ key : Fin 16, k.keys[key] = false := by
  simp [first?]

/-- The lowest key that is down. -/
theorem first?_eq_some_iff (k : Keypad) (key : Fin 16) :
    k.first? = some key ↔
      k.isDown? key.val = some true ∧ ∀ lower < key, k.isDown? lower.val = some false := by
  -- the search goes through the keys in order, so their places are the keys themselves
  simp only [first?, List.find?_eq_some_iff_getElem, isDown?_eq_some_iff, List.getElem_finRange,
    List.length_finRange, Bool.not_eq_true']
  constructor
  · rintro ⟨hdown, n, hn, rfl, hlower⟩
    exact ⟨hdown, fun lower hlt => hlower lower.val hlt⟩
  · rintro ⟨hdown, hlower⟩
    exact ⟨hdown, key.val, key.isLt, rfl, fun j hj => hlower ⟨j, Nat.lt_trans hj key.isLt⟩ hj⟩

end Keypad

end Cosmac
