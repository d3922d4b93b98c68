/-!
# Cosmac — dialects

Interpreters disagree on a handful of instructions, and programs are written against one behaviour
or the other. A `Dialect` settles every such disagreement, so that one machine can stand for all of
them: what a dialect says is asked for where an instruction needs it, and nowhere else.

* `Dialect.legacy` and `Dialect.modern` — two dialects that programs are written for.

* `IndexOverflow.bound` — what a dialect makes of an index past the last address. It is about
  instructions that move the index. Those that set it to an address of their own are not asked.
-/

namespace Cosmac

/-- The register that `8XY6` and `8XYE` shift: the result goes to `VX` either way. -/
inductive ShiftOperand
  | vy
  | vx
  deriving Repr, DecidableEq

/-- The register whose value `BNNN` adds to its target: `V0`, or the one that the target's
highest digit names. -/
inductive JumpRegister
  | v0
  | vx
  deriving Repr, DecidableEq

/-- What becomes of the part of a sprite that lies past the right or bottom edge. -/
inductive SpriteEdges
  /-- It comes in again on the opposite side. -/
  | wrap
  /-- It is left out. -/
  | clip
  deriving Repr, DecidableEq

/-- What becomes of an index that is moved past the last address. -/
inductive IndexOverflow
  /-- It is kept; accesses through it fault. -/
  | unbounded
  /-- It is taken modulo the size of the address space. -/
  | wrap
  /-- It stops at the last address. -/
  | clamp
  deriving Repr, DecidableEq

/-- One answer to each question on which interpreters disagree. -/
structure Dialect where
  /-- Whether `8XY1`, `8XY2` and `8XY3` zero `VF`. -/
  logicClearsFlag : Bool
  shiftOperand : ShiftOperand
  jumpRegister : JumpRegister
  spriteEdges : SpriteEdges
  /-- Whether `FX55` and `FX65` leave the index after the last byte they transfer. -/
  transferMovesIndex : Bool
  indexOverflow : IndexOverflow
  deriving Repr, DecidableEq

namespace Dialect

/-- What most early programs expect. -/
def legacy : Dialect where
  logicClearsFlag := false
  shiftOperand := .vy
  jumpRegister := .v0
  spriteEdges := .wrap
  transferMovesIndex := true
  indexOverflow := .unbounded

/-- What most programs of the nineties and later expect. -/
def modern : Dialect where
  logicClearsFlag := false
  shiftOperand := .vx
  jumpRegister := .v0
  spriteEdges := .clip
  transferMovesIndex := false
  indexOverflow := .wrap

end Dialect

/-- Where an index lands that is moved to `raw`. An unbounded index is still a sixteen-bit
register. -/
def IndexOverflow.bound (policy : IndexOverflow) (raw : Nat) : UInt16 :=
  match policy with
  | .unbounded => UInt16.ofNat raw
  | .wrap => UInt16.ofNat (raw % 4096)
  | .clamp => UInt16.ofNat (min raw 4095)

end Cosmac
