import Datapath.Alu.Operation
import Datapath.Fault
import Datapath.Flags

/-!
# Outcomes of the arithmetic-logic unit

An outcome is a result together with the flags it sets. Negative and zero are
always read off the result; carry and overflow are set by addition and
subtraction only. Division by zero is the only way for a computation to fail.

Each part answers every operation. One that it does not own gives zero: the
logic unit and the shifter return the word zero, the arithmetic unit the
all-clear outcome, in which even the zero flag is clear.
-/

namespace Datapath.Alu

/-- A result and the flags it sets. -/
structure Outcome where
  result : Word
  flags : Flags
deriving DecidableEq, Repr

namespace Outcome

/-- The outcome of an operation that did no work: no flag is set, not even the zero flag. -/
def allClear : Outcome := ⟨0, {}⟩

/-- A result with its own sign and zero flags and the given carry and overflow. -/
def withFlags (result : Word) (carry overflow : Bool) : Outcome :=
  ⟨result, ⟨decide (result.toInt < 0), decide (result = 0), carry, overflow⟩⟩

/-- A result that neither carries nor overflows. -/
def ofResult (result : Word) : Outcome := withFlags result false false

end Outcome

/-- The high half of the product of the signed readings. -/
def signedProductHigh (a b : Word) : Word :=
  (a.signExtend 128 * b.signExtend 128).extractLsb' 64 64

/-- The high half of the product of the unsigned readings. -/
def unsignedProductHigh (a b : Word) : Word :=
  (a.setWidth 128 * b.setWidth 128).extractLsb' 64 64

/-- The arithmetic unit. The carry of a subtraction is the absence of a borrow.
Signed division rounds toward zero and wraps for the one quotient out of range. -/
def arithmetic (operation : Operation) (a b : Word) : Except Fault Outcome :=
  match operation with
  | .add => .ok (.withFlags (a + b) (BitVec.uaddOverflow a b) (BitVec.saddOverflow a b))
  | .sub => .ok (.withFlags (a - b) (BitVec.ule b a) (BitVec.ssubOverflow a b))
  | .mul => .ok (.ofResult (a * b))
  | .smulh => .ok (.ofResult (signedProductHigh a b))
  | .umulh => .ok (.ofResult (unsignedProductHigh a b))
  | .sdiv =>
    if b = 0 then .error (.divisionByZero a b) else .ok (.ofResult (BitVec.sdiv a b))
  | .udiv => if b = 0 then .error (.divisionByZero a b) else .ok (.ofResult (a / b))
  | _ => .ok .allClear

/-- The logic unit, which also passes one operand through unchanged. -/
def logic (operation : Operation) (a b : Word) : Word :=
  match operation with
  | .and => a &&& b
  | .orr => a ||| b
  | .eor => a ^^^ b
  | .mov => b
  | .passA => a
  | _ => 0

/-- The amount that a shift by `b` moves its operand: the low six bits of `b`. -/
def shiftAmount (b : Word) : Nat := (b &&& shiftMask).toNat

/-- The shifter. Only the arithmetic shift right keeps the sign. -/
def shift (operation : Operation) (a b : Word) : Word :=
  match operation with
  | .lsl => a <<< shiftAmount b
  | .lsr => a >>> shiftAmount b
  | .asr => a.sshiftRight (shiftAmount b)
  | _ => 0

/-- The outcome of an operation: its owner's answer, or the all-clear outcome if it has no owner. -/
def compute (operation : Operation) (a b : Word) : Except Fault Outcome :=
  match operation.owner with
  | some .arithmetic => arithmetic operation a b
  | some .logic => .ok (.ofResult (logic operation a b))
  | some .shifter => .ok (.ofResult (shift operation a b))
  | none => .ok .allClear

end Datapath.Alu
