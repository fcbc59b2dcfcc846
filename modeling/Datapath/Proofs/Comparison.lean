import Datapath.Proofs.Instructions
import Mathlib.Algebra.Ring.Int.Defs
import Mathlib.Algebra.Ring.Nat

/-!
# Comparisons

A comparison is a subtraction that is asked to set the flags; whether its
difference also goes to a register does not matter. `Condition.Compares` says
what each condition means for the two operands, in terms of their signed and
unsigned readings and without mention of flags. The flags left behind by a
subtraction decide exactly that.

The signed orders are the delicate ones. The difference may leave the range of
a word, and then its sign is the wrong one. That happens exactly when the
overflow flag is set, so comparing the two flags undoes it.
-/

namespace Datapath

/-- The integers that are the signed reading of some word. -/
def FitsWord (value : Int) : Prop := -2 ^ 63 ≤ value ∧ value < 2 ^ 63

instance (value : Int) : Decidable (FitsWord value) := inferInstanceAs (Decidable (_ ∧ _))

/-- The signed reading of a word stays in the range of a word. -/
theorem fitsWord_toInt (word : Word) : FitsWord word.toInt :=
  ⟨BitVec.le_toInt word, BitVec.toInt_lt⟩

/-- A value within one word size of zero is brought into the range of a word by one
correction, if it needs any. -/
theorem bmod_word_cases {value : Int} (near : -2 ^ 64 ≤ value ∧ value < 2 ^ 64) :
    value.bmod (2 ^ 64) =
      if value < -2 ^ 63 then value + 2 ^ 64
      else if value < 2 ^ 63 then value
      else value - 2 ^ 64 := by
  rw [Int.bmod_def]
  grind

/-- The signed reading of a difference is the exact difference, moved back into
the range of a word if it left the range. -/
theorem toInt_sub_cases (a b : Word) :
    (a - b).toInt =
      if a.toInt - b.toInt < -2 ^ 63 then a.toInt - b.toInt + 2 ^ 64
      else if a.toInt - b.toInt < 2 ^ 63 then a.toInt - b.toInt
      else a.toInt - b.toInt - 2 ^ 64 := by
  obtain ⟨leftLow, leftHigh⟩ := fitsWord_toInt a
  obtain ⟨rightLow, rightHigh⟩ := fitsWord_toInt b
  rw [BitVec.toInt_sub]
  exact bmod_word_cases (by omega)

/-- Overflow says that the exact difference is the signed reading of no word. -/
theorem ssubOverflow_iff (a b : Word) :
    BitVec.ssubOverflow a b = true ↔ ¬ FitsWord (a.toInt - b.toInt) := by
  simp only [BitVec.ssubOverflow, FitsWord, Bool.or_eq_true, decide_eq_true_eq]
  omega

/-- The sign of the wrapped difference, turned around when the exact one does not
fit, is the sign of the exact difference. -/
theorem sign_sub_iff (a b : Word) :
    ((a - b).toInt < 0 ↔ ¬ FitsWord (a.toInt - b.toInt)) ↔ b.toInt ≤ a.toInt := by
  obtain ⟨leftLow, leftHigh⟩ := fitsWord_toInt a
  obtain ⟨rightLow, rightHigh⟩ := fitsWord_toInt b
  rw [FitsWord, toInt_sub_cases]
  split
  · omega
  · split <;> omega

/-! ## Conditions after a comparison -/

namespace Condition

/-- What a condition says of the operands of a comparison. -/
def Compares (a b : Word) : Condition → Prop
  | eq => a = b
  | ne => a ≠ b
  | hs => b.toNat ≤ a.toNat
  | lo => a.toNat < b.toNat
  | mi => (a - b).toInt < 0
  | pl => 0 ≤ (a - b).toInt
  | vs => ¬ FitsWord (a.toInt - b.toInt)
  | vc => FitsWord (a.toInt - b.toInt)
  | hi => b.toNat < a.toNat
  | ls => a.toNat ≤ b.toNat
  | ge => b.toInt ≤ a.toInt
  | lt => a.toInt < b.toInt
  | gt => b.toInt < a.toInt
  | le => a.toInt ≤ b.toInt
  | al => True

instance (a b : Word) : (condition : Condition) → Decidable (condition.Compares a b)
  | eq => inferInstanceAs (Decidable (a = b))
  | ne => inferInstanceAs (Decidable (a ≠ b))
  | hs => inferInstanceAs (Decidable (b.toNat ≤ a.toNat))
  | lo => inferInstanceAs (Decidable (a.toNat < b.toNat))
  | mi => inferInstanceAs (Decidable ((a - b).toInt < 0))
  | pl => inferInstanceAs (Decidable (0 ≤ (a - b).toInt))
  | vs => inferInstanceAs (Decidable ¬ FitsWord (a.toInt - b.toInt))
  | vc => inferInstanceAs (Decidable (FitsWord (a.toInt - b.toInt)))
  | hi => inferInstanceAs (Decidable (b.toNat < a.toNat))
  | ls => inferInstanceAs (Decidable (a.toNat ≤ b.toNat))
  | ge => inferInstanceAs (Decidable (b.toInt ≤ a.toInt))
  | lt => inferInstanceAs (Decidable (a.toInt < b.toInt))
  | gt => inferInstanceAs (Decidable (b.toInt < a.toInt))
  | le => inferInstanceAs (Decidable (a.toInt ≤ b.toInt))
  | al => inferInstanceAs (Decidable True)

/-- The codes of four bits that stand for a condition. Only the last condition has two. -/
def codes : Condition → List Nat
  | eq => [0]
  | ne => [1]
  | hs => [2]
  | lo => [3]
  | mi => [4]
  | pl => [5]
  | vs => [6]
  | vc => [7]
  | hi => [8]
  | ls => [9]
  | ge => [10]
  | lt => [11]
  | gt => [12]
  | le => [13]
  | al => [14, 15]

/-- A byte whose low four bits are a code of the condition encodes the condition,
whatever its high four bits are. -/
theorem ofBits_eq_of_code {bits : BitVec 8} {condition : Condition}
    (encodes : bits.toNat % 16 ∈ condition.codes) : ofBits bits = condition := by
  have low : (bits &&& 15).toNat = bits.toNat % 16 := Nat.and_two_pow_sub_one_eq_mod bits.toNat 4
  unfold ofBits
  rw [low]
  generalize bits.toNat % 16 = code at encodes
  cases condition with
  | al =>
    rcases List.mem_cons.1 encodes with rfl | last
    · rfl
    · cases List.mem_singleton.1 last
      rfl
  | _ =>
    cases List.mem_singleton.1 encodes
    rfl

end Condition

/-- What the four flags say of the operands after a comparison. -/
structure Flags.Describe (flags : Flags) (a b : Word) : Prop where
  negative : flags.negative = true ↔ (a - b).toInt < 0
  zero : flags.zero = true ↔ a = b
  carry : flags.carry = true ↔ b.toNat ≤ a.toNat
  overflow : flags.overflow = true ↔ ¬ FitsWord (a.toInt - b.toInt)

/-- The flags of a difference describe its operands. -/
theorem describe_flags_sub (a b : Word) :
    (Alu.Outcome.withFlags (a - b) (BitVec.ule b a)
      (BitVec.ssubOverflow a b)).flags.Describe a b where
  negative := decide_eq_true_iff
  zero := by
    rw [show a = b ↔ a - b = 0 by constructor <;> intro same <;> bv_omega]
    exact decide_eq_true_iff
  carry := decide_eq_true_iff
  overflow := ssubOverflow_iff a b

namespace Condition

/-- Flags that describe two operands satisfy a condition exactly when the operands do.

Proof: condition by condition. The strict orders combine an order with equality, in the reading of
that order. -/
theorem holds_iff_compares {flags : Flags} {a b : Word} (describe : flags.Describe a b)
    (condition : Condition) : condition.holds flags = true ↔ condition.Compares a b := by
  obtain ⟨negative, zero, carry, overflow⟩ := describe
  have equal : a = b ↔ a.toNat = b.toNat := BitVec.toNat_inj.symm
  have equalSigned : a = b ↔ a.toInt = b.toInt := BitVec.toInt_inj.symm
  have sign : flags.negative = flags.overflow ↔ b.toInt ≤ a.toInt := by
    rw [Bool.eq_iff_iff, negative, overflow]
    exact sign_sub_iff a b
  cases condition with
  | eq => exact zero
  | ne => simp [holds, Compares, ← zero]
  | hs => exact carry
  | lo => simp [holds, Compares, ← Nat.not_le, ← carry]
  | mi => exact negative
  | pl =>
    rw [Compares, ← Int.not_lt, ← negative]
    simp [holds]
  | vs => exact overflow
  | vc =>
    have inRange : FitsWord (a.toInt - b.toInt) ↔ ¬ flags.overflow = true := by
      rw [overflow, Classical.not_not]
    rw [Compares, inRange]
    simp [holds]
  | hi => grind [holds, Compares]
  | ls => grind [holds, Compares]
  | ge => simp [holds, Compares, sign]
  | lt => grind [holds, Compares]
  | gt => grind [holds, Compares]
  | le => grind [holds, Compares]
  | al => simp [holds, Compares]

end Condition

/-! ## The comparison itself -/

/-- A flag-setting subtraction succeeds for every register that can take its
difference, the zero register of a comparison proper included. The flags it
leaves satisfy a condition exactly when its operands do, and so for the
condition that any byte encodes.

The session is arbitrary: what the machine held before has no influence. -/
theorem comparison_decides (session : Session) (destination : Int) (a b : Word) :
    ((∃ outcome after,
      (Exec.execute .sub destination a b true).run session = .ok outcome after) ↔
      0 ≤ destination ∧ destination < 32) ∧
    ∀ outcome after,
      (Exec.execute .sub destination a b true).run session = .ok outcome after →
      ∀ condition : Condition,
        (condition.holds after.machine.flags = true ↔ condition.Compares a b) ∧
        ∀ bits : BitVec 8, bits.toNat % 16 ∈ condition.codes →
          ((Condition.ofBits bits).holds after.machine.flags = true ↔
            condition.Compares a b) := by
  constructor
  · rw [Exec.execute_succeeds_iff]
    simp [Alu.compute, Alu.Operation.owner, Alu.arithmetic, Alu.Operation.signalsDecodeDefect]
  · intro outcome after success condition
    obtain ⟨computed, latched⟩ := Exec.flags_of_execute rfl success
    cases computed
    have describe : after.machine.flags.Describe a b := by
      rw [latched]
      exact describe_flags_sub a b
    refine ⟨Condition.holds_iff_compares describe condition, ?_⟩
    intro bits encodes
    rw [Condition.ofBits_eq_of_code encodes]
    exact Condition.holds_iff_compares describe condition

/-- The least word compared with one on a new machine: the difference wraps to
the greatest word, yet the condition for less holds, also when it is fetched from
a byte with all high bits set. -/
theorem least_word_compares_less :
    ∃ outcome after,
      (Exec.execute .sub 31 (BitVec.intMin 64) 1 true).run {} = .ok outcome after ∧
        Condition.lt.holds after.machine.flags = true ∧
        (Condition.ofBits 0xFB).holds after.machine.flags = true ∧
        Condition.mi.holds after.machine.flags = false := by
  obtain ⟨accepted, decides⟩ := comparison_decides {} 31 (BitVec.intMin 64) 1
  obtain ⟨outcome, after, success⟩ := accepted.2 (by decide)
  have less := decides outcome after success .lt
  have minus := (decides outcome after success .mi).1
  refine ⟨outcome, after, success, less.1.2 (by decide), ?_, ?_⟩
  · exact (less.2 0xFB (by decide)).2 (by decide)
  · exact Bool.eq_false_iff.2 fun held => absurd (minus.1 held) (by decide)

end Datapath
