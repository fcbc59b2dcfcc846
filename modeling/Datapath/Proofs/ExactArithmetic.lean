import Datapath.Proofs.Comparison
import Mathlib.Tactic.Ring

/-!
# Sums, differences and products are exact

The unit works modulo 2 ^ 64, but no information is lost on the way. The carry stands for
the part of an unsigned sum or difference that does not fit, and the overflow for that of a
signed one: a result that left the signed range came back one word size away, with the
wrong sign, so the sign tells in which direction the exact value lies.

A product takes two words. The lower word is the same for both readings of the operands,
since truncation commutes with multiplication. The upper words differ by one operand for
each other operand that is negative.
-/

namespace Datapath.Alu

/-! ## What an outcome says of an exact value -/

namespace Outcome

/-- Negative and zero are the sign and the zero test of the result. -/
structure ReadOff (outcome : Outcome) : Prop where
  negative : outcome.flags.negative = true ↔ outcome.result.toInt < 0
  zero : outcome.flags.zero = true ↔ outcome.result = 0

/-- An outcome has the sign and the zero test of its result, whatever carry and overflow it is
given. -/
theorem readOff_withFlags (result : Word) (carry overflow : Bool) :
    (withFlags result carry overflow).ReadOff :=
  ⟨decide_eq_true_iff, decide_eq_true_iff⟩

/-- The exact value of the signed readings. One that overflowed came back from the other end
of the range, so it is negative where the result is not. -/
def signedExact (outcome : Outcome) : Int :=
  if outcome.flags.overflow then
    if outcome.flags.negative then outcome.result.toInt + 2 ^ 64
    else outcome.result.toInt - 2 ^ 64
  else outcome.result.toInt

/-- The exact sum of the unsigned readings: the carry stands above the result. -/
def unsignedSum (outcome : Outcome) : Nat :=
  if outcome.flags.carry then outcome.result.toNat + 2 ^ 64 else outcome.result.toNat

/-- The exact difference of the unsigned readings: a clear carry is a borrow. -/
def unsignedDifference (outcome : Outcome) : Int :=
  if outcome.flags.carry then outcome.result.toNat else outcome.result.toNat - 2 ^ 64

/-- A result that wraps an exact value gives it back, as long as the value is so near that
one word size brings it in range and overflow says whether this was needed. -/
theorem signedExact_withFlags {result : Word} {exact : Int} (carry : Bool) {overflow : Bool}
    (wraps : result.toInt = exact.bmod (2 ^ 64)) (near : -2 ^ 64 ≤ exact ∧ exact < 2 ^ 64)
    (overflows : overflow = true ↔ ¬ FitsWord exact) :
    (withFlags result carry overflow).signedExact = exact := by
  rw [bmod_word_cases near] at wraps
  have sign : decide (result.toInt < 0) = true ↔ result.toInt < 0 := decide_eq_true_iff
  unfold FitsWord at overflows
  simp only [signedExact, withFlags, overflows, sign]
  split
  case isTrue outside =>
    split at wraps <;> split <;> omega
  case isFalse inside => omega

end Outcome

/-! ## Sums and differences -/

/-- Overflow says that the exact sum is the signed reading of no word. -/
theorem saddOverflow_iff (a b : Word) :
    BitVec.saddOverflow a b = true ↔ ¬ FitsWord (a.toInt + b.toInt) := by
  simp only [BitVec.saddOverflow, FitsWord, Bool.or_eq_true, decide_eq_true_eq]
  omega

/-- The sum and its overflow give back the exact sum of the signed readings. -/
theorem signedExact_add (a b : Word) (carry : Bool) :
    (Outcome.withFlags (a + b) carry (BitVec.saddOverflow a b)).signedExact =
      a.toInt + b.toInt := by
  have left := fitsWord_toInt a
  have right := fitsWord_toInt b
  unfold FitsWord at left right
  refine Outcome.signedExact_withFlags carry (BitVec.toInt_add a b) ?_ (saddOverflow_iff a b)
  omega

/-- The difference and its overflow give back the exact difference of the signed readings. -/
theorem signedExact_sub (a b : Word) (carry : Bool) :
    (Outcome.withFlags (a - b) carry (BitVec.ssubOverflow a b)).signedExact =
      a.toInt - b.toInt := by
  have left := fitsWord_toInt a
  have right := fitsWord_toInt b
  unfold FitsWord at left right
  refine Outcome.signedExact_withFlags carry BitVec.toInt_sub ?_ (ssubOverflow_iff a b)
  omega

/-- The sum and its carry give back the exact sum of the unsigned readings. -/
theorem unsignedSum_add (a b : Word) (overflow : Bool) :
    (Outcome.withFlags (a + b) (BitVec.uaddOverflow a b) overflow).unsignedSum =
      a.toNat + b.toNat := by
  have carries : BitVec.uaddOverflow a b = true ↔ 2 ^ 64 ≤ a.toNat + b.toNat := decide_eq_true_iff
  simp only [Outcome.unsignedSum, Outcome.withFlags, carries, BitVec.toNat_add]
  split <;> omega

/-- The difference and its carry give back the exact difference of the unsigned readings. -/
theorem unsignedDifference_sub (a b : Word) (overflow : Bool) :
    (Outcome.withFlags (a - b) (BitVec.ule b a) overflow).unsignedDifference =
      (a.toNat : Int) - b.toNat := by
  have carries : BitVec.ule b a = true ↔ b.toNat ≤ a.toNat := decide_eq_true_iff
  simp only [Outcome.unsignedDifference, Outcome.withFlags, carries, BitVec.toNat_sub]
  split <;> omega

/-- The absence of a borrow is the carry that leaves the sum of the first operand, the
complement of the second and one. -/
theorem ule_iff_carry (a b : Word) :
    BitVec.ule b a = true ↔ 2 ^ 64 ≤ a.toNat + (~~~b).toNat + 1 := by
  rw [BitVec.toNat_not, BitVec.ule, decide_eq_true_iff]
  omega

/-- The outcome of an addition determines the exact sums of both readings, and that of a
subtraction the exact differences, where the carry is the carry out of `a + ~~~b + 1`. -/
theorem sums_and_differences_are_exact (a b : Word) :
    (∃ sum, compute .add a b = .ok sum ∧ sum.ReadOff ∧
      a.toNat + b.toNat = sum.unsignedSum ∧ a.toInt + b.toInt = sum.signedExact) ∧
    (∃ difference, compute .sub a b = .ok difference ∧ difference.ReadOff ∧
      (a.toNat : Int) - b.toNat = difference.unsignedDifference ∧
      a.toInt - b.toInt = difference.signedExact ∧
      (difference.flags.carry = true ↔ 2 ^ 64 ≤ a.toNat + (~~~b).toNat + 1)) := by
  constructor
  · exact ⟨_, rfl, Outcome.readOff_withFlags .., (unsignedSum_add a b _).symm,
      (signedExact_add a b _).symm⟩
  · exact ⟨_, rfl, Outcome.readOff_withFlags .., (unsignedDifference_sub a b _).symm,
      (signedExact_sub a b _).symm, ule_iff_carry a b⟩

/-- One less than the least word wraps to the greatest word, and the exact value is found below
the signed range. -/
example : (compute .sub (BitVec.intMin 64) 1).map Outcome.signedExact = .ok (-2 ^ 63 - 1) := by
  decide

/-! ## Products -/

/-- The upper half of 128 bits, read as signed, and the lower half give the signed reading. -/
theorem toInt_halves (wide : BitVec 128) :
    (wide.extractLsb' 64 64).toInt * 2 ^ 64 + (wide.setWidth 64).toNat = wide.toInt := by
  have size := wide.isLt
  rw [BitVec.toInt_extractLsb', BitVec.toNat_setWidth, BitVec.toInt_eq_toNat_cond,
    Nat.shiftRight_eq_div_pow, Int.bmod_def]
  split <;> split <;> omega

/-- The upper half of 128 bits and the lower half give the unsigned reading. -/
theorem toNat_halves (wide : BitVec 128) :
    (wide.extractLsb' 64 64).toNat * 2 ^ 64 + (wide.setWidth 64).toNat = wide.toNat := by
  have size := wide.isLt
  rw [BitVec.extractLsb'_toNat, BitVec.toNat_setWidth, Nat.shiftRight_eq_div_pow]
  omega

/-- The signed reading of a word has a magnitude of 2^63 at most. -/
theorem natAbs_toInt_le (word : Word) : word.toInt.natAbs ≤ 2 ^ 63 := by
  obtain ⟨low, high⟩ := fitsWord_toInt word
  omega

/-- The signed product of two words has room in 128 bits. -/
theorem smulOverflow_widened (a b : Word) :
    BitVec.smulOverflow (a.signExtend 128) (b.signExtend 128) = false := by
  have product : (a.toInt * b.toInt).natAbs ≤ 2 ^ 63 * 2 ^ 63 := by
    rw [Int.natAbs_mul]
    exact Nat.mul_le_mul (natAbs_toInt_le a) (natAbs_toInt_le b)
  rw [BitVec.smulOverflow, BitVec.toInt_signExtend_of_le (by decide),
    BitVec.toInt_signExtend_of_le (by decide), Bool.or_eq_false_iff, decide_eq_false_iff_not,
    decide_eq_false_iff_not]
  omega

/-- The unsigned product of two words has room in 128 bits. -/
theorem umulOverflow_widened (a b : Word) :
    BitVec.umulOverflow (a.setWidth 128) (b.setWidth 128) = false := by
  have product : a.toNat * b.toNat < 2 ^ 64 * 2 ^ 64 := Nat.mul_lt_mul'' a.isLt b.isLt
  rw [BitVec.umulOverflow, BitVec.toNat_setWidth_of_le (by decide),
    BitVec.toNat_setWidth_of_le (by decide), decide_eq_false_iff_not]
  omega

/-- Truncation undoes an extension, also one that copied the sign. -/
theorem setWidth_signExtend (word : Word) : (word.signExtend 128).setWidth 64 = word := by
  rw [← BitVec.signExtend_eq_setWidth_of_le _ (by decide)]
  apply BitVec.eq_of_toInt_eq
  rw [BitVec.toInt_signExtend_eq_toInt_bmod_of_le _ (by decide),
    BitVec.toInt_signExtend_of_le (by decide), BitVec.toInt_bmod_cancel]

/-- The signed upper half above the truncated product is the exact signed product. -/
theorem signedProductHigh_above_mul (a b : Word) :
    (signedProductHigh a b).toInt * 2 ^ 64 + (a * b).toNat = a.toInt * b.toInt := by
  have exact : (a.signExtend 128 * b.signExtend 128).toInt = a.toInt * b.toInt := by
    rw [BitVec.toInt_mul_of_not_smulOverflow (by simp [smulOverflow_widened]),
      BitVec.toInt_signExtend_of_le (by decide), BitVec.toInt_signExtend_of_le (by decide)]
  have low : (a.signExtend 128 * b.signExtend 128).setWidth 64 = a * b := by
    rw [BitVec.setWidth_mul _ _ (by decide), setWidth_signExtend, setWidth_signExtend]
  rw [← exact, ← low]
  exact toInt_halves _

/-- The unsigned upper half above the truncated product is the exact unsigned product. -/
theorem unsignedProductHigh_above_mul (a b : Word) :
    (unsignedProductHigh a b).toNat * 2 ^ 64 + (a * b).toNat = a.toNat * b.toNat := by
  have exact : (a.setWidth 128 * b.setWidth 128).toNat = a.toNat * b.toNat := by
    rw [BitVec.toNat_mul_of_not_umulOverflow (by simp [umulOverflow_widened]),
      BitVec.toNat_setWidth_of_le (by decide), BitVec.toNat_setWidth_of_le (by decide)]
  have low : (a.setWidth 128 * b.setWidth 128).setWidth 64 = a * b := by
    rw [BitVec.setWidth_mul _ _ (by decide)]
    simp
  rw [← exact, ← low]
  exact toNat_halves _

/-- The two readings of a negative word are one word size apart. -/
theorem toNat_eq_toInt_add (word : Word) :
    (word.toNat : Int) = word.toInt + if word.toInt < 0 then 2 ^ 64 else 0 := by
  have reading := BitVec.toInt_eq_toNat_cond word
  split at reading <;> split <;> omega

/-- The products of the two readings differ by one word size for each negative operand, times the
other operand, and by multiples of two word sizes.

Proof: the multiple is one where both operands are negative, and zero otherwise. -/
theorem exists_toNat_mul_eq (a b : Word) :
    ∃ wraps : Int, (a.toNat : Int) * b.toNat =
      a.toInt * b.toInt +
        2 ^ 64 * ((if a.toInt < 0 then b.toInt else 0) + (if b.toInt < 0 then a.toInt else 0) +
          2 ^ 64 * wraps) := by
  refine ⟨if a.toInt < 0 ∧ b.toInt < 0 then 1 else 0, ?_⟩
  rw [toNat_eq_toInt_add a, toNat_eq_toInt_add b]
  by_cases left : a.toInt < 0 <;> by_cases right : b.toInt < 0 <;> simp [left, right] <;> ring

/-- Each negative operand adds the other one to the upper half when it is read as unsigned.

Proof: the lower half is the same in both products, so what their difference leaves is that of the
upper halves. -/
theorem unsignedProductHigh_eq (a b : Word) :
    unsignedProductHigh a b =
      signedProductHigh a b + (if a.toInt < 0 then b else 0) +
        (if b.toInt < 0 then a else 0) := by
  have signed := signedProductHigh_above_mul a b
  have unsigned : ((unsignedProductHigh a b).toNat : Int) * 2 ^ 64 + (a * b).toNat =
      a.toNat * b.toNat := by
    exact_mod_cast unsignedProductHigh_above_mul a b
  obtain ⟨wraps, expanded⟩ := exists_toNat_mul_eq a b
  have upper : ((unsignedProductHigh a b).toNat : Int) =
      (signedProductHigh a b).toInt + (if a.toInt < 0 then b.toInt else 0) +
        (if b.toInt < 0 then a.toInt else 0) + 2 ^ 64 * wraps := by
    omega
  apply BitVec.eq_of_toInt_eq
  rw [BitVec.toInt_eq_toNat_bmod, upper, BitVec.toInt_add, BitVec.toInt_add, Int.bmod_add_bmod,
    apply_ite BitVec.toInt, apply_ite BitVec.toInt]
  exact Int.add_mul_bmod_self_left ..

/-- The truncated product is the lower half of both exact products, whose upper halves are
the outcomes of the signed and of the unsigned high product. The products of 128 bits that
these take their halves of do not overflow. Each negative operand makes the upper halves
differ by the other operand. -/
theorem products_are_exact (a b : Word) :
    ∃ low signedHigh unsignedHigh,
      compute .mul a b = .ok low ∧ compute .smulh a b = .ok signedHigh ∧
      compute .umulh a b = .ok unsignedHigh ∧
      signedHigh.result.toInt * 2 ^ 64 + low.result.toNat = a.toInt * b.toInt ∧
      unsignedHigh.result.toNat * 2 ^ 64 + low.result.toNat = a.toNat * b.toNat ∧
      BitVec.smulOverflow (a.signExtend 128) (b.signExtend 128) = false ∧
      BitVec.umulOverflow (a.setWidth 128) (b.setWidth 128) = false ∧
      unsignedHigh.result =
        signedHigh.result + (if a.toInt < 0 then b else 0) + (if b.toInt < 0 then a else 0) :=
  ⟨_, _, _, rfl, rfl, rfl, signedProductHigh_above_mul a b, unsignedProductHigh_above_mul a b,
    smulOverflow_widened a b, umulOverflow_widened a b, unsignedProductHigh_eq a b⟩

end Datapath.Alu
