import Datapath.Proofs.Division

/-!
# The shifter agrees with the arithmetic unit

A shift by `b` moves its operand by the residue of `b` modulo 64, also for a negative `b`.
One, shifted to the left by `b`, is the power of two that belongs to this amount: shifting
to the left multiplies by the power, shifting to the right divides by it.

A logical shift to the right is the unsigned quotient. An arithmetic one rounds down where
a signed division rounds toward zero, so the two differ by one for a negative operand that
is no multiple of the power. The greatest amount shifts one into the sign. Read as unsigned
this still is the power of two; as a signed divisor it is the least word.
-/

namespace Datapath.Alu

/-! ## Amounts and powers -/

/-- The low six bits of a word are its residue modulo 64. -/
theorem shiftAmount_eq_mod (b : Word) : shiftAmount b = b.toNat % 64 :=
  Nat.and_two_pow_sub_one_eq_mod b.toNat 6

/-- The low six bits of a word are also the residue of its signed reading modulo 64. -/
theorem shiftAmount_eq (b : Word) : (b.toInt % 64).toNat = shiftAmount b := by
  have low := shiftAmount_eq_mod b
  have reading := toNat_eq_toInt_add b
  split at reading <;> omega

/-- No shift goes by the size of a word or more. -/
theorem shiftAmount_lt (b : Word) : shiftAmount b < 64 := by
  rw [shiftAmount_eq_mod]
  exact Nat.mod_lt _ (by decide)

/-- The word of a number below the word size shifts by this number. -/
theorem shiftAmount_ofNat {places : Nat} (small : places < 64) :
    shiftAmount (BitVec.ofNat 64 places) = places := by
  rw [shiftAmount_eq_mod, BitVec.toNat_ofNat]
  omega

/-- One shifted to the left is a power of two. -/
theorem shift_lsl_one (b : Word) : shift .lsl 1 b = BitVec.twoPow 64 (shiftAmount b) :=
  (BitVec.twoPow_eq 64 (shiftAmount b)).symm

/-- The unsigned reading of one shifted to the left is the power of two. -/
theorem toNat_shift_lsl_one (b : Word) : (shift .lsl 1 b).toNat = 2 ^ shiftAmount b := by
  rw [shift_lsl_one, BitVec.toNat_twoPow]
  exact Nat.mod_eq_of_lt (Nat.pow_lt_pow_right (by decide) (shiftAmount_lt b))

/-- One is never shifted out of the word to the left, so a quotient by it is defined. -/
theorem shift_lsl_one_ne_zero (b : Word) : shift .lsl 1 b ≠ 0 := by
  intro zero
  have positive : 0 < 2 ^ shiftAmount b := Nat.two_pow_pos _
  rw [← toNat_shift_lsl_one, zero] at positive
  exact absurd positive (by decide)

/-- Below the sign bit, the signed reading of one shifted to the left is the power of two as well.
-/
theorem toInt_shift_lsl_one {b : Word} (small : shiftAmount b ≤ 62) :
    (shift .lsl 1 b).toInt = 2 ^ shiftAmount b := by
  rw [shift_lsl_one, BitVec.toInt_twoPow, if_neg (by omega), if_neg (by omega)]

/-! ## Shifts as products and quotients -/

/-- Shifting to the left multiplies by the power of two. -/
theorem shift_lsl_eq (a b : Word) : shift .lsl a b = a * shift .lsl 1 b := by
  rw [shift_lsl_one, BitVec.mul_twoPow_eq_shiftLeft]
  rfl

/-- Shifting to the left gives the residue of the exact product. -/
theorem toNat_shift_lsl (a b : Word) :
    ((shift .lsl a b).toNat : Int) = a.toInt * 2 ^ shiftAmount b % 2 ^ 64 := by
  have wrapped : shift .lsl a b = BitVec.ofInt 64 (a.toInt * 2 ^ shiftAmount b) := by
    have power : (2 : Int) ^ shiftAmount b = (shift .lsl 1 b).toNat := by
      rw [toNat_shift_lsl_one]
      norm_cast
    rw [shift_lsl_eq, power, BitVec.ofInt_mul, BitVec.ofInt_toInt, BitVec.ofInt_natCast,
      BitVec.ofNat_toNat, BitVec.setWidth_eq]
  rw [wrapped, BitVec.toNat_ofInt]
  exact Int.toNat_of_nonneg (Int.emod_nonneg _ (by decide))

/-- Read as signed, shifting to the left wraps the exact product. -/
theorem toInt_shift_lsl (a b : Word) :
    (shift .lsl a b).toInt = (a.toInt * 2 ^ shiftAmount b).bmod (2 ^ 64) := by
  rw [BitVec.toInt_eq_toNat_bmod, toNat_shift_lsl]
  exact Int.emod_bmod _ _

/-- Shifting to the right divides by the power of two, both read as unsigned. -/
theorem shift_lsr_eq (a b : Word) : shift .lsr a b = a / shift .lsl 1 b := by
  rw [shift_lsl_one, BitVec.udiv_twoPow_eq_of_lt (shiftAmount_lt b)]
  rfl

/-- Shifting to the right with the sign rounds the signed quotient down. -/
theorem toInt_shift_asr (a b : Word) :
    (shift .asr a b).toInt = a.toInt.fdiv (2 ^ shiftAmount b) := by
  have nonnegative : (0 : Int) ≤ (2 ^ shiftAmount b : Nat) := Int.natCast_nonneg _
  have shifted : (shift .asr a b).toInt = a.toInt / (2 ^ shiftAmount b : Nat) := by
    rw [← Int.shiftRight_eq_div_pow]
    exact BitVec.toInt_sshiftRight
  rw [shifted, ← Int.fdiv_eq_ediv_of_nonneg _ nonnegative]
  norm_cast

/-- Rounding down is rounding toward zero, less one where a negative value is not divided. -/
theorem fdiv_eq_tdiv_sub (value : Int) {power : Int} (positive : 0 < power) :
    value.fdiv power =
      value.tdiv power - if value < 0 ∧ ¬ power ∣ value then 1 else 0 := by
  have opposite : value < 0 ∧ ¬ power ∣ value ↔ ¬ (0 ≤ value ∨ power ∣ value) := by
    rw [not_or, Int.not_le]
  rw [Int.fdiv_eq_ediv_of_nonneg _ (Int.le_of_lt positive), Int.tdiv_eq_ediv,
    Int.sign_eq_one_of_pos positive]
  simp only [opposite, ite_not]
  split <;> omega

/-- Below the sign bit, shifting to the right with the sign is the signed quotient, less one
for a negative operand that the power does not divide. -/
theorem toInt_shift_asr_eq_sub {b : Word} (small : shiftAmount b ≤ 62) (a : Word) :
    (shift .asr a b).toInt = (a.sdiv (shift .lsl 1 b)).toInt -
      if a.toInt < 0 ∧ ¬ (2 ^ shiftAmount b : Int) ∣ a.toInt then 1 else 0 := by
  have positive : (0 : Int) < 2 ^ shiftAmount b := Int.pow_pos (by decide)
  have inRange : shift .lsl 1 b ≠ -1 := by
    intro minus
    rw [← toInt_shift_lsl_one small, minus] at positive
    exact absurd positive (by decide)
  rw [toInt_shift_asr, fdiv_eq_tdiv_sub _ positive,
    BitVec.toInt_sdiv_of_ne_or_ne _ _ (.inr inRange), toInt_shift_lsl_one small]

/-- Let `places` be the residue of `b` modulo 64, which is not negative, and `power` be one
shifted to the left by `b`. Shifting `a` by `b` to the left is its product with the power,
and the residue of `a * 2 ^ places`. Shifting it to the right is its unsigned quotient by
the power, rounded down. Shifting it to the right with the sign rounds the exact signed
quotient down; for at most 62 places this is the signed quotient by the power, less one for
a negative `a` that is not divided. -/
theorem shifts_agree_with_arithmetic (a b : Word) :
    let places := (b.toInt % 64).toNat
    ∃ power left right signedRight,
      compute .lsl 1 b = .ok power ∧ power.result.toNat = 2 ^ places ∧
      compute .lsl a b = .ok left ∧ compute .mul a power.result = .ok left ∧
      (left.result.toNat : Int) = a.toInt * 2 ^ places % 2 ^ 64 ∧
      compute .lsr a b = .ok right ∧ compute .udiv a power.result = .ok right ∧
      right.result.toNat = a.toNat / 2 ^ places ∧
      compute .asr a b = .ok signedRight ∧
      signedRight.result.toInt = a.toInt.fdiv (2 ^ places) ∧
      (places ≤ 62 → ∃ quotient, compute .sdiv a power.result = .ok quotient ∧
        if a.toInt < 0 ∧ ¬ (2 ^ places : Int) ∣ a.toInt then
          signedRight.result.toInt = quotient.result.toInt - 1
        else signedRight = quotient) := by
  intro places
  have amount : places = shiftAmount b := shiftAmount_eq b
  rw [amount]
  have nonzero := shift_lsl_one_ne_zero b
  refine ⟨.ofResult (shift .lsl 1 b), .ofResult (shift .lsl a b), .ofResult (shift .lsr a b),
    .ofResult (shift .asr a b), rfl, toNat_shift_lsl_one b, rfl, ?product,
    toNat_shift_lsl a b, rfl, ?quotient, ?floor, rfl, toInt_shift_asr a b, ?signed⟩
  case product =>
    rw [shift_lsl_eq a b]
    rfl
  case quotient =>
    rw [shift_lsr_eq]
    exact compute_udiv nonzero a
  case floor =>
    change (shift .lsr a b).toNat = _
    rw [shift_lsr_eq, BitVec.toNat_udiv, toNat_shift_lsl_one]
  case signed =>
    intro small
    refine ⟨_, compute_sdiv nonzero a, ?_⟩
    have difference := toInt_shift_asr_eq_sub small a
    split
    case isTrue inexact =>
      rw [if_pos inexact] at difference
      exact difference
    case isFalse exact =>
      rw [if_neg exact, Int.sub_zero] at difference
      rw [BitVec.eq_of_toInt_eq difference]

/-- Shifting minus seven by minus 63 moves it one place. The quotient by two rounds to minus
three, and the shift to minus four. -/
theorem odd_negative_shift_rounds_down :
    ((-63 : Word).toInt % 64).toNat ≤ 62 ∧
    ∃ power signedRight quotient,
      compute .lsl 1 (-63) = .ok power ∧ power.result.toNat = 2 ∧
      compute .asr (-7) (-63) = .ok signedRight ∧
      compute .sdiv (-7) power.result = .ok quotient ∧ quotient.result.toInt = -3 ∧
      signedRight.result.toInt = quotient.result.toInt - 1 := by
  have onePlace : ((-63 : Word).toInt % 64).toNat ≤ 62 := by decide
  obtain ⟨power, _, _, signedRight, powered, two, _, _, _, _, _, _, shifted, _, signed⟩ :=
    shifts_agree_with_arithmetic (-7) (-63)
  obtain ⟨quotient, divided, difference⟩ := signed onePlace
  rw [if_pos (by decide)] at difference
  refine ⟨onePlace, power, signedRight, quotient, powered, two, shifted, divided, ?_, difference⟩
  cases powered
  cases divided
  decide

end Datapath.Alu
