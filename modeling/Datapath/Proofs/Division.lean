import Datapath.Proofs.ExactArithmetic

/-!
# Division and its remainder

The unit divides but computes no remainder. A program takes it from the quotient by a
product and a difference, which work modulo 2 ^ 64. The wraps cancel: what is left of the
dividend is the remainder that belongs to the division, signed or unsigned. One signed
quotient is out of range, that of the least word by minus one. It wraps to the least word,
and even then nothing is left.

Division by zero is the only fault of the unit.
-/

namespace Datapath.Alu

/-! ## Faults -/

/-- The two divisions fail, for the divisor zero only, and name both operands. No other
operation ever fails. -/
theorem compute_eq_error_iff {operation : Operation} {a b : Word} {fault : Fault} :
    compute operation a b = .error fault ↔
      (operation = .sdiv ∨ operation = .udiv) ∧ b = 0 ∧ fault = .divisionByZero a 0 := by
  cases operation with
  | sdiv | udiv =>
    simp only [compute, Operation.owner, arithmetic]
    by_cases none : b = 0
    · rw [if_pos none, none]
      simp [eq_comm]
    · rw [if_neg none]
      exact iff_of_false (by simp) fun failed => none failed.2.1
  | _ => simp [compute, Operation.owner, arithmetic]

/-- A signed division by anything but zero results in the signed quotient. -/
theorem compute_sdiv {b : Word} (nonzero : b ≠ 0) (a : Word) :
    compute .sdiv a b = .ok (.ofResult (a.sdiv b)) :=
  if_neg nonzero

/-- An unsigned division by anything but zero results in the unsigned quotient. -/
theorem compute_udiv {b : Word} (nonzero : b ≠ 0) (a : Word) :
    compute .udiv a b = .ok (.ofResult (a / b)) :=
  if_neg nonzero

/-! ## Remainders -/

/-- What a signed quotient leaves of the dividend is the signed remainder. Both sides are
taken modulo 2 ^ 64, so it does not matter that one quotient is out of range. -/
theorem sub_sdiv_mul (a b : Word) : a - a.sdiv b * b = a.srem b := by
  apply BitVec.eq_of_toInt_eq
  calc (a - a.sdiv b * b).toInt
      = (a.toInt - a.toInt.tdiv b.toInt * b.toInt).bmod (2 ^ 64) := by
        rw [BitVec.toInt_sub, BitVec.toInt_mul, BitVec.toInt_sdiv, Int.bmod_mul_bmod,
          Int.sub_bmod_bmod]
    _ = (a.toInt.tmod b.toInt).bmod (2 ^ 64) := by rw [Int.tmod_def, Int.mul_comm]
    _ = (a.srem b).toInt := by rw [← BitVec.toInt_srem, BitVec.toInt_bmod_cancel]

/-- What an unsigned quotient leaves of the dividend is the unsigned remainder. -/
theorem sub_udiv_mul (a b : Word) : a - a / b * b = a % b := by
  have below : a.toNat / b.toNat * b.toNat ≤ a.toNat := Nat.div_mul_le_self ..
  have product : (a / b * b).toNat = a.toNat / b.toNat * b.toNat := by
    rw [BitVec.toNat_mul, BitVec.toNat_udiv]
    exact Nat.mod_eq_of_lt (Nat.lt_of_le_of_lt below a.isLt)
  have fits : a / b * b ≤ a := by
    rw [BitVec.le_def, product]
    exact below
  apply BitVec.eq_of_toNat_eq
  rw [BitVec.toNat_sub_of_le fits, product, BitVec.toNat_umod]
  exact Nat.mod_eq_sub_div_mul.symm

/-- A division followed by the product of quotient and divisor and by the difference that
this leaves of the dividend: the quotient and the rest. -/
def divide (division : Operation) (a b : Word) : Except Fault (Word × Word) := do
  let quotient ← compute division a b
  let product ← compute .mul quotient.result b
  let rest ← compute .sub a product.result
  return (quotient.result, rest.result)

/-- A signed division by anything but zero gives the signed quotient and leaves the signed
remainder. -/
theorem divide_sdiv {b : Word} (nonzero : b ≠ 0) (a : Word) :
    divide .sdiv a b = .ok (a.sdiv b, a.srem b) := by
  rw [← sub_sdiv_mul, divide, compute_sdiv nonzero]
  rfl

/-- An unsigned division by anything but zero gives the unsigned quotient and leaves the unsigned
remainder. -/
theorem divide_udiv {b : Word} (nonzero : b ≠ 0) (a : Word) :
    divide .udiv a b = .ok (a / b, a % b) := by
  rw [← sub_udiv_mul, divide, compute_udiv nonzero]
  rfl

/-! ## Quotients -/

/-- Division that rounds toward zero: the remainder is smaller than the divisor, and zero or
of the sign of the dividend. -/
structure RoundsTowardZero (dividend divisor quotient remainder : Int) : Prop where
  exact : dividend = quotient * divisor + remainder
  small : remainder.natAbs < divisor.natAbs
  sign : remainder = 0 ∨ remainder.sign = dividend.sign

/-- The truncated quotient and its remainder are those of a division that rounds toward zero. -/
theorem roundsTowardZero_tdiv {dividend divisor : Int} (nonzero : divisor ≠ 0) :
    RoundsTowardZero dividend divisor (dividend.tdiv divisor) (dividend.tmod divisor) where
  exact := by
    rw [Int.mul_comm]
    exact (Int.mul_tdiv_add_tmod dividend divisor).symm
  small := by
    rw [Int.natAbs_tmod]
    exact Nat.mod_lt _ (Int.natAbs_pos.2 nonzero)
  sign := by
    rw [← Int.sign_eq_zero_iff_zero, Int.sign_tmod]
    split
    case isTrue divides => exact .inl rfl
    case isFalse rest => exact .inr rfl

/-- For a divisor other than zero, a signed division and its remainder, taken by a product
and a difference, round toward zero, except for the least word by minus one, whose quotient
is the least word and whose remainder is zero. The unsigned division leaves the rest that is
below its divisor. An operation fails exactly if it is one of these divisions and the divisor
is zero, and then with the fault that names the dividend and zero. -/
theorem divisions_leave_remainders (a b : Word) :
    (b ≠ 0 → ∃ quotient remainder, divide .sdiv a b = .ok (quotient, remainder) ∧
      if a = BitVec.intMin 64 ∧ b = -1 then quotient = BitVec.intMin 64 ∧ remainder = 0
      else RoundsTowardZero a.toInt b.toInt quotient.toInt remainder.toInt) ∧
    (b ≠ 0 → ∃ quotient remainder, divide .udiv a b = .ok (quotient, remainder) ∧
      a.toNat = quotient.toNat * b.toNat + remainder.toNat ∧ remainder.toNat < b.toNat) ∧
    ∀ (operation : Operation) (fault : Fault), compute operation a b = .error fault ↔
      (operation = .sdiv ∨ operation = .udiv) ∧ b = 0 ∧ fault = .divisionByZero a 0 := by
  refine ⟨?signed, ?unsigned, fun operation fault => compute_eq_error_iff⟩
  case signed =>
    intro nonzero
    refine ⟨_, _, divide_sdiv nonzero a, ?_⟩
    split
    case isTrue extreme =>
      obtain ⟨rfl, rfl⟩ := extreme
      exact ⟨BitVec.intMin_sdiv_neg_one, by decide⟩
    case isFalse ordinary =>
      have inRange : a ≠ BitVec.intMin 64 ∨ b ≠ -1 := by
        rw [← Decidable.not_and_iff_not_or_not]
        exact ordinary
      rw [BitVec.toInt_sdiv_of_ne_or_ne a b inRange, BitVec.toInt_srem]
      exact roundsTowardZero_tdiv fun zero => nonzero (BitVec.eq_of_toInt_eq zero)
  case unsigned =>
    intro nonzero
    have positive : 0 < b.toNat :=
      Nat.pos_of_ne_zero fun zero => nonzero (BitVec.eq_of_toNat_eq zero)
    refine ⟨_, _, divide_udiv nonzero a, ?_, ?_⟩
    · rw [BitVec.toNat_udiv, BitVec.toNat_umod]
      exact (Nat.div_add_mod' ..).symm
    · rw [BitVec.toNat_umod]
      exact Nat.mod_lt _ positive

/-- Minus seven by two is minus three, which leaves minus one, and as an unsigned dividend it
leaves one. -/
theorem minus_seven_by_two_leaves_minus_one :
    (∃ quotient remainder, divide .sdiv (-7) 2 = .ok (quotient, remainder) ∧
      (-7 : Word).toInt = quotient.toInt * (2 : Word).toInt + remainder.toInt ∧
      quotient.toInt = -3 ∧ remainder.toInt = -1) ∧
    ∃ quotient remainder, divide .udiv (-7) 2 = .ok (quotient, remainder) ∧
      (-7 : Word).toNat = quotient.toNat * (2 : Word).toNat + remainder.toNat ∧
      quotient.toNat = 2 ^ 63 - 4 ∧ remainder.toNat = 1 := by
  obtain ⟨signed, unsigned, _⟩ := divisions_leave_remainders (-7) 2
  obtain ⟨quotient, remainder, divided, toward⟩ := signed (by decide)
  obtain ⟨unsignedQuotient, unsignedRemainder, unsignedDivided, exact, _⟩ := unsigned (by decide)
  rw [if_neg (by decide)] at toward
  refine ⟨⟨quotient, remainder, divided, toward.exact, ?_⟩,
    ⟨unsignedQuotient, unsignedRemainder, unsignedDivided, exact, ?_⟩⟩
  · cases divided
    decide
  · cases unsignedDivided
    decide

end Datapath.Alu
