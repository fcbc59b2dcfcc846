import Datapath.Proofs.ExactArithmetic

/-!
# Each operation has at most one owner

Every part can be called with every operation. One that is not its own it declines: it answers
zero, whatever the operands are, and never fails. So an operation belongs to the part that does
not decline it, and no two parts share one.

The unit passes an operation to its owner and gives all clear for the two operations without
one. No owner's outcome is all clear, since a result of zero sets the zero flag. An operation
that the unit gave to nobody therefore shows in its flags, even where zero is the right result.
-/

namespace Datapath.Alu

/-! ## What a part declines -/

namespace Part

/-- The operations that a part carries out. -/
def operations : Part → List Operation
  | arithmetic => [.add, .sub, .mul, .smulh, .umulh, .sdiv, .udiv]
  | logic => [.and, .orr, .eor, .mov, .passA]
  | shifter => [.lsl, .lsr, .asr]

/-- Called directly, the part answers zero: the two that return a word give the word zero, and
the arithmetic unit succeeds with the outcome in which even the zero flag is clear. -/
def AnswersZero (operation : Operation) (a b : Word) : Part → Prop
  | arithmetic => Alu.arithmetic operation a b = .ok .allClear
  | logic => Alu.logic operation a b = 0
  | shifter => shift operation a b = 0

instance (operation : Operation) (a b : Word) (part : Part) :
    Decidable (part.AnswersZero operation a b) :=
  match part with
  | arithmetic => inferInstanceAs (Decidable (Alu.arithmetic operation a b = .ok .allClear))
  | logic => inferInstanceAs (Decidable (Alu.logic operation a b = 0))
  | shifter => inferInstanceAs (Decidable (shift operation a b = 0))

/-- The operation is none of the part's: it answers zero to all operands. -/
def Declines (part : Part) (operation : Operation) : Prop :=
  ∀ a b, part.AnswersZero operation a b

/-- The lists of the parts and the owners of the operations say the same. -/
theorem mem_operations_iff {part : Part} {operation : Operation} :
    operation ∈ part.operations ↔ operation.owner = some part := by
  cases part <;> cases operation <;> decide

/-- A part answers zero to all operands of an operation that is not on its list. -/
theorem declines_of_notMem {part : Part} {operation : Operation}
    (foreign : operation ∉ part.operations) : part.Declines operation := by
  intro a b
  cases part with
  | arithmetic =>
    cases operation with
    | add | sub | mul | smulh | umulh | sdiv | udiv => exact absurd (by decide) foreign
    | _ => rfl
  | logic =>
    cases operation with
    | and | orr | eor | mov | passA => exact absurd (by decide) foreign
    | _ => rfl
  | shifter =>
    cases operation with
    | lsl | lsr | asr => exact absurd (by decide) foreign
    | _ => rfl

/-- Minus one and two are operands with which no operation of a part gives zero. -/
theorem not_answersZero_of_mem {part : Part} :
    ∀ operation ∈ part.operations, ¬ part.AnswersZero operation (-1) 2 := by
  cases part <;> decide

/-- A part declines exactly what it does not carry out. -/
theorem declines_iff {part : Part} {operation : Operation} :
    part.Declines operation ↔ operation ∉ part.operations := by
  constructor
  · intro declined owned
    exact not_answersZero_of_mem operation owned (declined (-1) 2)
  · exact declines_of_notMem

end Part

/-! ## How an outcome comes about -/

namespace Operation

/-- Idling and what was not understood are nobody's work. -/
theorem owner_eq_none_iff {operation : Operation} :
    operation.owner = none ↔ operation = idle ∨ operation = unknown := by
  cases operation <;> decide

/-- Operations whose results come with carry and overflow belong to the arithmetic part. -/
theorem owner_of_isArithmetic {operation : Operation}
    (additive : operation.isArithmetic = true) : operation.owner = some .arithmetic := by
  cases operation with
  | add | sub => rfl
  | _ => cases additive

end Operation

/-- The outcomes of an operation: a sum or a difference with carry and overflow, another result
with its own flags only, or nothing at all if the operation has no owner. -/
inductive Outcome.Arises (operation : Operation) : Outcome → Prop where
  | additive (carries : operation.isArithmetic = true) (result : Word) (carry overflow : Bool) :
      Arises operation (withFlags result carry overflow)
  | plain (owned : operation.owner ≠ none) (result : Word) : Arises operation (ofResult result)
  | unowned (absent : operation.owner = none) : Arises operation allClear

/-- Every outcome that the unit computes comes about in one of the three ways, and only sums and
differences have carry and overflow. -/
theorem arises_of_compute {operation : Operation} {a b : Word} {outcome : Outcome}
    (computed : compute operation a b = .ok outcome) : outcome.Arises operation := by
  cases operation with
  | add | sub =>
    cases computed
    exact .additive rfl _ _ _
  | sdiv | udiv =>
    simp only [compute, Operation.owner, arithmetic] at computed
    split at computed
    · cases computed
    · cases computed
      exact .plain (by decide) _
  | idle | unknown =>
    cases computed
    exact .unowned rfl
  | _ =>
    cases computed
    exact .plain (by decide) _

/-- The result of the all-clear outcome is zero, but its zero flag does not say so. -/
theorem Outcome.not_readOff_allClear : ¬ allClear.ReadOff :=
  fun readOff => absurd (readOff.zero.2 rfl) Bool.false_ne_true

/-- Negative and zero are read off the result exactly if some part computed it. -/
theorem readOff_iff_of_compute {operation : Operation} {a b : Word} {outcome : Outcome}
    (computed : compute operation a b = .ok outcome) :
    outcome.ReadOff ↔ operation.owner ≠ none := by
  cases arises_of_compute computed with
  | additive carries result carry overflow =>
    refine iff_of_true (Outcome.readOff_withFlags ..) ?_
    rw [Operation.owner_of_isArithmetic carries]
    exact Option.some_ne_none _
  | plain owned result => exact iff_of_true (Outcome.readOff_withFlags ..) owned
  | unowned absent => exact iff_of_false Outcome.not_readOff_allClear (not_not_intro absent)

/-- All clear is the outcome of the operations without an owner, and of no other one. -/
theorem compute_eq_allClear_iff {operation : Operation} {a b : Word} :
    compute operation a b = .ok .allClear ↔ operation.owner = none := by
  constructor
  · intro computed
    by_contra owned
    exact Outcome.not_readOff_allClear ((readOff_iff_of_compute computed).2 owned)
  · intro unowned
    rw [compute, unowned]

/-- Addition and subtraction are the operations that carry or overflow for some operands.

Proof: as an unsigned number minus one is the greatest, so two carries out of the sum with it and is
not borrowed for in the difference. -/
theorem isArithmetic_iff {operation : Operation} :
    operation.isArithmetic = true ↔
      ∃ a b outcome, compute operation a b = .ok outcome ∧
        (outcome.flags.carry = true ∨ outcome.flags.overflow = true) := by
  constructor
  · intro additive
    cases operation with
    | add | sub => exact ⟨-1, 2, _, rfl, .inl (by decide)⟩
    | _ => cases additive
  · rintro ⟨a, b, outcome, computed, set⟩
    cases arises_of_compute computed with
    | additive carries result carry overflow => exact carries
    | plain owned result => simp [Outcome.ofResult, Outcome.withFlags] at set
    | unowned absent => simp [Outcome.allClear] at set

/-! ## Dispatch -/

/-- The unit gives an operation to the part that carries it out, whose answer is the outcome, or
a result that neither carries nor overflows if it is a word. The outcome is all clear just for
the two operations that no part carries out. A part that is called directly declines exactly
what it does not carry out, and of two parts one declines. Negative and zero are the sign and
the zero test of the result, save for those two operations, and the operations that ever carry
or overflow are the arithmetic ones. -/
theorem parts_divide_operations (operation : Operation) (a b : Word) :
    (compute operation a b =
      if operation ∈ Part.arithmetic.operations then arithmetic operation a b
      else if operation ∈ Part.logic.operations then .ok (.ofResult (logic operation a b))
      else if operation ∈ Part.shifter.operations then .ok (.ofResult (shift operation a b))
      else .ok .allClear) ∧
    (compute operation a b = .ok .allClear ↔ operation = .idle ∨ operation = .unknown) ∧
    (∀ part : Part, part.Declines operation ↔ operation ∉ part.operations) ∧
    (∀ part other : Part, part ≠ other → part.Declines operation ∨ other.Declines operation) ∧
    (∀ outcome, compute operation a b = .ok outcome →
      (outcome.ReadOff ↔ operation ≠ .idle ∧ operation ≠ .unknown)) ∧
    (operation.isArithmetic = true ↔
      ∃ a b outcome, compute operation a b = .ok outcome ∧
        (outcome.flags.carry = true ∨ outcome.flags.overflow = true)) := by
  refine ⟨?dispatch, ?clear, fun part => Part.declines_iff, ?apart, ?readOff, isArithmetic_iff⟩
  case dispatch =>
    simp only [Part.mem_operations_iff]
    unfold compute
    cases operation.owner with
    | none => rfl
    | some part => cases part <;> rfl
  case clear => rw [compute_eq_allClear_iff, Operation.owner_eq_none_iff]
  case apart =>
    intro part other different
    rw [Part.declines_iff, Part.declines_iff, Part.mem_operations_iff, Part.mem_operations_iff]
    by_contra shared
    obtain ⟨first, second⟩ := not_or.1 shared
    exact different (Option.some.inj ((not_not.1 first).symm.trans (not_not.1 second)))
  case readOff =>
    intro outcome computed
    rw [readOff_iff_of_compute computed, ne_eq, Operation.owner_eq_none_iff, not_or]

/-- Five less five is zero, which sets the zero flag and borrows nothing. The logic unit gives
zero for every difference. -/
theorem vanishing_difference_is_not_declined :
    Part.arithmetic ≠ Part.logic ∧ Part.logic.Declines .sub ∧
    ∃ outcome, compute .sub 5 5 = .ok outcome ∧ outcome.ReadOff ∧ outcome.result = 0 ∧
      outcome.flags.carry = true ∧ outcome ≠ .allClear := by
  have different : Part.arithmetic ≠ Part.logic := by decide
  obtain ⟨_, clear, declines, apart, readOff, _⟩ := parts_divide_operations .sub 5 5
  refine ⟨different, ?_, .withFlags 0 true false, by decide, ?_, rfl, rfl, by decide⟩
  · refine (apart .arithmetic .logic different).resolve_left ?_
    rw [declines]
    decide
  · exact (readOff _ (by decide)).2 ⟨by decide, by decide⟩

end Datapath.Alu
