import Datapath.Fault
import Datapath.Proofs.Delimiting

/-!
# Messages identify faults

The message of a fault begins with words that no other kind of fault begins with, and every
value in it ends before a character that cannot belong to it. So the fault is found again in its
message, with all values and all contexts around it, however many there are. What stands behind
the contexts is the message of the cause below them.
-/

namespace Datapath.Fault

open Text

/-! ## Kinds and what they say -/

/-- The kinds of faults. -/
inductive Kind where
  | invalidRegister
  | negativeAddress
  | invalidBitWidth
  | divisionByZero
  | invalidProgramCounter
  | simulation
deriving DecidableEq

/-- What messages of a kind begin with, up to the first value. -/
def Kind.heading : Kind → String
  | invalidRegister => "invalid register index "
  | negativeAddress => "negative memory address "
  | invalidBitWidth => "invalid bit width "
  | divisionByZero => "division by zero ("
  | invalidProgramCounter => "invalid program counter "
  | simulation => "simulation failure at pc "

/-- What kind a fault is of. -/
def kind : Fault → Kind
  | invalidRegister _ _ => .invalidRegister
  | negativeAddress _ => .negativeAddress
  | invalidBitWidth _ _ => .invalidBitWidth
  | divisionByZero _ _ => .divisionByZero
  | invalidProgramCounter _ => .invalidProgramCounter
  | simulation _ _ _ => .simulation

/-- The rest of a message, from the first value on. -/
def details : Fault → List Char
  | invalidRegister index access =>
    (toString index).toList ++ " on ".toList ++ access.text.toList
  | negativeAddress address => (toString address.toInt).toList
  | invalidBitWidth width widest =>
    (toString width).toList ++ " (expected 1..=".toList ++
      ((toString widest).toList ++ ")".toList)
  | divisionByZero dividend divisor =>
    (toString dividend.toInt).toList ++ " / ".toList ++
      ((toString divisor.toInt).toList ++ ")".toList)
  | invalidProgramCounter address => (Hex.short address).toList
  | simulation pc cycle source =>
    (Hex.long pc).toList ++ (", cycle ".toList ++
      ((toString cycle).toList ++ ": ".toList ++ source.message.toList))

/-- A heading shows the kind and where the values begin. -/
theorem delimited_heading : Delimited fun kind : Kind => kind.heading.toList := by
  refine .of_prefixFree fun left right => ?_
  cases left <;> cases right <;> decide

/-- A message is the heading of the fault's kind and then the details.

Proof: the messages are unfolded and not simplified, as their equations would evaluate the texts. -/
theorem toList_message (fault : Fault) :
    fault.message.toList = fault.kind.heading.toList ++ fault.details := by
  cases fault <;> unfold message <;>
    simp only [kind, Kind.heading, details, String.toList_append, List.append_assoc]

/-- Equal messages are of the same kind and say the same of it. -/
theorem kind_and_details_of_message {left right : Fault} (same : left.message = right.message) :
    left.kind = right.kind ∧ left.details = right.details := by
  have whole := congrArg String.toList same
  rw [toList_message, toList_message] at whole
  exact delimited_heading _ _ _ _ whole

/-! ## What the values say -/

/-- The two accesses to a register are told apart by their texts. -/
theorem text_access_inj {left right : Access} (same : left.text.toList = right.text.toList) :
    left = right := by
  revert same
  cases left <;> cases right <;> decide

/-- The signed reading of a word shows the word. -/
theorem word_of_signed {left right : Word}
    (same : (toString left.toInt).toList = (toString right.toInt).toList) : left = right :=
  BitVec.toInt_inj.1 (integer_inj same)

/-- A fault is found in what is said of its kind.

Proof: by induction over the fault, since of the contexts around it the first is found before the
message of the rest. A number ends at the blank or the colon after it, as this is neither digit nor
sign. -/
theorem eq_of_details {left right : Fault} (kinds : left.kind = right.kind)
    (details : left.details = right.details) : left = right := by
  induction left generalizing right with
  | invalidRegister index access =>
    cases right with
    | invalidRegister other otherAccess =>
      obtain ⟨rfl, rest⟩ :=
        delimited_integer ' ' (by decide) (by decide) (by decide) _ _ _ _ details
      rw [text_access_inj rest]
    | _ => cases kinds
  | negativeAddress address =>
    cases right with
    | negativeAddress other => rw [word_of_signed details]
    | _ => cases kinds
  | invalidBitWidth width widest =>
    cases right with
    | invalidBitWidth other otherWidest =>
      obtain ⟨rfl, rest⟩ := delimited_natural ' ' (by decide) (by decide) _ _ _ _ details
      rw [natural_inj (List.append_cancel_right rest)]
    | _ => cases kinds
  | divisionByZero dividend divisor =>
    cases right with
    | divisionByZero other otherDivisor =>
      obtain ⟨first, rest⟩ :=
        delimited_integer ' ' (by decide) (by decide) (by decide) _ _ _ _ details
      rw [BitVec.toInt_inj.1 first, word_of_signed (List.append_cancel_right rest)]
    | _ => cases kinds
  | invalidProgramCounter address =>
    cases right with
    | invalidProgramCounter other => rw [Hex.short_inj (String.toList_inj.1 details)]
    | _ => cases kinds
  | simulation pc cycle source inductionHypothesis =>
    cases right with
    | simulation otherPc otherCycle otherSource =>
      obtain ⟨rfl, rest⟩ := Hex.delimited_long _ _ _ _ details
      obtain ⟨rfl, behind⟩ :=
        delimited_natural ':' (by decide) (by decide) _ _ _ _ (List.append_cancel_left rest)
      obtain ⟨sameKind, sameDetails⟩ := kind_and_details_of_message (String.toList_inj.1 behind)
      rw [inductionHypothesis sameKind sameDetails]
    | _ => cases kinds

/-- The message of the root stands at the end, behind one context after the other. -/
theorem exists_contexts_append (fault : Fault) :
    ∃ contexts, fault.message = contexts ++ fault.root.message := by
  induction fault with
  | simulation pc cycle source inductionHypothesis =>
    obtain ⟨contexts, below⟩ := inductionHypothesis
    have outer : (simulation pc cycle source).message =
        "simulation failure at pc " ++ Hex.long pc ++ ", cycle " ++ toString cycle ++ ": "
          ++ source.message := rfl
    rw [outer, below, ← String.append_assoc]
    exact ⟨_, rfl⟩
  | _ => exact ⟨"", (String.empty_append).symm⟩

/-- The message of a fault identifies it: equal messages are of equal faults, with the same
values, contexts and cause. The message of a fault with contexts ends with that of its root. -/
theorem messages_identify_faults :
    (∀ left right : Fault, left.message = right.message ↔ left = right) ∧
    ∀ fault : Fault, ∃ contexts, fault.message = contexts ++ fault.root.message := by
  refine ⟨fun left right => ⟨fun same => ?_, congrArg message⟩, exists_contexts_append⟩
  obtain ⟨kinds, details⟩ := kind_and_details_of_message same
  exact eq_of_details kinds details

/-- A division by zero below two contexts, the outer one of which is at the last address. -/
example : (simulation (-1) 7 (simulation 64 0 (divisionByZero (-10) 0))).message =
    "simulation failure at pc 0xffffffffffffffff, cycle 7: " ++
      "simulation failure at pc 0x0000000000000040, cycle 0: division by zero (-10 / 0)" := by
  decide +kernel

end Datapath.Fault
