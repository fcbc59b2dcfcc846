import Datapath.Proofs.TextReading
import Std.Data.String.ToInt

/-!
# Where a written thing ends

A text made of several things can be taken apart if each of them shows where it ends, whatever
stands behind it. Words of fixed width do, and so does a decimal number in front of a character
that is no part of one. Then a text has only one way to be divided, and things that are
different make different texts.
-/

namespace Datapath.Text

/-- To look for a character goes past what does not have it. -/
theorem takeWhile_append_of_absent {stop : Char} {front : List Char} (absent : stop ∉ front)
    (rest : List Char) :
    (front ++ rest).takeWhile (· ≠ stop) = front ++ rest.takeWhile (· ≠ stop) := by
  refine List.takeWhile_append_of_pos fun character member => ?_
  exact decide_eq_true fun same => absent (same ▸ member)

/-- Whatever follows it, what is written shows what it stands for and where it ends. -/
def Delimited {α : Type} (write : α → List Char) : Prop :=
  ∀ left right rest other, write left ++ rest = write right ++ other → left = right ∧ rest = other

namespace Delimited

variable {α : Type} {write : α → List Char}

/-- What is never written as the beginning of something else is delimited. -/
theorem of_prefixFree (free : ∀ left right, write left <+: write right → left = right) :
    Delimited write := by
  intro left right rest other same
  have front : write left <+: write right ++ other := ⟨rest, same⟩
  have equal : left = right := by
    rcases List.prefix_or_prefix_of_prefix front (List.prefix_append _ other) with before | after
    · exact free left right before
    · exact (free right left after).symm
  subst equal
  exact ⟨rfl, List.append_cancel_left same⟩

/-- What is always written with the same length is delimited, if different things are written
differently. -/
theorem of_length {width : Nat} (wide : ∀ item, (write item).length = width)
    (distinct : ∀ left right, write left = write right → left = right) : Delimited write := by
  refine of_prefixFree fun left right before => distinct left right ?_
  exact before.eq_of_length ((wide left).trans (wide right).symm)

/-- What is followed by a character that it does not have ends before the first of them. -/
theorem of_stop (stop : Char) (absent : ∀ item, stop ∉ write item)
    (distinct : ∀ left right, write left = write right → left = right) {ending : List Char}
    (begins : ending.head? = some stop) : Delimited fun item => write item ++ ending := by
  obtain ⟨behind, rfl⟩ := List.head?_eq_some_iff.1 begins
  have front (item : α) (rest : List Char) :
      (write item ++ stop :: behind ++ rest).takeWhile (· ≠ stop) = write item := by
    rw [List.append_assoc, takeWhile_append_of_absent (absent item)]
    simp
  intro left right rest other same
  have equal : left = right := by
    apply distinct
    rw [← front left rest, ← front right other, same]
  subst equal
  exact ⟨rfl, List.append_cancel_left same⟩

end Delimited

/-! ## Decimal numbers -/

/-- A natural number is written with digits only. -/
theorem isDigit_of_mem_natural {number : Nat} {character : Char}
    (member : character ∈ (toString number).toList) : character.isDigit = true := by
  rw [Nat.toString_eq_repr, Nat.toList_repr] at member
  exact Nat.isDigit_of_mem_toDigits (by decide) (by decide) member

/-- An integer is written with digits and perhaps a sign. -/
theorem mem_integer {number : Int} {character : Char}
    (member : character ∈ (toString number).toList) :
    character.isDigit = true ∨ character = '-' := by
  rw [Int.toString_eq_repr, Int.repr_eq_if] at member
  split at member
  case isTrue => exact .inl (isDigit_of_mem_natural member)
  case isFalse =>
    rw [String.toList_append, List.mem_append] at member
    rcases member with sign | digit
    · exact .inr (by simpa using sign)
    · exact .inl (isDigit_of_mem_natural digit)

/-- Natural numbers of the same decimal digits are equal. -/
theorem natural_inj {left right : Nat} (same : (toString left).toList = (toString right).toList) :
    left = right :=
  Nat.repr_injective (String.toList_inj.1 same)

/-- Integers of the same decimal text are equal. -/
theorem integer_inj {left right : Int} (same : (toString left).toList = (toString right).toList) :
    left = right :=
  Int.repr_injective (String.toList_inj.1 same)

/-- A natural number ends before what is no digit. -/
theorem delimited_natural (stop : Char) (noDigit : stop.isDigit = false) {ending : List Char}
    (begins : ending.head? = some stop) :
    Delimited fun number : Nat => (toString number).toList ++ ending := by
  refine Delimited.of_stop stop (fun number member => ?_) (fun _ _ => natural_inj) begins
  have digit := isDigit_of_mem_natural member
  rw [noDigit] at digit
  cases digit

/-- An integer ends before what is neither digit nor sign. -/
theorem delimited_integer (stop : Char) (noDigit : stop.isDigit = false) (noSign : stop ≠ '-')
    {ending : List Char} (begins : ending.head? = some stop) :
    Delimited fun number : Int => (toString number).toList ++ ending := by
  refine Delimited.of_stop stop (fun number member => ?_) (fun _ _ => integer_inj) begins
  rcases mem_integer member with digit | sign
  · rw [noDigit] at digit
    cases digit
  · exact noSign sign

/-! ## Words -/

namespace Hex

/-- Words in long form are delimited, since all of them have the same length. -/
theorem delimited_long : Delimited fun word => (long word).toList :=
  .of_length length_long fun _ _ => readLong?_readsBack.write_inj.1

/-- A trimmed list of digits lacks only zeros in front. -/
theorem exists_zeros_append_trim (digits : List Char) :
    ∃ zeros, digits = List.replicate zeros '0' ++ trim digits := by
  fun_induction trim digits with
  | case1 => exact ⟨0, rfl⟩
  | case2 last => exact ⟨0, rfl⟩
  | case3 rest others inductionHypothesis =>
    obtain ⟨zeros, trimmed⟩ := inductionHypothesis
    exact ⟨zeros + 1, by rw [List.replicate_succ, List.cons_append, ← trimmed]⟩
  | case4 => exact ⟨0, rfl⟩

/-- As many digits are the same if they are trimmed to the same. -/
theorem trim_inj {left right : List Char} (width : left.length = right.length)
    (same : trim left = trim right) : left = right := by
  obtain ⟨zeros, padded⟩ := exists_zeros_append_trim left
  obtain ⟨others, otherPadded⟩ := exists_zeros_append_trim right
  have lengths := congrArg List.length padded
  have otherLengths := congrArg List.length otherPadded
  rw [List.length_append, List.length_replicate] at lengths otherLengths
  rw [← same] at otherLengths
  have equal : zeros = others := by omega
  rw [padded, otherPadded, same, equal]

/-- The short form leaves out nothing by which words differ. -/
theorem short_inj {left right : Word} (same : short left = short right) : left = right := by
  have trimmed : trim (digits 16 left.toNat) = trim (digits 16 right.toNat) := by
    simpa [short] using congrArg String.toList same
  have written := trim_inj (by simp [length_digits]) trimmed
  refine readLong?_readsBack.write_inj.1 ?_
  rw [toList_long, toList_long, written]

end Hex

end Datapath.Text
