import Datapath.Listing
import Mathlib.Algebra.Ring.Int.Defs
import Mathlib.Algebra.Ring.Nat
import Mathlib.Data.List.Induction

/-!
# Reading text back

A reader for a way of writing accepts what was written and nothing else, and finds in it what
there was to write. So different things are written differently, and no text but the written
one is taken for it. Readers for parts make a reader for the whole: for a list of characters
that stand for themselves one by one, for a word out of its digits, for a text out of its lines.
-/

namespace Datapath.Text

/-- The reader accepts exactly what is written, as that of which it was written. -/
def ReadsBack {α β : Type} (read : β → Option α) (write : α → β) : Prop :=
  ∀ written item, read written = some item ↔ written = write item

namespace ReadsBack

variable {α β : Type} {read : β → Option α} {write : α → β}

/-- What can be read back is written in one way only for each item. -/
theorem write_inj (readsBack : ReadsBack read write) {left right : α} :
    write left = write right ↔ left = right := by
  constructor
  · intro same
    have first := (readsBack (write left) left).2 rfl
    have second := (readsBack (write left) right).2 same
    exact Option.some.inj (first.symm.trans second)
  · exact congrArg write

/-- Item by item a list is read back. -/
theorem mapM (readsBack : ReadsBack read write) :
    ReadsBack (List.mapM read) (List.map write) := by
  intro written items
  induction written generalizing items with
  | nil => cases items <;> simp
  | cons first rest inductionHypothesis =>
    have parts : (first :: rest).mapM read = some items ↔ ∃ item others,
        read first = some item ∧ rest.mapM read = some others ∧ item :: others = items := by
      simp [List.mapM_cons, Option.bind_eq_some_iff]
    rw [parts]
    constructor
    · rintro ⟨item, others, here, there, rfl⟩
      rw [(readsBack first item).1 here, (inductionHypothesis others).1 there, List.map_cons]
    · intro same
      cases items with
      | nil => cases same
      | cons item others =>
        obtain ⟨here, there⟩ := List.cons.inj same
        have found := (readsBack first item).2 here
        exact ⟨item, others, found, (inductionHypothesis others).2 there, rfl⟩

/-- Of finitely many items, none of which is written like another, the one that is written so is
found by looking through them. -/
theorem of_find? [DecidableEq β] {items : List α} (complete : ∀ item, item ∈ items)
    (distinct : ∀ left right, write left = write right → left = right) :
    ReadsBack (fun written => items.find? fun item => write item = written) write := by
  intro written item
  constructor
  · intro found
    have matched := List.find?_some found
    exact (of_decide_eq_true matched).symm
  · rintro rfl
    cases found : items.find? fun other => write other = write item with
    | none => exact absurd (decide_eq_true rfl) (List.find?_eq_none.1 found item (complete item))
    | some other =>
      have matched := List.find?_some found
      exact found.trans (congrArg some (distinct other item (of_decide_eq_true matched)))

end ReadsBack

/-- Read two parts with a separator between them. The first part has a fixed width. -/
def readPair? {α γ : Type} (width : Nat) (separator : List Char) (first : List Char → Option α)
    (second : List Char → Option γ) (text : List Char) : Option (α × γ) :=
  if (text.drop width).take separator.length = separator then do
    let left ← first (text.take width)
    let right ← second (text.drop (width + separator.length))
    return (left, right)
  else none

/-- A pair is read back if its parts are, where the first part is always as wide.

Proof: a text that is read is put together again from its parts. That what was written is read is
shown by rewriting the text, as substitution would evaluate it. -/
theorem ReadsBack.pair {α γ : Type} {first : List Char → Option α} {second : List Char → Option γ}
    {writeFirst : α → List Char} {writeSecond : γ → List Char} {width : Nat}
    (left : ReadsBack first writeFirst) (right : ReadsBack second writeSecond)
    (wide : ∀ item, (writeFirst item).length = width) (separator : List Char) :
    ReadsBack (readPair? width separator first second)
      fun item => writeFirst item.1 ++ separator ++ writeSecond item.2 := by
  rintro text ⟨item, other⟩
  constructor
  · intro accepted
    unfold readPair? at accepted
    split at accepted
    case isFalse => cases accepted
    case isTrue separated =>
      obtain ⟨found, here, rest⟩ := Option.bind_eq_some_iff.1 accepted
      obtain ⟨next, there, same⟩ := Option.bind_eq_some_iff.1 rest
      cases same
      have front : text.take width = writeFirst item := (left _ _).1 here
      have back : text.drop (width + separator.length) = writeSecond other := (right _ _).1 there
      have middle := List.take_append_drop separator.length (text.drop width)
      rw [separated, List.drop_drop] at middle
      dsimp only
      rw [← front, ← back, List.append_assoc, middle, List.take_append_drop]
  · intro written
    rw [written]
    have front := (left _ item).2 rfl
    have back := (right _ other).2 rfl
    simp [readPair?, ← wide item, List.drop_append, List.drop_eq_nil_of_le, front, back]

/-! ## Digits and words -/

namespace Hex

/-- The lower-case digit of a number below sixteen. -/
def lowerCase (digit : Fin 16) : Char := Nat.digitChar digit.val

/-- The number that a lower-case digit stands for. -/
def readDigit? (character : Char) : Option (Fin 16) :=
  (List.finRange 16).find? fun digit => lowerCase digit = character

/-- Reading a digit gives back its number, and no other character is read as this number. -/
theorem readDigit?_readsBack : ReadsBack readDigit? lowerCase := by
  have distinct : ∀ left right : Fin 16, lowerCase left = lowerCase right → left = right := by
    decide
  exact ReadsBack.of_find? List.mem_finRange distinct

/-- The number with the given hexadecimal digits, the most significant one first. -/
def valueOf (values : List (Fin 16)) : Nat :=
  values.foldl (fun value digit => 16 * value + digit.val) 0

/-- A further digit is added to sixteen times the value of those before it. -/
theorem valueOf_concat (values : List (Fin 16)) (last : Fin 16) :
    valueOf (values ++ [last]) = 16 * valueOf values + last.val := by
  simp [valueOf]

/-- As many digits do not make a larger number. -/
theorem valueOf_lt (values : List (Fin 16)) : valueOf values < 16 ^ values.length := by
  induction values using List.reverseRecOn with
  | nil => decide
  | append_singleton values last bound =>
    rw [valueOf_concat, List.length_append, List.length_singleton, Nat.pow_succ]
    omega

/-- The digits of a number are those that make it. -/
theorem digits_valueOf (values : List (Fin 16)) :
    digits values.length (valueOf values) = values.map lowerCase := by
  induction values using List.reverseRecOn with
  | nil => rfl
  | append_singleton values last inductionHypothesis =>
    have quotient : (16 * valueOf values + last.val) / 16 = valueOf values := by omega
    have remainder : (16 * valueOf values + last.val) % 16 = last.val := by omega
    rw [List.length_append, List.length_singleton, digits, valueOf_concat, quotient, remainder,
      inductionHypothesis, List.map_append]
    rfl

/-- The last digits of a number make what they can show of it. -/
theorem exists_digits (count value : Nat) :
    ∃ values : List (Fin 16), values.length = count ∧ digits count value = values.map lowerCase ∧
      valueOf values = value % 16 ^ count := by
  induction count generalizing value with
  | zero => exact ⟨[], rfl, rfl, by simp [valueOf, Nat.mod_one]⟩
  | succ count inductionHypothesis =>
    obtain ⟨values, length, written, made⟩ := inductionHypothesis (value / 16)
    have small : value % 16 < 16 := Nat.mod_lt value (by decide)
    refine ⟨values ++ [⟨value % 16, small⟩], by simp [length], ?_, ?_⟩
    · rw [digits, written, List.map_append]
      rfl
    · rw [valueOf_concat, made, Nat.pow_succ, Nat.mul_comm (16 ^ count), Nat.mod_mul]
      dsimp only
      omega

/-- The text shows a number by `0x` and the sixteen lower-case digits of its two's complement. -/
def Shows (text : List Char) (number : Int) : Prop :=
  ∃ values : List (Fin 16), values.length = 16 ∧ text = '0' :: 'x' :: values.map lowerCase ∧
    (valueOf values : Int) = number % 2 ^ 64

/-- The long form of a word is `0x` and its sixteen hexadecimal digits. -/
theorem toList_long (word : Word) :
    (long word).toList = '0' :: 'x' :: digits 16 word.toNat := by
  simp [long]

/-- The long form shows the word, a negative one like any other. -/
theorem shows_long (word : Word) : Shows (long word).toList word.toInt := by
  obtain ⟨values, length, written, made⟩ := exists_digits 16 word.toNat
  refine ⟨values, length, by rw [toList_long, written], ?_⟩
  · have bound : word.toNat < 2 ^ 64 := word.isLt
    rw [made, BitVec.toInt_eq_toNat_cond]
    omega

/-- Read the long form of a word. -/
def readLong? : List Char → Option Word
  | '0' :: 'x' :: written =>
    if written.length = 16 then
      (written.mapM readDigit?).map fun values => BitVec.ofNat 64 (valueOf values)
    else none
  | _ => none

/-- Reading the long form of a word gives back the word, and no other text is read as this word. -/
theorem readLong?_readsBack : ReadsBack readLong? fun word => (long word).toList := by
  intro text word
  simp only [toList_long]
  constructor
  · intro accepted
    unfold readLong? at accepted
    split at accepted
    case h_2 => cases accepted
    case h_1 written =>
      split at accepted
      case isFalse => cases accepted
      case isTrue sixteen =>
        obtain ⟨values, read, rfl⟩ := Option.map_eq_some_iff.1 accepted
        obtain rfl := (readDigit?_readsBack.mapM written values).1 read
        have length : values.length = 16 := by simpa using sixteen
        have bound := valueOf_lt values
        rw [length] at bound
        have exact : (BitVec.ofNat 64 (valueOf values)).toNat = valueOf values :=
          Nat.mod_eq_of_lt bound
        rw [exact, ← digits_valueOf, length]
  · rintro rfl
    obtain ⟨values, length, written, made⟩ := exists_digits 16 word.toNat
    have whole : valueOf values = word.toNat := by
      rw [made]
      exact Nat.mod_eq_of_lt word.isLt
    have read := (readDigit?_readsBack.mapM (digits 16 word.toNat) values).2 written
    simp only [readLong?, length_digits, if_true, read, whole, Option.map_some]
    exact congrArg some (BitVec.ofNat_toNat 64 word)

/-- The long form of a word has eighteen characters, the mark and the digits together. -/
theorem length_long (word : Word) : (long word).toList.length = 18 := by
  simp [toList_long, length_digits]

/-- A word is written on one line. -/
theorem newline_notMem_long (word : Word) : '\n' ∉ (long word).toList := by
  have visible : ∀ digit : Fin 16, lowerCase digit ≠ '\n' := by decide
  obtain ⟨values, _, written, _⟩ := shows_long word
  rw [written]
  simp [visible]

end Hex

/-! ## Lines -/

/-- Lines one below the other, each of which ends. -/
def unlines (lines : List (List Char)) : List Char := lines.flatMap (· ++ ['\n'])

/-- The lines of a text, if there are any and the last one ends. -/
def lines? (text : List Char) : Option (List (List Char)) :=
  if text.getLast? = some '\n' then some (text.dropLast.splitOn '\n') else none

/-- The end of a line stands between two lines and after the last one. -/
theorem unlines_eq_intercalate {lines : List (List Char)} (present : lines ≠ []) :
    unlines lines = ['\n'].intercalate lines ++ ['\n'] := by
  induction lines with
  | nil => exact absurd rfl present
  | cons first rest inductionHypothesis =>
    cases rest with
    | nil => simp [unlines]
    | cons second rest =>
      rw [List.intercalate_cons_cons, List.append_assoc, ← inductionHypothesis nofun]
      simp [unlines]

/-- Lines in which no line ends are found again in the text that they make. -/
theorem lines?_unlines {lines : List (List Char)} (present : lines ≠ [])
    (whole : ∀ line ∈ lines, '\n' ∉ line) : lines? (unlines lines) = some lines := by
  simp [lines?, unlines_eq_intercalate present, List.splitOn_intercalate '\n' whole present]

/-- The lines of a text make the text. -/
theorem unlines_of_lines? {text : List Char} {lines : List (List Char)}
    (read : lines? text = some lines) : lines ≠ [] ∧ unlines lines = text := by
  unfold lines? at read
  split at read
  case isFalse => cases read
  case isTrue ends =>
    obtain ⟨front, rfl⟩ := List.getLast?_eq_some_iff.1 ends
    rw [List.dropLast_concat] at read
    obtain rfl := Option.some.inj read
    have present : front.splitOn '\n' ≠ [] := List.splitOn_ne_nil _ _
    exact ⟨present, by rw [unlines_eq_intercalate present, List.intercalate_splitOn]⟩

end Datapath.Text
