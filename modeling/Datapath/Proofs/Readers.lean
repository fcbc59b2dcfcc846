import Datapath.Json.Record
import Datapath.Proofs.Lexing
import Mathlib.Algebra.Ring.Int.Defs
import Mathlib.Algebra.Ring.Nat

/-!
# What readers make of trees

A reader is given the tokens of a value and all that follow. It settles the value if what it
makes of it does not depend on what follows, and leaves exactly that. What it makes of a
tree is then the meaning of the tree, and it is also what the reader makes of every text of
the tree.

Truth values and words are settled by their only token, and a value of any other kind means
nothing to their readers. A value that nobody asked for is passed over as a whole.
-/

namespace Datapath

/-- An integer that fits an unsigned word is kept by one. -/
theorem Word.toNat_ofInt {value : Int} (least : 0 ≤ value) (most : value < 2 ^ 64) :
    ((BitVec.ofInt 64 value).toNat : Int) = value := by
  rw [BitVec.toNat_ofInt]
  omega

/-- An integer that fits a signed word is kept by one. -/
theorem Word.toInt_ofInt {value : Int} (least : -2 ^ 63 ≤ value) (most : value < 2 ^ 63) :
    (BitVec.ofInt 64 value).toInt = value := by
  rw [BitVec.toInt_ofInt, Int.bmod_eq_of_le (by omega) (by omega)]

namespace Json

/-! ## Strings, numerals and values passed over -/

/-- What pieces denote is what they decode to.

Proof: by induction over the pieces. The definition of `decode` is used and not its equations, which
for a single unit also look at the next piece. -/
theorem Piece.Denote.decode {pieces : List Piece} {content : List Char}
    (denote : Denote pieces content) : Piece.decode pieces .closed = .ok content := by
  induction denote with
  | nil => rfl
  | char value others decoded => simp only [Piece.decode, decoded, Except.map]
  | @unit value whole pieces content others decoded =>
    have single : Piece.closesPair value = false ∧ Piece.opensPair value = false := by
      simp only [Piece.closesPair, Piece.opensPair, Bool.and_eq_false_iff, decide_eq_false_iff_not]
      omega
    rw [Piece.decode.eq_def]
    simp only [single.1, single.2, Bool.false_eq_true, if_false, decoded, Except.map]
  | @pair high low highHalf lowHalf pieces content others decoded =>
    have opens : Piece.closesPair high = false ∧ Piece.opensPair high = true := by
      simp only [Piece.closesPair, Piece.opensPair, Bool.and_eq_false_iff, Bool.and_eq_true,
        decide_eq_false_iff_not, decide_eq_true_eq]
      omega
    have closes : Piece.closesPair low = true := by
      simp only [Piece.closesPair, Bool.and_eq_true, decide_eq_true_eq]
      omega
    simp only [Piece.decode, opens.1, opens.2, closes, Bool.false_eq_true, if_false, if_true,
      decoded, Except.map, Piece.ofPair]

/-- The integer that a numeral denotes counts if it fits a word, signed or unsigned. -/
theorem Numeral.integer?_eq_some_iff {numeral : Numeral} {value : Int} :
    numeral.integer? = some value ↔
      numeral.Denotes value ∧ -2 ^ 63 ≤ value ∧ value < 2 ^ 64 := by
  obtain ⟨negative, whole, fraction, exponent⟩ := numeral
  cases fraction with
  | cons => exact ⟨nofun, fun ⟨denotes, _⟩ => nomatch denotes.fraction⟩
  | nil =>
    cases exponent with
    | some => exact ⟨nofun, fun ⟨denotes, _⟩ => nomatch denotes.exponent⟩
    | none =>
      simp only [Numeral.integer?, Numeral.isWhole, List.isEmpty_nil, Option.isNone_none,
        Bool.and_self, Bool.true_eq_false, if_false]
      have halfRange : Nat.pow 2 63 = 2 ^ 63 := rfl
      have range : Nat.pow 2 64 = 2 ^ 64 := rfl
      cases negative with
      | true =>
        rw [if_pos rfl, halfRange]
        constructor
        · intro read
          split at read <;> cases read
          exact ⟨⟨rfl, rfl, rfl, by simp only; omega⟩, by omega, by omega⟩
        · rintro ⟨⟨-, -, rfl, notMinusZero⟩, least, most⟩
          simp only [true_and, if_true] at notMinusZero least ⊢
          rw [if_pos (by omega)]
      | false =>
        rw [if_neg Bool.false_ne_true, range]
        constructor
        · intro read
          split at read <;> cases read
          exact ⟨⟨rfl, rfl, rfl, by simp⟩, by omega, by omega⟩
        · rintro ⟨⟨-, -, rfl, -⟩, least, most⟩
          simp only [Bool.false_eq_true, if_false] at most ⊢
          rw [if_pos (by omega)]

/-- An array that goes on after its bracket has a first element. -/
theorem skipFrom_openBracket (frames : List Frame) {token : Token} (rest : List Token)
    (goesOn : token ≠ .closeBracket) :
    skipFrom .value frames (.openBracket :: token :: rest) =
      skipFrom .value (.array :: frames) (token :: rest) := by
  cases token with
  | closeBracket => exact absurd rfl goesOn
  | _ => rfl

/-- No value begins with a closing bracket. -/
theorem Tree.exists_tokens_eq (tree : Tree) :
    ∃ token more, tree.tokens = token :: more ∧ token ≠ .closeBracket := by
  cases tree <;> exact ⟨_, _, rfl, Token.noConfusion⟩

mutual

/-- A value is passed over as a whole. -/
theorem Tree.skip_tokens : ∀ (tree : Tree) (frames : List Frame) (rest : List Token),
    skipFrom .value frames (tree.tokens ++ rest) = skipFrom .separator frames rest
  | .null, _, _ | .bool _, _, _ | .string _, _, _ | .number _ _, _, _ => by
    rw [Tree.tokens, List.singleton_append]
    rfl
  | .array [], frames, rest => by
    simp only [Tree.tokens, Tree.elementTokens, List.cons_append, List.nil_append, skipFrom]
  | .array (element :: others), frames, rest => by
    obtain ⟨token, more, tokens, goesOn⟩ := element.exists_tokens_eq
    have first := element.skip_tokens (.array :: frames) (Tree.elementTokens true others ++ rest)
    rw [tokens, List.cons_append] at first
    simp only [Tree.tokens, Tree.elementTokens, Bool.false_eq_true, if_false, List.nil_append,
      List.cons_append, List.append_assoc, tokens]
    rw [skipFrom_openBracket frames _ goesOn, first]
    exact Tree.skip_elementTokens others frames rest
  | .object [], frames, rest => by
    simp only [Tree.tokens, Tree.memberTokens, List.cons_append, List.nil_append, skipFrom]
  | .object ((name, value) :: others), frames, rest => by
    simp only [Tree.tokens, Tree.memberTokens, Spelling.token, Bool.false_eq_true, if_false,
      List.nil_append, List.cons_append, List.append_assoc, skipFrom]
    rw [value.skip_tokens]
    exact Tree.skip_memberTokens others frames rest

/-- The further elements of an array are passed over up to its end. -/
theorem Tree.skip_elementTokens : ∀ (elements : List Tree) (frames : List Frame)
    (rest : List Token),
    skipFrom .separator (.array :: frames) (Tree.elementTokens true elements ++ rest) =
      skipFrom .separator frames rest
  | [], frames, rest => by
    simp only [Tree.elementTokens, List.cons_append, List.nil_append, skipFrom]
  | element :: others, frames, rest => by
    simp only [Tree.elementTokens, if_true, List.cons_append, List.nil_append, List.append_assoc,
      skipFrom]
    rw [element.skip_tokens]
    exact Tree.skip_elementTokens others frames rest

/-- The further members of an object are passed over up to its end. -/
theorem Tree.skip_memberTokens : ∀ (members : List (Spelling × Tree)) (frames : List Frame)
    (rest : List Token),
    skipFrom .separator (.object :: frames) (Tree.memberTokens true members ++ rest) =
      skipFrom .separator frames rest
  | [], frames, rest => by
    simp only [Tree.memberTokens, List.cons_append, List.nil_append, skipFrom]
  | (name, value) :: others, frames, rest => by
    simp only [Tree.memberTokens, Spelling.token, if_true, List.cons_append, List.nil_append,
      List.append_assoc, skipFrom]
    rw [value.skip_tokens]
    exact Tree.skip_memberTokens others frames rest

end

namespace Reader

variable {α : Type}

/-! ## Answers and meanings -/

/-- The value that a reader finds, and the tokens that it leaves. -/
def answer (reader : Reader α) (tokens : List Token) : Option (α × List Token) :=
  match reader tokens with
  | .ok (value, rest) => some (value, rest.val)
  | .error _ => none

/-- What a reader makes of a tree. -/
def meaning (reader : Reader α) (tree : Tree) : Option α := (reader.answer tree.tokens).map Prod.fst

/-- What a reader makes of a tree does not depend on what follows, which it leaves. -/
def Settles (reader : Reader α) : Prop :=
  ∀ (tree : Tree) (rest : List Token),
    reader.answer (tree.tokens ++ rest) = (reader.meaning tree).map fun value => (value, rest)

/-- A reader that answers has succeeded, with the value and the rest in question. -/
theorem ok_of_answer {reader : Reader α} {tokens rest : List Token} {value : α}
    (answered : reader.answer tokens = some (value, rest)) :
    ∃ shorter, reader tokens = .ok (value, ⟨rest, shorter⟩) := by
  unfold answer at answered
  split at answered
  case h_1 read =>
    cases answered
    exact ⟨_, read⟩
  case h_2 => cases answered

/-- A reader that gives no answer has failed with a problem. -/
theorem error_of_answer {reader : Reader α} {tokens : List Token}
    (refused : reader.answer tokens = none) : ∃ problem, reader tokens = .error problem := by
  unfold answer at refused
  split at refused
  case h_1 => cases refused
  case h_2 problem read => exact ⟨problem, read⟩

/-- If the answers are given by a function of the tree, that function is the meaning. -/
theorem settles_of_answers {reader : Reader α} {value? : Tree → Option α}
    (answers : ∀ (tree : Tree) (rest : List Token),
      reader.answer (tree.tokens ++ rest) = (value? tree).map fun value => (value, rest)) :
    reader.Settles ∧ reader.meaning = value? := by
  have meaning_eq : reader.meaning = value? := by
    funext tree
    have alone := answers tree []
    rw [List.append_nil] at alone
    rw [meaning, alone]
    cases value? tree <;> rfl
  refine ⟨fun tree rest => ?_, meaning_eq⟩
  rw [meaning_eq]
  exact answers tree rest

/-- The reader settles what it is given and makes of a tree what the tree means, if anything. -/
structure Reads (reader : Reader α) (means : Tree → α → Prop) : Prop where
  settles : reader.Settles
  meaning {tree : Tree} {value : α} : reader.meaning tree = some value ↔ means tree value

/-- A text of a tree is read as what the tree means. -/
theorem Reads.ofText_eq_ok_iff {reader : Reader α} {means : Tree → α → Prop}
    (reads : reader.Reads means) {tree : Tree} {text : String} (spelled : tree.Spells text)
    {value : α} : reader.ofText text = .ok value ↔ means tree value := by
  have answered := reads.settles tree []
  rw [List.append_nil, ← spelled.tokens_eq] at answered
  rw [← reads.meaning]
  unfold ofText
  cases meaning : reader.meaning tree with
  | none =>
    obtain ⟨problem, read⟩ := error_of_answer (answered.trans (by rw [meaning]; rfl))
    rw [read]
    exact ⟨nofun, nofun⟩
  | some found =>
    obtain ⟨shorter, read⟩ := ok_of_answer (answered.trans (by rw [meaning]; rfl))
    rw [read]
    exact ⟨fun same => congrArg _ (Except.ok.inj same),
      fun same => congrArg _ (Option.some.inj same)⟩

/-! ## Single tokens -/

/-- What a reader of single tokens makes of a tree, it makes of its only token. -/
theorem single_settles {read : Token → Except Problem α} {array object : Problem}
    (noArray : read .openBracket = .error array) (noObject : read .openBrace = .error object) :
    (single read).Settles ∧
      (single read).meaning = fun tree => match tree with
        | .array _ | .object _ => none
        | .null => (read .null).toOption
        | .bool value => (read (.bool value)).toOption
        | .number numeral _ => (read (.number numeral)).toOption
        | .string spelling => (read spelling.token).toOption := by
  refine settles_of_answers fun tree rest => ?_
  cases tree with
  | array elements => simp only [Tree.tokens, List.cons_append, answer, single, noArray]; rfl
  | object members => simp only [Tree.tokens, List.cons_append, answer, single, noObject]; rfl
  | null | bool | number | string =>
    simp only [Tree.tokens, List.cons_append, List.nil_append, answer, single]
    cases read _ <;> rfl

/-- The reader of truth values makes of a tree the truth value that it is. -/
theorem boolean_reads : boolean.Reads Tree.MeansTruth where
  settles := (single_settles rfl rfl).1
  meaning := by
    intro tree value
    rw [boolean, (single_settles rfl rfl).2, Tree.MeansTruth]
    cases tree <;> simp [Except.toOption, Spelling.token]

/-- A numeral is read within bounds if it denotes an integer within these bounds. -/
theorem integerWithin_eq_ok_iff {expected : Expected} {lowest highest : Int} {numeral : Numeral}
    {value : Int} (low : -2 ^ 63 ≤ lowest) (high : highest < 2 ^ 64) :
    integerWithin expected lowest highest numeral = .ok value ↔
      numeral.Denotes value ∧ lowest ≤ value ∧ value ≤ highest := by
  have inside : numeral.Denotes value ∧ lowest ≤ value ∧ value ≤ highest ↔
      numeral.integer? = some value ∧ lowest ≤ value ∧ value ≤ highest := by
    rw [Numeral.integer?_eq_some_iff]
    constructor
    · rintro ⟨denotes, least, most⟩
      exact ⟨⟨denotes, by omega, by omega⟩, least, most⟩
    · rintro ⟨⟨denotes, _⟩, least, most⟩
      exact ⟨denotes, least, most⟩
  rw [inside, integerWithin, Numeral.number?]
  cases numeral.integer? with
  | some found =>
    dsimp only
    split
    case isTrue bounded =>
      constructor
      · rintro ⟨⟩
        exact ⟨rfl, bounded⟩
      · rintro ⟨⟨⟩, _⟩
        rfl
    case isFalse outside =>
      constructor
      · nofun
      · rintro ⟨⟨⟩, bounded⟩
        exact absurd bounded outside
  | none => cases numeral.magnitude? <;> exact ⟨nofun, nofun⟩

/-- What is made of an integer within bounds, is made of a tree that is one. -/
theorem map_integerWithin_eq_some_iff {β : Type} {expected : Expected} {lowest highest : Int}
    {numeral : Numeral} (proper : numeral.Proper) {convert : Int → β} {result : β}
    (low : -2 ^ 63 ≤ lowest) (high : highest < 2 ^ 64) :
    ((integerWithin expected lowest highest numeral).map convert).toOption = some result ↔
      ∃ value, (Tree.number numeral proper).IsInteger value ∧
        (lowest ≤ value ∧ value ≤ highest) ∧ convert value = result := by
  constructor
  · intro converted
    cases read : integerWithin expected lowest highest numeral with
    | error problem =>
      rw [read] at converted
      cases converted
    | ok value =>
      rw [read] at converted
      obtain ⟨denotes, bounds⟩ := (integerWithin_eq_ok_iff low high).1 read
      exact ⟨value, .number proper denotes, bounds, Option.some.inj converted⟩
  · rintro ⟨value, ⟨_, denotes⟩, bounds, rfl⟩
    rw [(integerWithin_eq_ok_iff low high).2 ⟨denotes, bounds⟩]
    rfl

/-- The reader of unsigned words makes of a tree the word whose unsigned reading is the integer. -/
theorem unsignedWord_reads : unsignedWord.Reads Tree.MeansUnsigned where
  settles := (single_settles rfl rfl).1
  meaning := by
    intro tree word
    rw [unsignedWord, (single_settles rfl rfl).2]
    have most : ((BitVec.allOnes 64).toNat : Int) = 2 ^ 64 - 1 := rfl
    cases tree with
    | number numeral proper =>
      refine (map_integerWithin_eq_some_iff proper (by decide) (by decide)).trans ⟨?_, ?_⟩
      · rintro ⟨value, isInteger, bounds, rfl⟩
        rw [Tree.MeansUnsigned, Word.toNat_ofInt bounds.1 (by omega)]
        exact isInteger
      · intro isInteger
        have below := word.isLt
        refine ⟨word.toNat, isInteger, by omega, ?_⟩
        rw [BitVec.ofInt_natCast, BitVec.ofNat_toNat, BitVec.setWidth_eq]
    | _ => exact ⟨nofun, nofun⟩

/-- The reader of signed words makes of a tree the word whose signed reading is the integer, and of
null no word. -/
theorem optionalSignedWord_reads : optionalSignedWord.Reads Tree.MeansSigned where
  settles := (single_settles rfl rfl).1
  meaning := by
    intro tree word?
    rw [optionalSignedWord, (single_settles rfl rfl).2]
    have least : (BitVec.intMin 64).toInt = -2 ^ 63 := rfl
    have most : (BitVec.intMax 64).toInt = 2 ^ 63 - 1 := rfl
    cases tree with
    | number numeral proper =>
      refine (map_integerWithin_eq_some_iff proper (by decide) (by decide)).trans ⟨?_, ?_⟩
      · rintro ⟨value, isInteger, bounds, rfl⟩
        refine .integer ?_
        rw [Word.toInt_ofInt (by omega) (by omega)]
        exact isInteger
      · rintro (_ | @⟨_, word, isInteger⟩)
        have lower := word.le_toInt
        have upper := word.toInt_lt
        exact ⟨word.toInt, isInteger, by omega, by rw [BitVec.ofInt_toInt]⟩
    | null =>
      constructor
      · rintro ⟨⟩
        exact .nothing
      · rintro (_ | ⟨⟨⟩⟩)
        rfl
    | _ => exact ⟨nofun, nofun⟩

/-- A value that is passed over leaves exactly what follows it. -/
theorem skip_eq_ok (tree : Tree) (rest : List Token) :
    ∃ shorter, skip (tree.tokens ++ rest) = .ok ⟨rest, shorter⟩ := by
  have skipped : skipFrom .value [] (tree.tokens ++ rest) = .ok rest := by
    rw [tree.skip_tokens, skipFrom]
  unfold skip
  split
  case h_1 after success =>
    obtain rfl := Except.ok.inj (success.symm.trans skipped)
    exact ⟨Nat.lt_of_succ_le (length_of_skipFrom success), rfl⟩
  case h_2 problem failure => cases failure.symm.trans skipped

end Reader

end Json
end Datapath
