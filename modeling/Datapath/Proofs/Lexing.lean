import Datapath.Json.Lexer
import Datapath.Proofs.Documents
import Mathlib.Data.List.Chain

/-!
# Cutting a text into the tokens that it spells

Cutting undoes spelling: however a row of tokens is written, the same tokens come back. Only
a numeral cannot tell by itself where it ends, so no other may follow it at once. In the
tokens of a tree none does, because a mark stands between any two values.
-/

namespace Datapath.Json

/-- A digit is no mark, sign, blank or letter. -/
theorem Digit.toChar_notin : ∀ digit : Digit, digit.toChar ∉
    ['+', '-', '.', ',', ':', '"', '[', ']', '\x7b', '\x7d', 'e', 'E', 'n', 't', 'f', ' ', '\t',
      '\n', '\r'] := by
  decide

/-- The token is a numeral. -/
def Token.isNumber : Token → Bool
  | number _ => true
  | _ => false

/-- No two numerals stand side by side. -/
def Token.Separated (tokens : List Token) : Prop :=
  tokens.IsChain fun left right => ¬(left.isNumber ∧ right.isNumber)

namespace Lexer

/-! ## Numerals -/

/-- A numeral does not go on with this text. -/
def Ends (rest : List Char) : Prop :=
  ∀ char ∈ rest.head?, Digit.ofChar? char = none ∧ char ∉ ['.', 'e', 'E']

/-- Digits are taken up to the first character that is none. -/
theorem digits_append (found : List Digit) {rest : List Char}
    (ends : ∀ char ∈ rest.head?, Digit.ofChar? char = none) :
    digits (found.map Digit.toChar ++ rest) = (found, rest) := by
  induction found with
  | nil =>
    cases rest with
    | nil => rfl
    | cons char rest => simp [digits, ends char rfl]
  | cons digit found others =>
    simp only [List.map_cons, List.cons_append, digits, Digit.ofChar?_toChar, others]

/-- The digits of an exponent are all taken. -/
theorem exponentDigits_append (found : Numeral) {power : Exponent} {rest : List Char}
    (nonempty : power.digits ≠ []) (ends : Ends rest) :
    exponentDigits found power.negative (power.digits.map Digit.toChar ++ rest) =
      .whole (.number { found with exponent := some power }) rest := by
  obtain ⟨negative, _ | ⟨digit, digits⟩⟩ := power
  · exact absurd rfl nonempty
  · simp only [exponentDigits, digits_append _ fun char first => (ends char first).1]

/-- An exponent is taken with its sign. -/
theorem signedExponent_append (found : Numeral) {power : Exponent} {sign rest : List Char}
    (signed : sign ∈ Exponent.signs power.negative) (nonempty : power.digits ≠ [])
    (ends : Ends rest) :
    signedExponent found (sign ++ power.digits.map Digit.toChar ++ rest) =
      .whole (.number { found with exponent := some power }) rest := by
  have taken := exponentDigits_append found nonempty ends
  obtain ⟨negative, digits⟩ := power
  cases negative with
  | true =>
    obtain rfl := List.mem_singleton.1 signed
    exact taken
  | false =>
    obtain rfl | rfl : sign = [] ∨ sign = ['+'] := by simpa [Exponent.signs] using signed
    · obtain _ | ⟨digit, digits⟩ := digits
      · exact absurd rfl nonempty
      · have distinct := digit.toChar_notin
        simp only [List.mem_cons, not_or] at distinct
        rw [← taken]
        simp only [List.nil_append, List.map_cons, List.cons_append]
        unfold signedExponent
        split <;> simp_all
    · exact taken

/-- The end of a numeral is taken as it is spelled. -/
theorem exponent_append {found : Numeral} {ending rest : List Char}
    (spelled : Exponent.Spells found.exponent ending) (proper : found.Proper) (ends : Ends rest) :
    exponent { found with exponent := none } (ending ++ rest) = .whole (.number found) rest := by
  obtain ⟨negative, whole, fraction, power⟩ := found
  cases spelled with
  | none =>
    cases rest with
    | nil => rfl
    | cons char rest =>
      obtain ⟨-, notLetter⟩ := ends char rfl
      simp only [List.mem_cons, not_or] at notLetter
      simp only [List.nil_append]
      unfold exponent
      split <;> simp_all
  | @some letter either power sign signed =>
    have taken := signedExponent_append ⟨negative, whole, fraction, none⟩ signed
      (proper.exponent power rfl) ends
    obtain rfl | rfl : letter = 'e' ∨ letter = 'E' := by simpa using either
    · exact taken
    · exact taken

/-- The digits in front of the end of a numeral do not go on there. -/
theorem stops_of_ending {power : Option Exponent} {ending rest : List Char}
    (spelled : Exponent.Spells power ending) (ends : Ends rest) :
    ∀ char ∈ (ending ++ rest).head?, Digit.ofChar? char = none ∧ char ≠ '.' := by
  cases spelled with
  | none =>
    intro char first
    obtain ⟨noDigit, notLetter⟩ := ends char first
    simp only [List.mem_cons, not_or] at notLetter
    exact ⟨noDigit, notLetter.1⟩
  | @some letter either =>
    intro char first
    obtain rfl : letter = char := by simpa using first
    obtain rfl | rfl : letter = 'e' ∨ letter = 'E' := by simpa using either
    · decide
    · decide

/-- What follows the digits in front of a decimal point is taken as it is spelled.

Proof: without a point the first character that follows is none, so the end comes at once. With one
the digits behind it come first. -/
theorem fraction_append {found : Numeral} {ending rest : List Char}
    (spelled : Exponent.Spells found.exponent ending) (proper : found.Proper) (ends : Ends rest) :
    fraction { found with fraction := [], exponent := none }
      ((if found.fraction = [] then [] else '.' :: found.fraction.map Digit.toChar) ++
        (ending ++ rest)) = .whole (.number found) rest := by
  have taken := exponent_append spelled proper ends
  have stops := stops_of_ending spelled ends
  obtain ⟨negative, whole, _ | ⟨digit, digits⟩, power⟩ := found
  · simp only [if_true, List.nil_append]
    rw [← taken]
    cases same : ending ++ rest with
    | nil => rfl
    | cons char others =>
      have noPoint := (stops char (by rw [same]; rfl)).2
      unfold fraction
      split <;> simp_all
  · simp only [reduceCtorEq, if_false, List.cons_append, fraction]
    rw [digits_append _ fun char first => (stops char first).1]
    exact taken

/-- The digits of a numeral and its end are taken as they are spelled. -/
theorem numeral_append {found : Numeral} {ending rest : List Char}
    (spelled : Exponent.Spells found.exponent ending) (proper : found.Proper) (ends : Ends rest) :
    ∃ first others, found.whole = first :: others ∧
      numeral found.negative first (others.map Digit.toChar ++
        ((if found.fraction = [] then [] else '.' :: found.fraction.map Digit.toChar) ++
          (ending ++ rest))) = .whole (.number found) rest := by
  have taken := fraction_append spelled proper ends
  have stops : ∀ char ∈ ((if found.fraction = [] then [] else
      '.' :: found.fraction.map Digit.toChar) ++ (ending ++ rest)).head?,
      Digit.ofChar? char = none := by
    intro char first
    split at first
    · exact (stops_of_ending spelled ends char first).1
    · obtain rfl : '.' = char := by simpa using first
      decide
  obtain ⟨negative, _ | ⟨first, others⟩, fraction, power⟩ := found
  · exact absurd rfl proper.whole
  · refine ⟨first, others, rfl, ?_⟩
    have noLeadingZero : ¬(first = 0 ∧ others ≠ []) := by
      rintro ⟨rfl, more⟩
      have single := proper.leading rfl
      exact more (List.cons.inj single).2
    rw [numeral, digits_append _ stops]
    simp only [noLeadingZero, if_false]
    exact taken

/-! ## Strings -/

/-- Both forms of a hexadecimal digit are read back. -/
theorem hexDigit?_of_mem : ∀ {digit : Fin 16} {char : Char}, char ∈ hexForms digit →
    hexDigit? char = some digit.val := by
  have table : ∀ digit : Fin 16, (hexForms digit).all fun char =>
      hexDigit? char = some digit.val := by decide
  exact fun {digit char} among => of_decide_eq_true (List.all_eq_true.1 (table digit) char among)

/-- Every letter of an escape is read back. -/
theorem escaped?_of_mem : ∀ {letter char : Char}, (letter, char) ∈ letterEscapes →
    escaped? letter = some char ∧ letter ≠ 'u' := by
  have table : ∀ pair ∈ letterEscapes, escaped? pair.1 = some pair.2 ∧ pair.1 ≠ 'u' := by decide
  exact fun {letter char} among => table (letter, char) among

/-- A piece is taken as it is spelled. -/
theorem string_piece {piece : Piece} {written : List Char} (spelled : piece.Spells written)
    (rest : List Char) : string (written ++ rest) = (string rest).cons piece := by
  cases spelled with
  | @plain char printable noQuote noBackslash =>
    have visible : ¬char.toNat < 0x20 := Nat.not_lt.2 printable
    rw [List.singleton_append, string.eq_def]
    split <;> grind
  | @letter letter char listed =>
    obtain ⟨read, notUnit⟩ := escaped?_of_mem listed
    rw [List.cons_append, List.singleton_append, string.eq_def]
    split <;> grind
  | @unit first second third fourth a b c d firstForm secondForm thirdForm fourthForm =>
    have value : codeUnit? a b c d =
        some (((first.val * 16 + second.val) * 16 + third.val) * 16 + fourth.val) := by
      simp only [codeUnit?, hexDigit?_of_mem firstForm, hexDigit?_of_mem secondForm,
        hexDigit?_of_mem thirdForm, hexDigit?_of_mem fourthForm, Option.bind_eq_bind,
        Option.bind_some, Option.pure_def]
      congr 1
      omega
    simp only [List.cons_append, List.nil_append, string, value]

/-- A string is taken up to its closing quote. -/
theorem string_pieces {pieces : List Piece} {texts : List (List Char)}
    (spelled : List.Forall₂ Piece.Spells pieces texts) (rest : List Char) :
    string (texts.flatten ++ ['"'] ++ rest) = ⟨pieces, .closed, rest⟩ := by
  induction spelled with
  | nil => rfl
  | cons piece pieces others =>
    rw [List.flatten_cons, List.append_assoc, List.append_assoc, string_piece piece,
      ← List.append_assoc, others]
    rfl

/-! ## Texts -/

/-- A digit is no blank. -/
theorem isBlank_digit : ∀ digit : Digit, isBlank digit.toChar = false := by
  decide

/-- A digit begins a numeral. -/
theorem token_digit (digit : Digit) (rest : List Char) :
    token digit.toChar rest = numeral false digit rest := by
  have distinct := digit.toChar_notin
  have read := Digit.ofChar?_toChar digit
  simp only [List.mem_cons, not_or] at distinct
  unfold token
  split <;> simp_all

/-- A token is taken as it is spelled. What follows a numeral must not go on with it. -/
theorem token_append {found : Token} {written rest : List Char} (spelled : found.Spells written)
    (ends : found.isNumber → Ends rest) :
    ∃ first others, written = first :: others ∧ isBlank first = false ∧
      token first (others ++ rest) = .whole found rest := by
  cases spelled with
  | openBracket | closeBracket | openBrace | closeBrace | comma | colon =>
    exact ⟨_, _, rfl, rfl, rfl⟩
  | null | true | false => exact ⟨_, _, rfl, rfl, rfl⟩
  | @number numeral proper text spelled =>
    obtain ⟨exponent⟩ := spelled
    obtain ⟨first, others, whole, taken⟩ := numeral_append exponent proper (ends rfl)
    cases sign : numeral.negative with
    | true =>
      rw [sign] at taken
      simp only [if_true, whole, List.map_cons, List.cons_append, List.nil_append]
      refine ⟨_, _, rfl, rfl, ?_⟩
      simp only [List.cons_append, List.append_assoc, token, negativeNumeral,
        Digit.ofChar?_toChar, taken]
    | false =>
      rw [sign] at taken
      simp only [Bool.false_eq_true, if_false, whole, List.map_cons, List.cons_append,
        List.nil_append]
      refine ⟨_, _, rfl, isBlank_digit first, ?_⟩
      simp only [List.append_assoc, token_digit, taken]
  | @string pieces texts spelled =>
    refine ⟨_, _, rfl, rfl, ?_⟩
    simp only [token, string_pieces spelled]

/-- A text that spells tokens, the first of which is no numeral, ends a numeral in front. -/
theorem ends_of_spellAll {tokens : List Token} {text : List Char}
    (spelled : Token.SpellAll tokens text) (noNumber : ∀ token ∈ tokens.head?, ¬token.isNumber) :
    Ends text := by
  cases spelled with
  | nil => exact fun _ first => absurd first (by simp)
  | @blank char isBlank _ _ _ =>
    have table : [' ', '\t', '\n', '\r'].all fun char =>
        Digit.ofChar? char = none ∧ char ∉ ['.', 'e', 'E'] := by decide
    intro other first
    obtain rfl : char = other := by simpa using first
    exact of_decide_eq_true (List.all_eq_true.1 table char isBlank)
  | token found others =>
    cases found with
    | number => exact absurd rfl (noNumber _ rfl)
    | _ =>
      intro other first
      obtain rfl := Option.some.inj first
      decide

/-- Cutting a text gives the tokens that it spells. -/
theorem tokens_of_spellAll {found : List Token} {text : List Char}
    (spelled : Token.SpellAll found text) (separated : Token.Separated found) :
    tokens text = found := by
  induction spelled with
  | nil => rw [tokens]
  | @blank char blank tokens text others cut =>
    have table : [' ', '\t', '\n', '\r'].all isBlank := by decide
    rw [Lexer.tokens, if_pos (List.all_eq_true.1 table char blank)]
    exact cut separated
  | @token first written spelled tokens text others cut =>
    have ends : first.isNumber → Ends text := by
      intro number
      refine ends_of_spellAll others fun next among both => ?_
      exact (List.isChain_cons.1 separated).1 next among ⟨number, both⟩
    obtain ⟨char, more, rfl, notBlank, scanned⟩ := token_append spelled ends
    rw [List.cons_append, Lexer.tokens, if_neg (by simp [notBlank])]
    split
    case h_1 whole =>
      obtain ⟨rfl, rfl⟩ : _ ∧ _ := by simpa [whole] using scanned
      rw [cut (List.isChain_cons.1 separated).2]
    case h_2 broken => simp [broken] at scanned

end Lexer

/-! ## The texts of a tree -/

/-- Only a numeral in front of others can keep them from being separated. -/
theorem Token.separated_cons {token : Token} {others : List Token}
    (noNumber : token.isNumber = false) (separated : Separated others) :
    Separated (token :: others) := by
  refine List.isChain_cons.2 ⟨fun _ _ both => ?_, separated⟩
  rw [noNumber] at both
  cases both.1

/-- What follows an element is a mark. -/
theorem Tree.head?_elementTokens (others : List Tree) (rest : List Token) :
    ∀ token ∈ (Tree.elementTokens true others ++ rest).head?, token.isNumber = false := by
  intro token first
  cases others <;> (cases Option.some.inj first; rfl)

/-- What follows a member is a mark. -/
theorem Tree.head?_memberTokens (others : List (Spelling × Tree)) (rest : List Token) :
    ∀ token ∈ (Tree.memberTokens true others ++ rest).head?, token.isNumber = false := by
  intro token first
  cases others <;> (cases Option.some.inj first; rfl)

mutual

/-- The tokens of a tree stay separated from what follows, unless this begins with a number.

Proof: by recursion over the tree, together with the lists of elements and of members in it. -/
theorem Tree.separated_tokens {rest : List Token} (separated : Token.Separated rest)
    (noNumber : ∀ token ∈ rest.head?, token.isNumber = false) :
    ∀ tree : Tree, Token.Separated (tree.tokens ++ rest)
  | .null | .bool _ | .string _ => Token.separated_cons rfl separated
  | .number _ _ => by
    refine List.isChain_cons.2 ⟨fun other among both => ?_, separated⟩
    rw [noNumber other among] at both
    cases both.2
  | .array elements =>
    Token.separated_cons rfl (Tree.separated_elementTokens separated false elements)
  | .object members =>
    Token.separated_cons rfl (Tree.separated_memberTokens separated false members)

/-- The tokens of a list of elements stay separated from whatever follows, as its last one is a
bracket. -/
theorem Tree.separated_elementTokens {rest : List Token} (separated : Token.Separated rest)
    (started : Bool) :
    ∀ elements : List Tree, Token.Separated (Tree.elementTokens started elements ++ rest)
  | [] => Token.separated_cons rfl separated
  | element :: others => by
    have further := Tree.separated_tokens (Tree.separated_elementTokens separated true others)
      (Tree.head?_elementTokens others rest) element
    rw [← List.append_assoc] at further
    cases started with
    | false => exact further
    | true => exact Token.separated_cons rfl further

/-- The tokens of a list of members stay separated from whatever follows, as its last one is a
brace. -/
theorem Tree.separated_memberTokens {rest : List Token} (separated : Token.Separated rest)
    (started : Bool) :
    ∀ members : List (Spelling × Tree),
      Token.Separated (Tree.memberTokens started members ++ rest)
  | [] => Token.separated_cons rfl separated
  | (name, value) :: others => by
    have further := Tree.separated_tokens (Tree.separated_memberTokens separated true others)
      (Tree.head?_memberTokens others rest) value
    rw [← List.append_assoc] at further
    have member : Token.Separated
        (name.token :: .colon :: (value.tokens ++ Tree.memberTokens true others ++ rest)) :=
      Token.separated_cons rfl (Token.separated_cons rfl further)
    cases started with
    | false => exact member
    | true => exact Token.separated_cons rfl member

end

/-- Cutting a text of a tree gives the tokens of the tree. -/
theorem Tree.Spells.tokens_eq {tree : Tree} {text : String} (spelled : tree.Spells text) :
    Lexer.tokens text.toList = tree.tokens := by
  have separated := tree.separated_tokens .nil (fun _ first => absurd first (by simp))
  rw [List.append_nil] at separated
  exact Lexer.tokens_of_spellAll spelled separated

end Datapath.Json
