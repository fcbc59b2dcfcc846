import Datapath.Json.Token
import Datapath.Word
import Mathlib.Data.List.Forall2

/-!
# Documents and their texts

A document is a tree of values. An object is a row of named members, in order, and one name
may occur more than once. Numerals and strings are kept as they are written: so integers of
any size and minus zero are told apart from other numerals, and names are compared by the
characters that they denote, whatever pieces they are put together from.

A text of a tree spells its tokens one after the other, with blanks anywhere between.
`Tree.Spells` holds of a tree and each of its texts, and every tree has one.
-/

namespace Datapath.Json

/-! ## Spelling -/

/-- The characters that a letter after a backslash can stand for. -/
def letterEscapes : List (Char × Char) :=
  [('"', '"'), ('\\', '\\'), ('/', '/'), ('b', '\x08'), ('f', '\x0c'), ('n', '\n'), ('r', '\r'),
    ('t', '\t')]

/-- The two forms of a hexadecimal digit. -/
def hexForms (digit : Fin 16) : List Char :=
  [Nat.digitChar digit.val, (Nat.digitChar digit.val).toUpper]

/-- How a piece of a string may be written. -/
inductive Piece.Spells : Piece → List Char → Prop where
  | plain {char : Char} (printable : 0x20 ≤ char.toNat) (noQuote : char ≠ '"')
      (noBackslash : char ≠ '\\') : Spells (.char char) [char]
  | letter {letter char : Char} (listed : (letter, char) ∈ letterEscapes) :
      Spells (.char char) ['\\', letter]
  | unit {first second third fourth : Fin 16} {a b c d : Char} (firstForm : a ∈ hexForms first)
      (secondForm : b ∈ hexForms second) (thirdForm : c ∈ hexForms third)
      (fourthForm : d ∈ hexForms fourth) :
      Spells (.unit (((first.val * 16 + second.val) * 16 + third.val) * 16 + fourth.val))
        ['\\', 'u', a, b, c, d]

/-- What may stand in front of the digits of an exponent. -/
def Exponent.signs (negative : Bool) : List (List Char) :=
  if negative then [['-']] else [[], ['+']]

/-- How the end of a numeral may be written. -/
inductive Exponent.Spells : Option Exponent → List Char → Prop where
  | none : Spells none []
  | some {letter : Char} (either : letter ∈ ['e', 'E']) {exponent : Exponent} {sign : List Char}
      (signed : sign ∈ signs exponent.negative) :
      Spells (some exponent) (letter :: (sign ++ exponent.digits.map Digit.toChar))

/-- How a numeral may be written. There is a decimal point if there are digits after it. -/
inductive Numeral.Spells (numeral : Numeral) : List Char → Prop where
  | digits {ending : List Char} (exponent : Exponent.Spells numeral.exponent ending) :
      Spells numeral ((if numeral.negative then ['-'] else []) ++
        (numeral.whole.map Digit.toChar ++
          ((if numeral.fraction = [] then [] else '.' :: numeral.fraction.map Digit.toChar) ++
            ending)))

/-- The numeral can be written: no row of digits that must have one is empty, and no zero
stands in front of another digit. -/
structure Numeral.Proper (numeral : Numeral) : Prop where
  whole : numeral.whole ≠ []
  leading : numeral.whole.head? = some 0 → numeral.whole = [0]
  exponent : ∀ exponent ∈ numeral.exponent, exponent.digits ≠ []

/-- How a token may be written. -/
inductive Token.Spells : Token → List Char → Prop where
  | openBracket : Spells .openBracket ['[']
  | closeBracket : Spells .closeBracket [']']
  | openBrace : Spells .openBrace ['\x7b']
  | closeBrace : Spells .closeBrace ['\x7d']
  | comma : Spells .comma [',']
  | colon : Spells .colon [':']
  | null : Spells .null ['n', 'u', 'l', 'l']
  | true : Spells (.bool true) ['t', 'r', 'u', 'e']
  | false : Spells (.bool false) ['f', 'a', 'l', 's', 'e']
  | number {numeral : Numeral} (proper : numeral.Proper) {text : List Char}
      (spelled : numeral.Spells text) : Spells (.number numeral) text
  | string {pieces : List Piece} {texts : List (List Char)}
      (spelled : List.Forall₂ Piece.Spells pieces texts) :
      Spells (.string pieces .closed) ('"' :: (texts.flatten ++ ['"']))

/-- How a row of tokens may be written, with blanks between them, in front and at the end. -/
inductive Token.SpellAll : List Token → List Char → Prop where
  | nil : SpellAll [] []
  | blank {char : Char} (isBlank : char ∈ [' ', '\t', '\n', '\r']) {tokens : List Token}
      {text : List Char} (others : SpellAll tokens text) : SpellAll tokens (char :: text)
  | token {token : Token} {written : List Char} (spelled : token.Spells written)
      {tokens : List Token} {text : List Char} (others : SpellAll tokens text) :
      SpellAll (token :: tokens) (written ++ text)

/-- Texts of two rows of tokens make up one of both. -/
theorem Token.SpellAll.append {left right : List Token} {leftText rightText : List Char}
    (leftSpelled : SpellAll left leftText) (rightSpelled : SpellAll right rightText) :
    SpellAll (left ++ right) (leftText ++ rightText) := by
  induction leftSpelled with
  | nil => exact rightSpelled
  | blank isBlank _ others => exact .blank isBlank others
  | token spelled _ others =>
    rw [List.append_assoc]
    exact .token spelled others

/-! ## Trees -/

/-- The characters that a row of pieces denotes. -/
inductive Piece.Denote : List Piece → List Char → Prop where
  | nil : Denote [] []
  | char (char : Char) {pieces : List Piece} {content : List Char}
      (others : Denote pieces content) : Denote (.char char :: pieces) (char :: content)
  /-- A code unit outside the range of halves is a character of its own. -/
  | unit {value : Nat} (whole : value < 0xD800 ∨ 0xDFFF < value) {pieces : List Piece}
      {content : List Char} (others : Denote pieces content) :
      Denote (.unit value :: pieces) (Char.ofNat value :: content)
  /-- Two halves are one character above the range of single units. -/
  | pair {high low : Nat} (highHalf : 0xD800 ≤ high ∧ high ≤ 0xDBFF)
      (lowHalf : 0xDC00 ≤ low ∧ low ≤ 0xDFFF) {pieces : List Piece} {content : List Char}
      (others : Denote pieces content) :
      Denote (.unit high :: .unit low :: pieces)
        (Char.ofNat ((high - 0xD800) * 0x400 + (low - 0xDC00) + 0x10000) :: content)

/-- A string with the pieces that it is put together from. -/
structure Spelling where
  content : String
  pieces : List Piece
  denote : Piece.Denote pieces content.toList
  writable : ∀ piece ∈ pieces, ∃ text, piece.Spells text

/-- A document. -/
inductive Tree where
  | null
  | bool (value : Bool)
  | number (numeral : Numeral) (proper : numeral.Proper)
  | string (spelling : Spelling)
  | array (elements : List Tree)
  | object (members : List (Spelling × Tree))

/-- The token of a string. -/
def Spelling.token (spelling : Spelling) : Token := .string spelling.pieces .closed

mutual

/-- The tokens of a tree. -/
def Tree.tokens : Tree → List Token
  | .null => [.null]
  | .bool value => [.bool value]
  | .number numeral _ => [.number numeral]
  | .string spelling => [spelling.token]
  | .array elements => .openBracket :: Tree.elementTokens false elements
  | .object members => .openBrace :: Tree.memberTokens false members

/-- The tokens of the elements of an array, up to and with the closing bracket. A comma
stands in front of each but the first. -/
def Tree.elementTokens (started : Bool) : List Tree → List Token
  | [] => [.closeBracket]
  | element :: others =>
    (if started then [.comma] else []) ++ (element.tokens ++ Tree.elementTokens true others)

/-- The tokens of the members of an object, up to and with the closing brace. -/
def Tree.memberTokens (started : Bool) : List (Spelling × Tree) → List Token
  | [] => [.closeBrace]
  | (name, value) :: others =>
    (if started then [.comma] else []) ++
      (name.token :: .colon :: (value.tokens ++ Tree.memberTokens true others))

end

/-- The text is one of the tree. -/
def Tree.Spells (tree : Tree) (text : String) : Prop := Token.SpellAll tree.tokens text.toList

/-! ## What trees say -/

/-- The numeral is written as an integer and denotes it. Minus zero is no integer. -/
structure Numeral.Denotes (numeral : Numeral) (value : Int) : Prop where
  fraction : numeral.fraction = []
  exponent : numeral.exponent = none
  value : value =
    if numeral.negative then -(Digit.value numeral.whole : Int) else Digit.value numeral.whole
  notMinusZero : ¬(numeral.negative ∧ Digit.value numeral.whole = 0)

namespace Tree

/-- The tree is an integer. -/
inductive IsInteger : Tree → Int → Prop where
  | number {numeral : Numeral} (proper : numeral.Proper) {value : Int}
      (denotes : numeral.Denotes value) : IsInteger (.number numeral proper) value

/-- The tree means a truth value. -/
def MeansTruth (tree : Tree) (value : Bool) : Prop := tree = bool value

/-- The tree means a word without sign. -/
def MeansUnsigned (tree : Tree) (word : Word) : Prop := tree.IsInteger word.toNat

/-- The tree means a word with sign, or that there is none. -/
inductive MeansSigned : Tree → Option Word → Prop where
  | nothing : MeansSigned null none
  | integer {tree : Tree} {word : Word} (isInteger : tree.IsInteger word.toInt) :
      MeansSigned tree (some word)

/-- The tree can be a record with fields of these names: an object that gives no field twice,
or an array of no more elements than there are fields. -/
def IsRecord (names : List String) : Tree → Prop
  | object members => ∀ name ∈ names, (members.map fun member => member.1.content).count name ≤ 1
  | array elements => elements.length ≤ names.length
  | _ => False

instance (names : List String) : (tree : Tree) → Decidable (tree.IsRecord names)
  | object members => inferInstanceAs (Decidable (∀ name ∈ names,
      (members.map fun member => member.1.content).count name ≤ 1))
  | array elements => inferInstanceAs (Decidable (elements.length ≤ names.length))
  | null | bool _ | number _ _ | string _ => isFalse id

/-- The parts of a record by name. The elements of an array stand for the fields in order. -/
def parts (names : List String) : Tree → List (String × Tree)
  | object members => members.map fun member => (member.1.content, member.2)
  | array elements => names.zip elements
  | _ => []

/-- What a record gives for a field, if anything. -/
def part? (names : List String) (tree : Tree) (name : String) : Option Tree :=
  (tree.parts names).lookup name

end Tree

/-- The value is what a part means, or a default if there is no part. -/
inductive Given {α : Type} (means : Tree → α → Prop) (default : α) : Option Tree → α → Prop where
  | omitted : Given means default none default
  | given {part : Tree} {value : α} (meant : means part value) :
      Given means default (some part) value

section Given

variable {α : Type} {means : Tree → α → Prop} {default value : α}

/-- Where a part is given, the value is what the part means. -/
@[simp] theorem given_some_iff {part : Tree} :
    Given means default (some part) value ↔ means part value :=
  ⟨fun | .given meant => meant, .given⟩

/-- Where no part is given, the value is the default. -/
@[simp] theorem given_none_iff : Given means default none value ↔ value = default :=
  ⟨fun | .omitted => rfl, fun same => same ▸ .omitted⟩

end Given

/-! ## Every tree has a text -/

/-- What can be written piece by piece can be written as a whole. -/
theorem Piece.exists_texts {pieces : List Piece}
    (writable : ∀ piece ∈ pieces, ∃ text, piece.Spells text) :
    ∃ texts, List.Forall₂ Piece.Spells pieces texts := by
  induction pieces with
  | nil => exact ⟨[], .nil⟩
  | cons piece pieces others =>
    obtain ⟨text, spelled⟩ := writable piece List.mem_cons_self
    obtain ⟨texts, rest⟩ := others fun other among => writable other (List.mem_cons_of_mem _ among)
    exact ⟨text :: texts, .cons spelled rest⟩

/-- Every proper numeral can be written. -/
theorem Numeral.Proper.exists_text {numeral : Numeral} (proper : numeral.Proper) :
    ∃ text, (Token.number numeral).Spells text := by
  have ending : ∃ ending, Exponent.Spells numeral.exponent ending := by
    cases numeral.exponent with
    | none => exact ⟨_, .none⟩
    | some exponent =>
      have some : Exponent.signs exponent.negative ≠ [] := by cases exponent.negative <;> decide
      have signed := List.head_mem some
      exact ⟨_, .some List.mem_cons_self signed⟩
  obtain ⟨ending, spelled⟩ := ending
  exact ⟨_, .number proper (.digits spelled)⟩

/-- Every string can be written. -/
theorem Spelling.exists_text (spelling : Spelling) : ∃ text, spelling.token.Spells text := by
  obtain ⟨texts, spelled⟩ := Piece.exists_texts spelling.writable
  exact ⟨_, .string spelled⟩

/-- Characters that are written as themselves denote themselves. -/
theorem Piece.denote_chars (content : List Char) : Denote (content.map .char) content := by
  induction content with
  | nil => exact .nil
  | cons char content others => exact .char char others

/-- The character stands for itself in a string. -/
def Piece.IsPlain (char : Char) : Prop := 0x20 ≤ char.toNat ∧ char ≠ '"' ∧ char ≠ '\\'

instance (char : Char) : Decidable (Piece.IsPlain char) :=
  inferInstanceAs (Decidable (0x20 ≤ char.toNat ∧ char ≠ '"' ∧ char ≠ '\\'))

/-- All of the characters stand for themselves. -/
def Piece.ArePlain (content : List Char) : Prop := ∀ char ∈ content, IsPlain char

instance (content : List Char) : Decidable (Piece.ArePlain content) :=
  List.decidableBAll Piece.IsPlain content

/-- A character that stands for itself is spelled by itself. -/
theorem Piece.IsPlain.spells {char : Char} (plain : IsPlain char) :
    Spells (.char char) [char] :=
  have ⟨printable, noQuote, noBackslash⟩ := plain
  .plain printable noQuote noBackslash

/-- Every piece of a content of plain characters can be written. -/
theorem Piece.writable_chars {content : List Char} (plain : ArePlain content) :
    ∀ piece ∈ content.map Piece.char, ∃ text, piece.Spells text :=
  List.forall_mem_map.2 fun char among => ⟨[char], (plain char among).spells⟩

/-- A content of plain characters is spelled by one text for each character, which consists of it.
-/
theorem Piece.spells_chars {content : List Char} (plain : ArePlain content) :
    List.Forall₂ Spells (content.map .char) (content.map fun char => [char]) := by
  rw [List.forall₂_map_left_iff, List.forall₂_map_right_iff, List.forall₂_same]
  exact fun char among => (plain char among).spells

/-- A string that is written as it is. -/
def Spelling.plain (content : String) (plain : Piece.ArePlain content.toList) : Spelling where
  content := content
  pieces := content.toList.map .char
  denote := Piece.denote_chars content.toList
  writable := Piece.writable_chars plain

/-- A plain content between quotes spells the string of this content. -/
theorem Spelling.plain_spells (content : String) (plain : Piece.ArePlain content.toList) :
    (Spelling.plain content plain).token.Spells ('"' :: (content.toList ++ ['"'])) := by
  have together : (content.toList.map fun char => [char]).flatten = content.toList := by
    rw [← List.flatMap_def, List.flatMap_singleton']
  rw [← together]
  exact .string (Piece.spells_chars plain)

/-- The row of tokens can be written. -/
def Token.Writable (tokens : List Token) : Prop := ∀ token ∈ tokens, ∃ text, token.Spells text

/-- Two rows of tokens can be written together just if each of them can be written. -/
theorem Token.writable_append {left right : List Token} :
    Writable (left ++ right) ↔ Writable left ∧ Writable right :=
  List.forall_mem_append

/-- A row of tokens can be written just if its first token has a text and the others can be written.
-/
theorem Token.writable_cons {token : Token} {others : List Token} :
    Writable (token :: others) ↔ (∃ text, token.Spells text) ∧ Writable others :=
  List.forall_mem_cons

/-- Tokens that can be written one by one can be written in a row. -/
theorem Token.Writable.exists_text {tokens : List Token} (writable : Writable tokens) :
    ∃ text, SpellAll tokens text := by
  induction tokens with
  | nil => exact ⟨[], .nil⟩
  | cons token tokens others =>
    obtain ⟨⟨written, spelled⟩, rest⟩ := Token.writable_cons.1 writable
    obtain ⟨text, restSpelled⟩ := others rest
    exact ⟨written ++ text, .token spelled restSpelled⟩

mutual

/-- The tokens of every tree can be written.

Proof: by recursion over the tree, together with the lists of elements and of members in it. -/
theorem Tree.writable_tokens : ∀ tree : Tree, Token.Writable tree.tokens
  | .null => Token.writable_cons.2 ⟨⟨_, .null⟩, List.forall_mem_nil _⟩
  | .bool true => Token.writable_cons.2 ⟨⟨_, .true⟩, List.forall_mem_nil _⟩
  | .bool false => Token.writable_cons.2 ⟨⟨_, .false⟩, List.forall_mem_nil _⟩
  | .number _ proper => Token.writable_cons.2 ⟨proper.exists_text, List.forall_mem_nil _⟩
  | .string spelling => Token.writable_cons.2 ⟨spelling.exists_text, List.forall_mem_nil _⟩
  | .array elements =>
    Token.writable_cons.2 ⟨⟨_, .openBracket⟩, Tree.writable_elementTokens false elements⟩
  | .object members =>
    Token.writable_cons.2 ⟨⟨_, .openBrace⟩, Tree.writable_memberTokens false members⟩

/-- The tokens of every list of elements can be written, whether or not others stand before them. -/
theorem Tree.writable_elementTokens (started : Bool) :
    ∀ elements : List Tree, Token.Writable (Tree.elementTokens started elements)
  | [] => Token.writable_cons.2 ⟨⟨_, .closeBracket⟩, List.forall_mem_nil _⟩
  | element :: others => by
    have rest := Token.writable_append.2
      ⟨element.writable_tokens, Tree.writable_elementTokens true others⟩
    cases started with
    | false => exact rest
    | true => exact Token.writable_cons.2 ⟨⟨_, .comma⟩, rest⟩

/-- The tokens of every list of members can be written, whether or not others stand before them. -/
theorem Tree.writable_memberTokens (started : Bool) :
    ∀ members : List (Spelling × Tree), Token.Writable (Tree.memberTokens started members)
  | [] => Token.writable_cons.2 ⟨⟨_, .closeBrace⟩, List.forall_mem_nil _⟩
  | (name, value) :: others => by
    have rest := Token.writable_append.2
      ⟨value.writable_tokens, Tree.writable_memberTokens true others⟩
    have member := Token.writable_cons.2
      ⟨name.exists_text, Token.writable_cons.2 ⟨⟨_, .colon⟩, rest⟩⟩
    cases started with
    | false => exact member
    | true => exact Token.writable_cons.2 ⟨⟨_, .comma⟩, member⟩

end

/-- Every tree has a text. -/
theorem Tree.exists_text (tree : Tree) : ∃ text, tree.Spells text := by
  obtain ⟨text, spelled⟩ := tree.writable_tokens.exists_text
  refine ⟨String.ofList text, ?_⟩
  rw [Spells, String.toList_ofList]
  exact spelled

end Datapath.Json
