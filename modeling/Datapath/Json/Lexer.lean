import Datapath.Json.Token

/-!
# From characters to tokens

`tokens` cuts a text into tokens, leaving out blanks. It always answers: a text
that breaks off or goes wrong ends in a broken token. Each scanner returns what
it found together with the characters that it did not take, and those are never
more than it was given, which is why the cutting comes to an end.
-/

namespace Datapath.Json.Lexer

/-- The four characters that may stand between tokens. -/
def isBlank (char : Char) : Bool :=
  char == ' ' || char == '\t' || char == '\n' || char == '\r'

/-- A token that starts at the head of a text. -/
inductive Scan where
  /-- A whole token and what follows it. -/
  | whole (token : Token) (rest : List Char)
  /-- A token that breaks, after which nothing is looked at. -/
  | broken (token : Token)

/-- The characters that a scan leaves. -/
def Scan.rest : Scan → List Char
  | whole _ rest => rest
  | broken _ => []

/-! ## Words -/

/-- Match the remaining letters of a word, one by one. What follows the last letter is
not looked at. -/
def word (token : Token) : List Char → List Char → Scan
  | [], rest => .whole token rest
  | _ :: _, [] => .broken .cutWord
  | letter :: letters, char :: rest =>
    if char = letter then word token letters rest else .broken .stray

/-! ## Strings -/

/-- The value of a hexadecimal digit of either case. -/
def hexDigit? (char : Char) : Option Nat :=
  if '0' ≤ char ∧ char ≤ '9' then some (char.toNat - '0'.toNat)
  else if 'a' ≤ char ∧ char ≤ 'f' then some (char.toNat - 'a'.toNat + 10)
  else if 'A' ≤ char ∧ char ≤ 'F' then some (char.toNat - 'A'.toNat + 10)
  else none

/-- The code unit that four hexadecimal digits denote. -/
def codeUnit? (a b c d : Char) : Option Nat := do
  let high := (← hexDigit? a) * 16 + (← hexDigit? b)
  let low := (← hexDigit? c) * 16 + (← hexDigit? d)
  return high * 256 + low

/-- The character that a letter after a backslash stands for. -/
def escaped? : Char → Option Char
  | '"' => some '"'
  | '\\' => some '\\'
  | '/' => some '/'
  | 'b' => some '\x08'
  | 'f' => some '\x0c'
  | 'n' => some '\n'
  | 'r' => some '\r'
  | 't' => some '\t'
  | _ => none

/-- The pieces of a string, how it ends, and what follows it. -/
structure StringScan where
  pieces : List Piece
  ending : Ending
  rest : List Char

namespace StringScan

/-- A string that breaks at this point. -/
def stop (defect : Defect) : StringScan := ⟨[], .broken defect, []⟩

/-- Put a piece in front. -/
def cons (piece : Piece) (scan : StringScan) : StringScan :=
  { scan with pieces := piece :: scan.pieces }

/-- What is wrong with a numbered escape that lacks four characters: the text is
cut off if fewer than four bytes remain, and wrong otherwise. -/
def shortEscape (remaining : List Char) : Defect :=
  if (String.ofList remaining).utf8ByteSize < 4 then .truncated else .malformed

end StringScan

/-- Scan a string from after its opening quote. Control characters must be escaped. -/
def string : List Char → StringScan
  | [] => .stop .truncated
  | '"' :: rest => ⟨[], .closed, rest⟩
  | '\\' :: 'u' :: a :: b :: c :: d :: rest =>
    match codeUnit? a b c d with
    | some value => (string rest).cons (.unit value)
    | none => .stop .malformed
  | '\\' :: 'u' :: short => .stop (StringScan.shortEscape short)
  | '\\' :: letter :: rest =>
    match escaped? letter with
    | some char => (string rest).cons (.char char)
    | none => .stop .malformed
  | '\\' :: [] => .stop .truncated
  | char :: rest =>
    if char.toNat < 0x20 then .stop .malformed else (string rest).cons (.char char)

/-- A string leaves no more than it was given. -/
theorem length_string_rest (text : List Char) : (string text).rest.length ≤ text.length := by
  fun_induction string text <;> simp_all [StringScan.stop, StringScan.cons] <;> omega

/-! ## Numerals -/

/-- The digits at the head of a text, and what follows them. -/
def digits : List Char → List Digit × List Char
  | [] => ([], [])
  | char :: rest =>
    match Digit.ofChar? char with
    | some digit =>
      let (more, after) := digits rest
      (digit :: more, after)
    | none => ([], char :: rest)

/-- Digits leave no more than they were given. -/
theorem length_digits_rest (text : List Char) : (digits text).2.length ≤ text.length := by
  induction text with
  | nil => exact Nat.le_refl _
  | cons char rest inductionHypothesis =>
    simp only [digits]
    split
    · exact Nat.le_succ_of_le inductionHypothesis
    · exact Nat.le_refl _

/-- What a missing digit means: the text is cut off, or something else stands in its place. -/
def missingDigit : List Char → Token
  | [] => .cutNumber
  | _ :: _ => .stray

/-- The digits of an exponent after its sign. -/
def exponentDigits (numeral : Numeral) (negative : Bool) (text : List Char) : Scan :=
  match digits text with
  | ([], rest) => .broken (missingDigit rest)
  | (found, rest) => .whole (.number { numeral with exponent := some ⟨negative, found⟩ }) rest

/-- An exponent after its letter. Its sign may be left out. -/
def signedExponent (numeral : Numeral) : List Char → Scan
  | '-' :: rest => exponentDigits numeral true rest
  | '+' :: rest => exponentDigits numeral false rest
  | rest => exponentDigits numeral false rest

/-- The exponent of a numeral, if one follows. -/
def exponent (numeral : Numeral) : List Char → Scan
  | 'e' :: rest => signedExponent numeral rest
  | 'E' :: rest => signedExponent numeral rest
  | rest => .whole (.number numeral) rest

/-- The fraction of a numeral, if one follows, and then its exponent. -/
def fraction (numeral : Numeral) : List Char → Scan
  | '.' :: text =>
    match digits text with
    | ([], rest) => .broken (missingDigit rest)
    | (found, rest) => exponent { numeral with fraction := found } rest
  | rest => exponent numeral rest

/-- A numeral after its first digit. A zero in front of another digit is refused. -/
def numeral (negative : Bool) (first : Digit) (text : List Char) : Scan :=
  match digits text with
  | (others, rest) =>
    if first = 0 ∧ others ≠ [] then .broken .stray
    else fraction { negative, whole := first :: others } rest

/-- A numeral after a minus sign. -/
def negativeNumeral : List Char → Scan
  | [] => .broken .cutNumber
  | char :: rest =>
    match Digit.ofChar? char with
    | some first => numeral true first rest
    | none => .broken .stray

/-- The digits of an exponent leave no more than they were given. -/
theorem length_exponentDigits_rest (found : Numeral) (negative : Bool) (text : List Char) :
    (exponentDigits found negative text).rest.length ≤ text.length := by
  have bound := length_digits_rest text
  unfold exponentDigits
  split
  · simp [Scan.rest]
  · rename_i scanned
    rw [scanned] at bound
    exact bound

/-- An exponent leaves no more than it was given. -/
theorem length_exponent_rest (found : Numeral) (text : List Char) :
    (exponent found text).rest.length ≤ text.length := by
  have signed (remaining : List Char) :
      (signedExponent found remaining).rest.length ≤ remaining.length := by
    unfold signedExponent
    split
    · exact Nat.le_succ_of_le (length_exponentDigits_rest ..)
    · exact Nat.le_succ_of_le (length_exponentDigits_rest ..)
    · exact length_exponentDigits_rest ..
  unfold exponent
  split
  · exact Nat.le_succ_of_le (signed _)
  · exact Nat.le_succ_of_le (signed _)
  · exact Nat.le_refl _

/-- A fraction leaves no more than it was given. -/
theorem length_fraction_rest (found : Numeral) (text : List Char) :
    (fraction found text).rest.length ≤ text.length := by
  unfold fraction
  split
  · rename_i remaining
    have bound := length_digits_rest remaining
    split
    · simp [Scan.rest]
    · rename_i scanned
      rw [scanned] at bound
      exact Nat.le_succ_of_le (Nat.le_trans (length_exponent_rest ..) bound)
  · exact length_exponent_rest ..

/-- A numeral leaves no more than it was given. -/
theorem length_numeral_rest (negative : Bool) (first : Digit) (text : List Char) :
    (numeral negative first text).rest.length ≤ text.length := by
  have bound := length_digits_rest text
  simp only [numeral]
  split
  · simp [Scan.rest]
  · exact Nat.le_trans (length_fraction_rest ..) bound

/-- A numeral after its sign leaves no more than it was given. -/
theorem length_negativeNumeral_rest (text : List Char) :
    (negativeNumeral text).rest.length ≤ text.length := by
  unfold negativeNumeral
  split
  · simp [Scan.rest]
  · split
    · exact Nat.le_succ_of_le (length_numeral_rest ..)
    · simp [Scan.rest]

/-! ## Texts -/

/-- The token that starts with a given character, which is no blank. -/
def token (first : Char) (rest : List Char) : Scan :=
  match first with
  | '[' => .whole .openBracket rest
  | ']' => .whole .closeBracket rest
  | '\x7b' => .whole .openBrace rest
  | '\x7d' => .whole .closeBrace rest
  | ',' => .whole .comma rest
  | ':' => .whole .colon rest
  | 'n' => word .null ['u', 'l', 'l'] rest
  | 't' => word (.bool true) ['r', 'u', 'e'] rest
  | 'f' => word (.bool false) ['a', 'l', 's', 'e'] rest
  | '"' =>
    match string rest with
    | ⟨pieces, .closed, after⟩ => .whole (.string pieces .closed) after
    | ⟨pieces, ending, _⟩ => .broken (.string pieces ending)
  | '-' => negativeNumeral rest
  | other =>
    match Digit.ofChar? other with
    | some digit => numeral false digit rest
    | none => .broken .stray

/-- The word, once its first letter is known, leaves no more than it was given. -/
theorem length_word_rest (found : Token) (letters text : List Char) :
    (word found letters text).rest.length ≤ text.length := by
  induction letters generalizing text with
  | nil => exact Nat.le_refl _
  | cons letter letters inductionHypothesis =>
    cases text with
    | nil => exact Nat.le_refl _
    | cons char rest =>
      simp only [word]
      split
      · exact Nat.le_succ_of_le (inductionHypothesis rest)
      · exact Nat.zero_le _

/-- A token leaves no more than the characters after its first. -/
theorem length_token_rest (first : Char) (text : List Char) :
    (token first text).rest.length ≤ text.length := by
  unfold token
  split
  case h_7 | h_8 | h_9 => exact length_word_rest ..
  case h_10 =>
    have bound := length_string_rest text
    split
    · rename_i scanned
      rw [scanned] at bound
      exact bound
    · simp [Scan.rest]
  case h_11 => exact length_negativeNumeral_rest ..
  case h_12 =>
    split
    · exact length_numeral_rest ..
    · simp [Scan.rest]
  all_goals exact Nat.le_refl _

/-- The tokens of a text, in order. The list ends at the first token that breaks. -/
def tokens : List Char → List Token
  | [] => []
  | first :: rest =>
    if isBlank first then tokens rest
    else
      match _scanned : token first rest with
      | .whole found after => found :: tokens after
      | .broken found => [found]
termination_by text => text.length
decreasing_by
  · simp
  · have bound := length_token_rest first rest
    rw [_scanned] at bound
    exact Nat.lt_succ_of_le bound

end Datapath.Json.Lexer
