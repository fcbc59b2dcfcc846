import Datapath.Json.Numeral

/-!
# Tokens of a document

A token is a mark, a word, a numeral or a string. Besides the whole tokens there
are the ends of broken texts: a word, numeral or string that the end of the text
cut off, and a place where no token can start or go on. Nothing follows a broken
token.

A string is kept in pieces. An escaped code unit is a piece of its own, because
whether it pairs with its neighbour matters to a reader that decodes the string
and not to one that passes over it.
-/

namespace Datapath.Json

/-- What is wrong with a text that is not a document. -/
inductive Defect where
  /-- The text ended too early. -/
  | truncated
  /-- A character stands where none like it may. -/
  | malformed
deriving DecidableEq, Repr

/-- A part of a string. -/
inductive Piece where
  /-- A character that stands for itself, or one escaped by a letter. -/
  | char (value : Char)
  /-- A 16-bit code unit escaped by its number. -/
  | unit (value : Nat)
deriving DecidableEq, Repr

/-- How a string ends. -/
inductive Ending where
  | closed
  | broken (defect : Defect)
deriving DecidableEq, Repr

/-- A token, or the point at which the text breaks. -/
inductive Token where
  | openBracket
  | closeBracket
  | openBrace
  | closeBrace
  | comma
  | colon
  | null
  | bool (value : Bool)
  | number (numeral : Numeral)
  | string (pieces : List Piece) (ending : Ending)
  /-- The text ends within one of the three words. -/
  | cutWord
  /-- The text ends within a numeral. -/
  | cutNumber
  /-- No token starts here, or a word or numeral goes on as it must not. -/
  | stray
deriving DecidableEq, Repr

namespace Piece

/-- A unit that opens a pair, of which the other half must follow. -/
def opensPair (value : Nat) : Bool := 0xD800 ≤ value && value ≤ 0xDBFF

/-- A unit that closes a pair. -/
def closesPair (value : Nat) : Bool := 0xDC00 ≤ value && value ≤ 0xDFFF

/-- The character of a pair. -/
def ofPair (first second : Nat) : Char :=
  Char.ofNat ((first - 0xD800) * 0x400 + (second - 0xDC00) + 0x10000)

/-- The characters of a string. The first problem counts: a unit that closes no
pair, a unit whose other half does not follow, or the end of a broken string. A
pair that the end of the text cuts off is cut off, not wrong. -/
def decode : List Piece → Ending → Except Defect (List Char)
  | [], .closed => .ok []
  | [], .broken defect => .error defect
  | char value :: rest, ending => (decode rest ending).map (value :: ·)
  | unit value :: rest, ending =>
    if closesPair value then .error .malformed
    else if opensPair value then
      match rest with
      | unit second :: more =>
        if closesPair second then (decode more ending).map (ofPair value second :: ·)
        else .error .malformed
      | char _ :: _ => .error .malformed
      | [] =>
        match ending with
        | .broken .truncated => .error .truncated
        | _ => .error .malformed
    else (decode rest ending).map (Char.ofNat value :: ·)

end Piece
end Datapath.Json
