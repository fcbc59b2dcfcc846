import Datapath.Decimal.Shortest
import Datapath.Json.Token
import Datapath.Text.Quoted

/-!
# Problems met while reading a document

The first problem met from left to right decides. Either the text is no document
at that point, or it is one whose value there is not what the reader asked for.
A value of the wrong shape is reported once its first token is whole, before
anything after that token is looked at.
-/

namespace Datapath.Json

/-- What a document holds where something else was asked for. -/
inductive Found where
  | null
  | bool (value : Bool)
  | integer (value : Int)
  | floating (value : Float)
  | string (content : List Char)
  | sequence
  | map

/-- What a reader asks for. -/
inductive Expected where
  | boolean
  | unsignedWord
  | signedWord
  /-- A record of a given title, written as an object or as an array of its fields. -/
  | record (title : String)
deriving DecidableEq, Repr

/-- A value that is not what the reader asked for. -/
inductive Mismatch where
  /-- The value has another type. -/
  | wrongType (found : Found) (expected : Expected)
  /-- The value is an integer that does not fit. -/
  | outOfRange (value : Int) (expected : Expected)
  /-- An object gives a field of its record a second time. -/
  | duplicateField (name : String)

/-- The first problem of a document. -/
inductive Problem where
  | defect (defect : Defect)
  | mismatch (mismatch : Mismatch)

/-- A found value as it stands in a message. -/
def Found.text : Found → String
  | null => "null"
  | bool value => "boolean `" ++ toString value ++ "`"
  | integer value => "integer `" ++ toString value ++ "`"
  | floating value => "floating point `" ++ Decimal.floatText value ++ "`"
  | string content => "string " ++ Text.Quoted.text content
  | sequence => "sequence"
  | map => "map"

/-- An expectation as it stands in a message. -/
def Expected.text : Expected → String
  | boolean => "a boolean"
  | unsignedWord => "u64"
  | signedWord => "i64"
  | record title => "struct " ++ title

/-- The text of a mismatch. -/
def Mismatch.message : Mismatch → String
  | wrongType found expected => "invalid type: " ++ found.text ++ ", expected " ++ expected.text
  | outOfRange value expected =>
    "invalid value: integer `" ++ toString value ++ "`, expected " ++ expected.text
  | duplicateField name => "duplicate field `" ++ name ++ "`"

namespace Problem

/-- The text ended too early. -/
abbrev truncated : Problem := .defect .truncated

/-- The text has a character that may not stand there. -/
abbrev malformed : Problem := .defect .malformed

/-- The problem with a token that starts a value of another type than expected,
or no value at all. The token itself must be whole and sound for its type to count. -/
def unexpected (expected : Expected) : Token → Problem
  | .null => .mismatch (.wrongType .null expected)
  | .bool value => .mismatch (.wrongType (.bool value) expected)
  | .number numeral =>
    match numeral.number? with
    | some (.integer value) => .mismatch (.wrongType (.integer value) expected)
    | some (.floating value) => .mismatch (.wrongType (.floating value) expected)
    | none => malformed
  | .string pieces ending =>
    match Piece.decode pieces ending with
    | .ok content => .mismatch (.wrongType (.string content) expected)
    | .error found => .defect found
  | .openBracket => .mismatch (.wrongType .sequence expected)
  | .openBrace => .mismatch (.wrongType .map expected)
  | .cutWord | .cutNumber => truncated
  | .closeBracket | .closeBrace | .comma | .colon | .stray => malformed

end Problem
end Datapath.Json
