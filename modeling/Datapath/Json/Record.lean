import Datapath.Json.Lexer
import Datapath.Json.Skip
import Datapath.Word

/-!
# Reading records

A reader takes the tokens of one value and returns what the value means. It
always takes at least one token, which is why reading comes to an end.

A record with known fields may be written as an object or as an array. In an
object each known field may occur once, in any order, and members of other names
are passed over. An array gives the fields in their own order. Fields that are
left out keep the value they have in the initial record.
-/

namespace Datapath.Json

/-- The tokens after a value, fewer than before it. -/
abbrev Rest (tokens : List Token) := { rest : List Token // rest.length < tokens.length }

/-- Reads one value. -/
abbrev Reader (α : Type) := (tokens : List Token) → Except Problem (α × Rest tokens)

namespace Reader

/-- Read a value that is a single token. -/
def single {α : Type} (meaning : Token → Except Problem α) : Reader α
  | [] => .error .truncated
  | token :: rest => (meaning token).map fun value => (value, ⟨rest, Nat.lt_succ_self _⟩)

/-- Read a truth value. -/
def boolean : Reader Bool :=
  single fun token =>
    match token with
    | .bool value => .ok value
    | other => .error (.unexpected .boolean other)

/-- The integer that a numeral denotes, within bounds. -/
def integerWithin (expected : Expected) (lowest highest : Int) (numeral : Numeral) :
    Except Problem Int :=
  match numeral.number? with
  | some (.integer value) =>
    if lowest ≤ value ∧ value ≤ highest then .ok value
    else .error (.mismatch (.outOfRange value expected))
  | some (.floating value) => .error (.mismatch (.wrongType (.floating value) expected))
  | none => .error .malformed

/-- Read an unsigned word. -/
def unsignedWord : Reader Word :=
  single fun token =>
    match token with
    | .number numeral =>
      (integerWithin .unsignedWord 0 (BitVec.allOnes 64).toNat numeral).map (BitVec.ofInt 64)
    | other => .error (.unexpected .unsignedWord other)

/-- Read a signed word, or nothing where the document says so. -/
def optionalSignedWord : Reader (Option Word) :=
  single fun token =>
    match token with
    | .null => .ok none
    | .number numeral =>
      (integerWithin .signedWord (BitVec.intMin 64).toInt (BitVec.intMax 64).toInt numeral).map
        fun value => some (BitVec.ofInt 64 value)
    | other => .error (.unexpected .signedWord other)

/-- Pass over a value, whatever it is. -/
def skip (tokens : List Token) : Except Problem (Rest tokens) :=
  match success : skipFrom .value [] tokens with
  | .ok rest => .ok ⟨rest, Nat.lt_of_succ_le (length_of_skipFrom success)⟩
  | .error problem => .error problem

end Reader

/-- A known field: its name, and how its value is read into a record. -/
structure Field (ρ : Type) where
  name : String
  read : ρ → Reader ρ

/-- The field of a given name whose value is read by `reader` and put into a record by `store`. -/
def Field.of {α ρ : Type} (name : String) (reader : Reader α) (store : ρ → α → ρ) : Field ρ where
  name
  read record tokens :=
    match reader tokens with
    | .ok (value, rest) => .ok (store record value, rest)
    | .error problem => .error problem

namespace Record

variable {ρ : Type}

/-- Read the elements of an array as fields, up to and with the closing bracket.
Every element but the first stands after a comma, and there are no more elements
than fields. -/
def elements (started : Bool) (record : ρ) :
    List (Field ρ) → (tokens : List Token) → Except Problem (ρ × Rest tokens)
  | _, [] => .error .truncated
  | _, .closeBracket :: rest => .ok (record, ⟨rest, Nat.lt_succ_self _⟩)
  | [], _ :: _ => .error .malformed
  | field :: fields, token :: rest =>
    if started then
      match token with
      | .comma =>
        match field.read record rest with
        | .ok (next, ⟨after, shorter⟩) =>
          match elements true next fields after with
          | .ok (last, ⟨final, shorterStill⟩) =>
            .ok (last, ⟨final, by simp only [List.length_cons]; omega⟩)
          | .error problem => .error problem
        | .error problem => .error problem
      | _ => .error .malformed
    else
      match field.read record (token :: rest) with
      | .ok (next, ⟨after, shorter⟩) =>
        match elements true next fields after with
        | .ok (last, ⟨final, shorterStill⟩) => .ok (last, ⟨final, by omega⟩)
        | .error problem => .error problem
      | .error problem => .error problem

/-- Read a member after its name: the colon, and the value as the name demands. A
known field that was seen before is refused ahead of everything else. -/
def memberValue (fields : List (Field ρ)) (seen : List String) (record : ρ) (name : String)
    (tokens : List Token) : Except Problem (ρ × Rest tokens) :=
  let known := fields.find? fun field => field.name == name
  if known.isSome && seen.contains name then .error (.mismatch (.duplicateField name))
  else
    match tokens with
    | .colon :: rest =>
      match known with
      | some field =>
        match field.read record rest with
        | .ok (next, ⟨after, shorter⟩) => .ok (next, ⟨after, Nat.lt_succ_of_lt shorter⟩)
        | .error problem => .error problem
      | none =>
        match Reader.skip rest with
        | .ok ⟨after, shorter⟩ => .ok (record, ⟨after, Nat.lt_succ_of_lt shorter⟩)
        | .error problem => .error problem
    | [] => .error .truncated
    | _ :: _ => .error .malformed

/-- Read the members of an object from a name onward, up to and with the closing brace. -/
def members (fields : List (Field ρ)) (seen : List String) (record : ρ) (tokens : List Token) :
    Except Problem (ρ × Rest tokens) :=
  match tokens with
  | [] => .error .truncated
  | .string pieces ending :: rest =>
    match Piece.decode pieces ending with
    | .error defect => .error (.defect defect)
    | .ok content =>
      let name := String.ofList content
      match memberValue fields seen record name rest with
      | .error problem => .error problem
      | .ok (_, ⟨[], _⟩) => .error .truncated
      | .ok (next, ⟨.closeBrace :: after, shorter⟩) =>
        .ok (next, ⟨after, by simp only [List.length_cons] at *; omega⟩)
      | .ok (next, ⟨.comma :: after, shorter⟩) =>
        match members fields (name :: seen) next after with
        | .ok (last, ⟨final, shorterStill⟩) =>
          .ok (last, ⟨final, by simp only [List.length_cons] at *; omega⟩)
        | .error problem => .error problem
      | .ok (_, ⟨_ :: _, _⟩) => .error .malformed
  | _ :: _ => .error .malformed
termination_by tokens.length
decreasing_by simp only [List.length_cons] at *; omega

/-- Read a record. -/
def reader (title : String) (fields : List (Field ρ)) (initial : ρ) : Reader ρ
  | [] => .error .truncated
  | .openBracket :: rest =>
    match elements false initial fields rest with
    | .ok (record, ⟨after, shorter⟩) => .ok (record, ⟨after, Nat.lt_succ_of_lt shorter⟩)
    | .error problem => .error problem
  | .openBrace :: .closeBrace :: rest =>
    .ok (initial, ⟨rest, by simp only [List.length_cons]; omega⟩)
  | .openBrace :: rest =>
    match members fields [] initial rest with
    | .ok (record, ⟨after, shorter⟩) => .ok (record, ⟨after, Nat.lt_succ_of_lt shorter⟩)
    | .error problem => .error problem
  | token :: _ => .error (.unexpected (.record title) token)

end Record

/-- Read a whole text as one value. Nothing but blanks may follow the value. -/
def Reader.ofText {α : Type} (reader : Reader α) (text : String) : Except Problem α :=
  match reader (Lexer.tokens text.toList) with
  | .ok (value, ⟨[], _⟩) => .ok value
  | .ok (_, ⟨_ :: _, _⟩) => .error .malformed
  | .error problem => .error problem

end Datapath.Json
