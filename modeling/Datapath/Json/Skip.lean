import Datapath.Json.Problem

/-!
# Passing over a value

The value of a field that nobody asked for is passed over. Its marks must stand
in the right places and its tokens must be whole, but numerals may be of any
size and strings need not decode. The open arrays and objects are kept on a
stack, so a value may be nested to any depth.
-/

namespace Datapath.Json

/-- An array or object that is still open. -/
inductive Frame where
  | array
  | object
deriving DecidableEq, Repr

/-- What comes next. -/
inductive Place where
  | value
  | key
  /-- Right after a value: a comma, or the end of the innermost frame. -/
  | separator
deriving DecidableEq, Repr

/-- Pass over the tokens of a value, given the frames around it, and return the
tokens after the outermost frame. A numeral that the text cuts off counts as
malformed here, unlike everywhere else. -/
def skipFrom : Place → List Frame → List Token → Except Problem (List Token)
  | .separator, [], rest => .ok rest
  | _, _, [] => .error .truncated
  | .separator, .array :: frames, token :: rest =>
    match token with
    | .comma => skipFrom .value (.array :: frames) rest
    | .closeBracket => skipFrom .separator frames rest
    | _ => .error .malformed
  | .separator, .object :: frames, token :: rest =>
    match token with
    | .comma => skipFrom .key frames rest
    | .closeBrace => skipFrom .separator frames rest
    | _ => .error .malformed
  | .key, frames, token :: rest =>
    match token with
    | .string _ .closed =>
      match rest with
      | .colon :: rest => skipFrom .value (.object :: frames) rest
      | [] => .error .truncated
      | _ :: _ => .error .malformed
    | .string _ (.broken defect) => .error (.defect defect)
    | _ => .error .malformed
  | .value, frames, token :: rest =>
    match token with
    | .null | .bool _ | .number _ | .string _ .closed => skipFrom .separator frames rest
    | .openBracket =>
      match rest with
      | .closeBracket :: rest => skipFrom .separator frames rest
      | rest => skipFrom .value (.array :: frames) rest
    | .openBrace =>
      match rest with
      | .closeBrace :: rest => skipFrom .separator frames rest
      | rest => skipFrom .key frames rest
    | .string _ (.broken defect) => .error (.defect defect)
    | .cutWord => .error .truncated
    | _ => .error .malformed

/-- Passing over takes at least one token where a value or key is due. -/
theorem length_of_skipFrom {place : Place} {frames : List Frame} {tokens rest : List Token}
    (success : skipFrom place frames tokens = .ok rest) :
    rest.length + (if place = .separator then 0 else 1) ≤ tokens.length := by
  fun_induction skipFrom place frames tokens <;> simp_all <;> grind

end Datapath.Json
