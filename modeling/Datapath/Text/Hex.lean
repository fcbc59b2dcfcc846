import Datapath.Word

/-!
# Hexadecimal text of words

A word is written as sixteen lower-case digits of its unsigned value, so a
negative word shows its two's complement. The short form leaves out leading
zeros and keeps the last digit; padding it back to sixteen gives the long form.
-/

namespace Datapath.Text.Hex

/-- The last `count` hexadecimal digits of a number, the most significant one first. -/
def digits : Nat → Nat → List Char
  | 0, _ => []
  | count + 1, value => digits count (value / 16) ++ [Nat.digitChar (value % 16)]

/-- The requested number of digits is written, whatever the value. -/
theorem length_digits (count value : Nat) : (digits count value).length = count := by
  induction count generalizing value with
  | zero => rfl
  | succ count inductionHypothesis => simp [digits, inductionHypothesis]

/-- A list of digits without its leading zeros; the last digit always stays. -/
def trim : List Char → List Char
  | [] => []
  | [last] => [last]
  | '0' :: rest => trim rest
  | first :: rest => first :: rest

/-- All sixteen digits of a word, after the mark of the notation. -/
def long (word : Word) : String := "0x" ++ String.ofList (digits 16 word.toNat)

/-- The digits of a word from its first significant one, after the mark of the notation. -/
def short (word : Word) : String := "0x" ++ String.ofList (trim (digits 16 word.toNat))

end Datapath.Text.Hex
