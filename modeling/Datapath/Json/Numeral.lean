/-!
# Numerals of a document

A numeral keeps the digits that stand in the text, so a reader decides what they
mean. One without fraction and exponent that fits a word, signed if it has a
sign and unsigned otherwise, denotes an integer; so does no other, and minus zero
does not either. Any other numeral denotes a floating-point number, unless that
is too large to be one.

The floating-point value is near the exact one, but not always the nearest.
Leading digits are collected as long as they fit 64 bits, and the collected
number is then multiplied or divided by one power of ten.
-/

namespace Datapath.Json

/-- A decimal digit. -/
abbrev Digit := Fin 10

namespace Digit

/-- The digit that a character denotes. -/
def ofChar? (char : Char) : Option Digit :=
  if inside : '0'.toNat ≤ char.toNat ∧ char.toNat ≤ '9'.toNat then
    some ⟨char.toNat - '0'.toNat, by
      have upper : '9'.toNat = '0'.toNat + 9 := rfl
      omega⟩
  else
    none

/-- The character that denotes a digit. -/
def toChar (digit : Digit) : Char := Nat.digitChar digit.val

/-- A digit is read back from its character. -/
theorem ofChar?_toChar : ∀ digit : Digit, ofChar? digit.toChar = some digit := by decide

/-- The number that a row of digits denotes. -/
def value (digits : List Digit) : Nat := digits.foldl (fun total digit => 10 * total + digit.val) 0

end Digit

/-- The power of ten at the end of a numeral. -/
structure Exponent where
  negative : Bool
  digits : List Digit
deriving DecidableEq, Repr

/-- A numeral as it stands in the text; a numeral without decimal point has no fraction digits. -/
structure Numeral where
  negative : Bool
  whole : List Digit
  fraction : List Digit := []
  exponent : Option Exponent := none
deriving DecidableEq, Repr

/-- What a numeral denotes. -/
inductive Number where
  | integer (value : Int)
  | floating (value : Float)

namespace Numeral

/-- Whether the numeral has the form of an integer. -/
def isWhole (numeral : Numeral) : Bool := numeral.fraction.isEmpty && numeral.exponent.isNone

/-- The integer that a numeral of that form denotes: an unsigned one below 2^64, or
a negative one not below -2^63. Minus zero is none. -/
def integer? (numeral : Numeral) : Option Int :=
  let magnitude := Digit.value numeral.whole
  if numeral.isWhole = false then none
  else if numeral.negative then
    if 0 < magnitude ∧ magnitude ≤ Nat.pow 2 63 then some (-magnitude) else none
  else
    if magnitude < Nat.pow 2 64 then some magnitude else none

/-- Collect digits onto a number for as long as it stays below 2^64; also the digits not taken. -/
def collect (collected : Nat) : List Digit → Nat × List Digit
  | [] => (collected, [])
  | digit :: rest =>
    let next := 10 * collected + digit.val
    if next < Nat.pow 2 64 then collect next rest else (collected, digit :: rest)

/-- The largest exponent that is told apart from larger ones. -/
def exponentLimit : Int := Int32.maxValue.toInt

/-- An exponent held within the limits on both sides. -/
def saturate (exponent : Int) : Int := max (-exponentLimit - 1) (min exponentLimit exponent)

/-- The largest power of ten that is a floating-point number. -/
def largestPower : Nat := 308

/-- A power of ten as a floating-point number. -/
def power (exponent : Nat) : Float := OfScientific.ofScientific 1 false exponent

/-- Divide by a power of ten, by the largest one as often as it takes. -/
def divide (value : Float) (exponent : Nat) : Float :=
  if exponent ≤ largestPower then value / power exponent
  else if value == 0 then value
  else divide (value / power largestPower) (exponent - largestPower)
termination_by exponent
decreasing_by simp only [largestPower] at *; omega

/-- Multiply by a power of ten; nothing when the product leaves the floating-point range. -/
def multiply (value : Float) (exponent : Nat) : Option Float :=
  if exponent ≤ largestPower then
    let product := value * power exponent
    if product.isInf then none else some product
  else if value == 0 then some value
  else none

/-- A collected number times a power of ten. -/
def scale (collected : Nat) (exponent : Int) : Option Float :=
  let value := collected.toUInt64.toFloat
  if 0 ≤ exponent then multiply value exponent.toNat
  else some (divide value (-exponent).toNat)

/-- The absolute floating-point value. Whole digits that were not collected move the
decimal point to the right, and collected fraction digits move it to the left. An
exponent past the limit decides by its sign alone, wherever the decimal point is. -/
def magnitude? (numeral : Numeral) : Option Float :=
  let (collectedWhole, restOfWhole) := collect 0 numeral.whole
  let (collected, restOfFraction) := collect collectedWhole numeral.fraction
  let position : Int :=
    restOfWhole.length - (numeral.fraction.length - restOfFraction.length : Nat)
  match numeral.exponent with
  | none => scale collected position
  | some exponent =>
    let power := Digit.value exponent.digits
    if exponentLimit < power then
      if collected ≠ 0 ∧ exponent.negative = false then none else some 0
    else if exponent.negative then scale collected (saturate (position - power))
    else scale collected (saturate (position + power))

/-- What the numeral denotes; nothing when it is too large for any number. -/
def number? (numeral : Numeral) : Option Number :=
  match numeral.integer? with
  | some value => some (.integer value)
  | none =>
    numeral.magnitude?.map fun value => .floating (if numeral.negative then -value else value)

end Numeral
end Datapath.Json
