/-!
# Shortest decimals of floating-point numbers

A positive floating-point number is a mantissa times a power of two. Every real
number closer to it than to its neighbours rounds to it, and the two midpoints
do so as well when the mantissa is even. The shortest decimal is the one with
the fewest digits among those; where several have as few, it is the nearest.

The search tries one digit, then two, and so on. Decimals with a given number of
digits form a grid, and if any point of the grid rounds to the number, then one
of the two grid points around the number does. All comparisons are between
natural numbers, after both sides have been multiplied by a common denominator.
-/

namespace Datapath.Decimal

/-- A number of the form `mantissa * 2 ^ exponent` between its two neighbours. -/
structure Binary where
  mantissa : Nat
  exponent : Int
  /-- The next number below is only half as far away as the next one above. -/
  closeBelow : Bool

/-- A decimal of the form `digits * 10 ^ exponent`. -/
structure Scientific where
  digits : Nat
  exponent : Int
deriving DecidableEq, Repr

namespace Binary

/-- The number, in units of a quarter of its last binary place. -/
def centre (number : Binary) : Nat := 4 * number.mantissa

/-- The midpoint toward the neighbour below, in units of a quarter of the last binary place. -/
def lowest (number : Binary) : Nat := number.centre - (if number.closeBelow then 1 else 2)

/-- The midpoint toward the neighbour above, in units of a quarter of the last binary place. -/
def highest (number : Binary) : Nat := number.centre + 2

/-- The factor that turns quarter units into the common denominator, for the grid of
`10 ^ place`. -/
def unit (number : Binary) (place : Int) : Nat :=
  Nat.pow 2 (number.exponent - 2).toNat * Nat.pow 10 (-place).toNat

/-- The factor that turns grid steps into the common denominator, for the grid of `10 ^ place`. -/
def grid (number : Binary) (place : Int) : Nat :=
  Nat.pow 10 place.toNat * Nat.pow 2 (2 - number.exponent).toNat

/-- Whether a multiple of `10 ^ place` rounds to the number. -/
def roundsTo (number : Binary) (place : Int) (steps : Nat) : Bool :=
  let point := steps * number.grid place
  let low := number.lowest * number.unit place
  let high := number.highest * number.unit place
  if number.mantissa % 2 = 0 then low ≤ point && point ≤ high else low < point && point < high

/-- The better of the two multiples of `10 ^ place` around the number, if one of them rounds to it.
Of two equally near ones the even one is taken. -/
def nearest? (number : Binary) (place : Int) : Option Nat :=
  let target := number.centre * number.unit place
  let step := number.grid place
  let below := target / step
  match number.roundsTo place below, number.roundsTo place (below + 1) with
  | false, false => none
  | true, false => some below
  | false, true => some (below + 1)
  | true, true =>
    let downward := target - below * step
    let upward := (below + 1) * step - target
    if downward < upward ∨ (downward = upward ∧ below % 2 = 0) then some below
    else some (below + 1)

/-- More decimal places than any floating-point number has zeros after the point. -/
def deepest : Int := 400

/-- The decimal place of the number's first significant digit. -/
def leadingPlace (number : Binary) : Int :=
  let scaled : Nat := number.centre * number.unit (-deepest) / number.grid (-deepest)
  (Nat.toDigits 10 scaled).length - 1 - deepest

/-- Try the grids from a given place downward. Seventeen digits always suffice. -/
def search (number : Binary) : Nat → Int → Scientific
  | 0, place => ⟨number.centre * number.unit place / number.grid place, place⟩
  | more + 1, place =>
    match number.nearest? place with
    | some steps => ⟨steps, place⟩
    | none => search number more (place - 1)

/-- The shortest decimal that rounds to the number. -/
def shortest (number : Binary) : Scientific := number.search 17 number.leadingPlace

/-- The absolute value of a finite floating-point number, by its bits. -/
def ofFloat (value : Float) : Binary :=
  let bits : Nat := value.toBits.toNat
  let field : Nat := bits / Nat.pow 2 52 % Nat.pow 2 11
  let fraction : Nat := bits % Nat.pow 2 52
  if field = 0 then ⟨fraction, -1074, false⟩
  else ⟨Nat.pow 2 52 + fraction, (field : Int) - 1075, fraction == 0 && field != 1⟩

end Binary

/-- How decimals are laid out. -/
structure Layout where
  /-- The lowest place of the first digit for which all digits stand around the point. -/
  lowestPlace : Int
  /-- The highest place of the first digit for which all digits stand around the point. -/
  highestPlace : Int

/-- Small and moderate numbers have no exponent: from `0.00001` to below `10 ^ 16`. -/
def standardLayout : Layout := ⟨-5, 15⟩

namespace Scientific

/-- Digits around a decimal point, with at least one on each side. -/
def positional (digits : List Char) (place : Int) : List Char :=
  if place < 0 then
    ['0', '.'] ++ List.replicate (-place - 1).toNat '0' ++ digits
  else
    let whole := digits.take (place.toNat + 1)
    let fraction := digits.drop (place.toNat + 1)
    whole ++ List.replicate (place.toNat + 1 - whole.length) '0' ++ ['.'] ++
      (if fraction.isEmpty then ['0'] else fraction)

/-- One digit, the others after a point, and the place of the first one with its sign. -/
def exponential (digits : List Char) (place : Int) : List Char :=
  digits.take 1 ++ (if digits.length ≤ 1 then [] else '.' :: digits.drop 1) ++
    ['e', if place < 0 then '-' else '+'] ++ Nat.toDigits 10 place.natAbs

/-- A list of digits without the zeros at its end. -/
def significant (digits : List Char) : List Char :=
  (digits.reverse.dropWhile (· == '0')).reverse

/-- The text of a positive decimal. -/
def text (layout : Layout) (decimal : Scientific) : List Char :=
  let digits := Nat.toDigits 10 decimal.digits
  let place := decimal.exponent + digits.length - 1
  if layout.lowestPlace ≤ place ∧ place ≤ layout.highestPlace then
    positional (significant digits) place
  else
    exponential (significant digits) place

end Scientific

/-- The shortest decimal of a finite floating-point number as text. Both zeros keep their sign. -/
def floatText (value : Float) : String :=
  let sign := if Nat.pow 2 63 ≤ value.toBits.toNat then ['-'] else []
  let number := Binary.ofFloat value
  String.ofList (sign ++
    if number.mantissa = 0 then ['0', '.', '0']
    else number.shortest.text standardLayout)

end Datapath.Decimal
