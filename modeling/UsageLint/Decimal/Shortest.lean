namespace UsageLint.Decimal

/-!
# Shortest decimals

A finite binary value stands for an interval of numbers: all those that are
rounded to it. Its shortest decimal is the one with the fewest digits in that
interval, and of two such the nearer to the value; halfway between two, it is
the larger. `positional` writes a decimal without an exponent and with at
least one digit on either side of the point.
-/

/-- A finite value that is not negative, `significand * 2 ^ exponent`. -/
structure Binary where
  significand : Nat
  exponent : Int
  /-- The next smaller value is only half as far away as the next larger. -/
  closeBelow : Bool
deriving Repr, DecidableEq

/-- A fraction of two naturals. -/
structure Fraction where
  numerator : Nat
  /-- Never zero. -/
  denominator : Nat
deriving Repr, DecidableEq

/-- Digits, of which the first stands `scale` places before the point. -/
structure Numeral where
  digits : List Nat
  scale : Int
deriving Repr, DecidableEq

namespace Fraction

/-- The fraction `factor * base ^ exponent`. -/
def scaled (factor base : Nat) (exponent : Int) : Fraction :=
  ⟨factor * Nat.pow base exponent.toNat, Nat.pow base (-exponent).toNat⟩

/-- Compare by multiplying crosswise. -/
def compare (left right : Fraction) : Ordering :=
  Ord.compare (left.numerator * right.denominator) (right.numerator * left.denominator)

end Fraction

/-- The number of fractions that 52 bits can tell apart. -/
def fractionSpan : Nat := 0x10000000000000

/-- The number of exponents that 11 bits can tell apart. -/
def exponentSpan : Nat := 0x800

/-- The 52 bits for the fraction. -/
def fractionBits (bits : UInt64) : Nat :=
  bits.toNat % fractionSpan

/-- The 11 bits for the exponent. -/
def exponentBits (bits : UInt64) : Nat :=
  bits.toNat / fractionSpan % exponentSpan

namespace Binary

/-- The magnitude of a finite 64-bit floating-point number. -/
def ofBits (bits : UInt64) : Binary :=
  let exponent : Nat := exponentBits bits
  let fraction : Nat := fractionBits bits
  if exponent = 0 then
    ⟨fraction, -1074, false⟩
  else
    ⟨fractionSpan + fraction, exponent - 1075, fraction == 0 && exponent != 1⟩

/-- The value itself. -/
def value (binary : Binary) : Fraction :=
  .scaled binary.significand 2 binary.exponent

/-- The lower end of the interval. -/
def lowest (binary : Binary) : Fraction :=
  .scaled (4 * binary.significand - if binary.closeBelow then 1 else 2) 2
    (binary.exponent - 2)

/-- The upper end of the interval. -/
def highest (binary : Binary) : Fraction :=
  .scaled (4 * binary.significand + 2) 2 (binary.exponent - 2)

/-- Whether a number is rounded to this value; a tie goes to the even one. -/
def stands (binary : Binary) (number : Fraction) : Bool :=
  let even := binary.significand % 2 == 0
  let above :=
    match number.compare binary.lowest with
    | .gt => true
    | .eq => even
    | .lt => false
  let below :=
    match number.compare binary.highest with
    | .lt => true
    | .eq => even
    | .gt => false
  above && below

/-- The least power of ten above a value, searched from a lower bound upward. -/
def scaleFrom (value : Fraction) : Nat → Int → Int
  | 0, scale => scale
  | steps + 1, scale =>
      match value.compare (.scaled 1 10 scale) with
      | .lt => scale
      | _ => scaleFrom value steps (scale + 1)

/-- The place of the first digit of a positive value. -/
def scale (binary : Binary) : Int :=
  scaleFrom binary.value 640 (-324)

/-- The nearest multiple of a power of ten that stands for this value. -/
def onGrid? (binary : Binary) (power : Int) : Option Nat :=
  let grid := Fraction.scaled 1 10 power
  let lower :=
    (binary.value.numerator * grid.denominator) / (binary.value.denominator * grid.numerator)
  let standsFor := fun (multiple : Nat) =>
    binary.stands (.scaled multiple 10 power)
  let twice := Fraction.mk (2 * binary.value.numerator) binary.value.denominator
  let nearerBelow :=
    twice.compare (.scaled (2 * lower + 1) 10 power) == .lt
  match standsFor lower, standsFor (lower + 1) with
  | true, true => some (if nearerBelow then lower else lower + 1)
  | true, false => some lower
  | false, true => some (lower + 1)
  | false, false => none

/-- The digits of a number, the first one first. -/
def digitsOf (number : Nat) : List Nat :=
  (Nat.toDigits 10 number).map fun digit => digit.toNat - '0'.toNat

/-- The shortest decimal of a value; that of zero has no digits. -/
def shortest (binary : Binary) : Numeral :=
  let scale := if binary.significand = 0 then 0 else binary.scale
  let powers := (List.range 17).map fun (count : Nat) => scale - 1 - count
  match powers.findSome? fun power =>
      (binary.onGrid? power).map fun multiple => (multiple, power) with
  | some (multiple, power) =>
      let digits := digitsOf multiple
      let kept := (digits.reverse.dropWhile (· == 0)).reverse
      ⟨kept, power + digits.length⟩
  | none => ⟨[], 0⟩

end Binary

namespace Numeral

/-- The text of a digit. -/
def digitText (digits : List Nat) : String :=
  String.ofList (digits.map Nat.digitChar)

/-- The text of a numeral, never with an exponent. -/
def positional (numeral : Numeral) : String :=
  let zeros := fun (count : Int) => List.replicate count.toNat 0
  let whole :=
    numeral.digits.take numeral.scale.toNat ++
      zeros (numeral.scale - numeral.digits.length)
  let part :=
    zeros (-numeral.scale) ++ numeral.digits.drop numeral.scale.toNat
  let orZero := fun (digits : List Nat) =>
    if digits.isEmpty then [0] else digits
  digitText (orZero whole) ++ "." ++ digitText (orZero part)

end Numeral

/-- Whether the sign bit of a 64-bit floating-point number is set. -/
def isNegative (bits : UInt64) : Bool :=
  bits.toNat / fractionSpan / exponentSpan == 1

/-- Whether a 64-bit floating-point number is no number. -/
def isNaN (bits : UInt64) : Bool :=
  exponentBits bits + 1 == exponentSpan && fractionBits bits != 0

/-- Whether a 64-bit floating-point number is infinite. -/
def isInfinite (bits : UInt64) : Bool :=
  exponentBits bits + 1 == exponentSpan && fractionBits bits == 0

/--
The text of a 64-bit floating-point number: its shortest decimal after a sign,
or the name of a value that has none. What is no number has no sign either.
-/
def render (bits : UInt64) : String :=
  if isNaN bits then
    "nan"
  else
    let sign := if isNegative bits then "-" else ""
    if isInfinite bits then
      sign ++ "inf"
    else
      sign ++ (Binary.ofBits bits).shortest.positional

end UsageLint.Decimal
