namespace UsageLint.Decimal

/-!
# Decimal literals

A decimal literal is read into its digits. Two floats can stand for it: the
nearest one, which a document means, and the one that comes of scaling the
digits, which a request means. Scaling rounds twice, once when the digits
become a float and once when a power of ten is applied, so it may miss the
nearest float by a little.
-/

/-- The digits of a decimal number before and after its point. -/
structure Literal where
  negative : Bool
  whole : List Nat
  places : List Nat
  /-- The power of ten behind the digits, if one is written. -/
  exponent : Option Int
deriving Repr, DecidableEq

/-- Set the sign bit of a float that has none. -/
def withSign (negative : Bool) (bits : UInt64) : UInt64 :=
  if negative then
    bits ||| 0x8000000000000000
  else
    bits

/-- The bits of infinity. -/
def infinityBits : UInt64 := 0x7FF0000000000000

/-- The number that decimal digits write. -/
def numberOf (digits : List Nat) : Nat :=
  digits.foldl (fun number digit => number * 10 + digit) 0

/-- Append digits to a number while it fits in 64 bits; the others are left. -/
def gather : Nat → List Nat → Nat × List Nat
  | number, [] => (number, [])
  | number, digit :: rest =>
      if number * 10 + digit < 0x10000000000000000 then
        gather (number * 10 + digit) rest
      else
        (number, digit :: rest)

/--
The float nearest to `digits * 10 ^ exponent`.

Beyond four hundred places a number is zero or infinite whatever its digits,
so powers of ten stay small.
-/
def nearest (digits : List Nat) (exponent : Int) : UInt64 :=
  let significant := digits.dropWhile (· == 0)
  let number := numberOf significant
  if significant.isEmpty || exponent + significant.length < -400 then
    (0.0 : Float).toBits
  else if exponent + significant.length > 400 then
    infinityBits
  else
    (Float.ofScientific number (exponent < 0) exponent.natAbs).toBits

/-- The largest power of ten that is a finite float. -/
def largestPower : Nat := 308

/-- The float nearest to a power of ten. -/
def powerOfTen (exponent : Nat) : Float :=
  .ofScientific 1 false exponent

/--
The float of a number of at most 64 bits, multiplied or divided by a power of
ten. Division by more than the largest power takes two steps, and where it
would take three nothing is left.
-/
def scale (number : Nat) (exponent : Int) : Float :=
  let float := Float.ofNat number
  let power := exponent.natAbs
  if number = 0 then
    0.0
  else if 0 ≤ exponent then
    if power ≤ largestPower then
      float * powerOfTen power
    else
      Float.ofBits infinityBits
  else if power ≤ largestPower then
    float / powerOfTen power
  else if power ≤ 2 * largestPower then
    float / powerOfTen largestPower / powerOfTen (power - largestPower)
  else
    0.0

namespace Literal

/-- Whether there is neither a fractional part nor an exponent. -/
def isWhole (literal : Literal) : Bool :=
  literal.places.isEmpty && literal.exponent.isNone

/-- The integer of a literal that has only whole digits. -/
def integer (literal : Literal) : Int :=
  let number : Int := numberOf literal.whole
  if literal.negative then -number else number

/-- The bits of the float nearest to a literal. -/
def nearestBits (literal : Literal) : UInt64 :=
  withSign literal.negative
    (nearest (literal.whole ++ literal.places)
      (literal.exponent.getD 0 - literal.places.length))

/--
The bits of the float that scaling gives. Whole digits that do not fit raise
the exponent instead; places that do not fit are dropped.
-/
def scaledBits (literal : Literal) : UInt64 :=
  let (number, heavy) := gather 0 literal.whole
  let (number, dropped) := gather number literal.places
  let used : Int := literal.places.length - dropped.length
  withSign literal.negative
    (scale number (literal.exponent.getD 0 + heavy.length - used)).toBits

end Literal

end UsageLint.Decimal
