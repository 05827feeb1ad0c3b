import UsageLint.Decimal.Literal
import UsageLint.Toml.Scan
import UsageLint.Toml.Value

namespace UsageLint.Toml

/-!
# Numbers

An integer is decimal with an optional sign, or hexadecimal, octal or binary
without one. A float has a fractional part or an exponent, or is one of the
words for infinity and for no number. Digits may be grouped by underscores.
-/

/-- Take an optional sign: whether it is a minus, and whether it is there. -/
def sign (text : List Char) : Bool × List Char :=
  match text with
  | '-' :: rest => (true, rest)
  | '+' :: rest => (false, rest)
  | _ => (false, text)

/-- Take decimal digits of which the first is zero only if it is the last. -/
def wholeDigits? (text : List Char) : Option (List Nat × List Char) :=
  match text with
  | '0' :: rest => some ([0], rest)
  | _ => digitRun? 10 text

/-- An integer, if it fits. -/
def fitting? (number : Int) : Option Value :=
  if Value.isIntegerRange number then
    some (.integer number)
  else
    none

/-- Take an integer. -/
def integer? (text : List Char) : Option (Value × List Char) :=
  let inBase := fun (base : Nat) (rest : List Char) => do
    let (digits, rest) ← digitRun? base rest
    return (← fitting? (ofDigits base digits), rest)
  match text with
  | '0' :: 'x' :: rest => inBase 16 rest
  | '0' :: 'o' :: rest => inBase 8 rest
  | '0' :: 'b' :: rest => inBase 2 rest
  | _ => do
      let (negative, rest) := sign text
      let (digits, rest) ← wholeDigits? rest
      let number : Int := ofDigits 10 digits
      return (← fitting? (if negative then -number else number), rest)

/-- Take an exponent, if there is one. -/
def exponent? (text : List Char) : Option (Option Int × List Char) :=
  let after := fun (rest : List Char) => do
    let (negative, rest) := sign rest
    let (digits, rest) ← digitRun? 10 rest
    let number : Int := ofDigits 10 digits
    return (some (if negative then -number else number), rest)
  match text with
  | 'e' :: rest => after rest
  | 'E' :: rest => after rest
  | _ => some (none, text)

/-- Take a decimal number, with or without a fractional part and an exponent. -/
def decimalLiteral? (text : List Char) : Option (Decimal.Literal × List Char) := do
  let (negative, rest) := sign text
  let (whole, rest) ← wholeDigits? rest
  let (places, rest) ←
    match rest with
    | '.' :: rest => digitRun? 10 rest
    | _ => pure ([], rest)
  let (exponent, rest) ← exponent? rest
  return (⟨negative, whole, places, exponent⟩, rest)

/--
Take a float with a fractional part, an exponent, or both.

A number too large for a finite value is refused, unless it is negative.
-/
def decimalFloat? (text : List Char) : Option (Value × List Char) := do
  let (literal, rest) ← decimalLiteral? text
  if literal.isWhole || literal.nearestBits == Decimal.infinityBits then
    none
  else
    return (.float literal.nearestBits, rest)

/-- Take one of the words for values that have no digits. -/
def wordFloat? (text : List Char) : Option (Value × List Char) :=
  let (negative, rest) := sign text
  match rest with
  | 'i' :: 'n' :: 'f' :: rest =>
      some (.float (Decimal.withSign negative Decimal.infinityBits), rest)
  | 'n' :: 'a' :: 'n' :: rest =>
      some (.float (Decimal.withSign negative 0x7FF8000000000000), rest)
  | _ => none

/-- Take a number. -/
def number? (text : List Char) : Option (Value × List Char) :=
  decimalFloat? text <|> wordFloat? text <|> integer? text

end UsageLint.Toml
