import UsageLint.Toml.Scan

namespace UsageLint.Toml

/-!
# Dates and times

A moment is a date, a time of day, or both, the latter perhaps with an offset.
It is kept as canonical text: a capital letter before the time and for the zero
offset, and at most nine places of a second, none of them a zero at the end. A
moment may be written as itself or as the text of a string.
-/

/-- The number of days of a month. -/
def daysOfMonth (year month : Nat) : Nat :=
  if month = 2 then
    if year % 4 = 0 ∧ (year % 100 ≠ 0 ∨ year % 400 = 0) then 29 else 28
  else if month = 4 ∨ month = 6 ∨ month = 9 ∨ month = 11 then
    30
  else
    31

/-- Digits as characters. -/
def showDigits (digits : List Nat) : List Char :=
  digits.map Nat.digitChar

/-- Take two digits whose number lies between bounds. -/
def twoDigits? (least most : Nat) (text : List Char) : Option (Nat × List Char) := do
  let (digits, rest) ← digits? 10 2 text
  let number := ofDigits 10 digits
  if least ≤ number ∧ number ≤ most then
    return (number, rest)
  else
    none

/-- A number below one hundred in two digits. -/
def showTwoDigits (number : Nat) : List Char :=
  showDigits [number / 10, number % 10]

/-- Take a date. -/
def date? (text : List Char) : Option (List Char × List Char) := do
  let (year, rest) ← digits? 10 4 text
  let rest ← expect? '-' rest
  let (month, rest) ← twoDigits? 1 12 rest
  let rest ← expect? '-' rest
  let (day, rest) ← twoDigits? 1 (daysOfMonth (ofDigits 10 year) month) rest
  return (showDigits year ++ '-' :: showTwoDigits month ++ '-' :: showTwoDigits day, rest)

/-- Take the places of a second, if there are any. -/
def fraction? (text : List Char) : Option (List Char × List Char) :=
  match text with
  | '.' :: rest => do
      let run := rest.takeWhile fun character => (digitValue? 10 character).isSome
      if run.isEmpty then
        none
      else
        let places :=
          ((run.take 9).reverse.dropWhile (· == '0')).reverse
        let shown := if places.isEmpty then [] else '.' :: places
        return (shown, rest.drop run.length)
  | _ => some ([], text)

/-- Take a time of day. -/
def time? (text : List Char) : Option (List Char × List Char) := do
  let (hour, rest) ← twoDigits? 0 23 text
  let rest ← expect? ':' rest
  let (minute, rest) ← twoDigits? 0 59 rest
  let rest ← expect? ':' rest
  let (second, rest) ← twoDigits? 0 60 rest
  let (places, rest) ← fraction? rest
  let clock :=
    showTwoDigits hour ++ ':' :: showTwoDigits minute ++ ':' :: showTwoDigits second
  return (clock ++ places, rest)

/-- Take an offset, if there is one; minus zero is plus zero. -/
def offset? (text : List Char) : Option (List Char × List Char) :=
  match text with
  | 'Z' :: rest => some (['Z'], rest)
  | 'z' :: rest => some (['Z'], rest)
  | sign :: rest =>
      if sign = '+' ∨ sign = '-' then do
        let (hour, rest) ← twoDigits? 0 23 rest
        let rest ← expect? ':' rest
        let (minute, rest) ← twoDigits? 0 59 rest
        let shown := if hour = 0 ∧ minute = 0 then '+' else sign
        return (shown :: showTwoDigits hour ++ ':' :: showTwoDigits minute, rest)
      else
        some ([], text)
  | [] => some ([], [])

/-- Take the time that follows a date, if there is one. -/
def timeAfterDate? (text : List Char) : Option (List Char × List Char) :=
  match text with
  | separator :: rest =>
      if separator = 'T' ∨ separator = 't' ∨ separator = ' ' then
        match time? rest with
        | some (time, rest) => do
            let (offset, rest) ← offset? rest
            return ('T' :: time ++ offset, rest)
        | none => some ([], text)
      else
        some ([], text)
  | [] => some ([], [])

/-- Take a date, a time of day, or both. -/
def moment? (text : List Char) : Option (String × List Char) :=
  match date? text with
  | some (date, rest) => do
      let (time, rest) ← timeAfterDate? rest
      return (String.ofList (date ++ time), rest)
  | none => do
      let (time, rest) ← time? text
      return (String.ofList time, rest)

/-- The moment that is the whole text of a string. -/
def momentOfText? (text : String) : Option String :=
  match moment? text.toList with
  | some (moment, []) => some moment
  | _ => none

end UsageLint.Toml
