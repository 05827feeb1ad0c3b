namespace UsageLint.Toml

/-!
# Scanning

The smallest steps of reading: gaps between items, ends of lines, and runs of
digits. A step takes characters off the front of a text and gives what it took them
for, if anything, with the rest of the text.
-/

/-- Whether a character may stand in a comment or a string as itself. -/
def isPlain (character : Char) : Bool :=
  character == '\t' ||
    (0x20 ≤ character.toNat && character.toNat ≤ 0x7E) ||
    0x80 ≤ character.toNat

/-- Whether a character is a blank inside a line. -/
def isInlineBlank (character : Char) : Bool :=
  character == ' ' || character == '\t'

/-- Skip the blanks inside a line. -/
def skipInlineBlanks (text : List Char) : List Char :=
  text.dropWhile isInlineBlank

/-- Take one given character. -/
def expect? (wanted : Char) (text : List Char) : Option (List Char) :=
  match text with
  | character :: rest => if character = wanted then some rest else none
  | [] => none

/-- Take one line end. -/
def newline? : List Char → Option (List Char)
  | '\n' :: rest => some rest
  | '\r' :: '\n' :: rest => some rest
  | _ => none

/-- Skip blanks, line ends and comments, starting inside a comment or not. -/
def skipGap? : Bool → List Char → Option (List Char)
  | _, [] => some []
  | _, '\n' :: rest => skipGap? false rest
  | _, '\r' :: '\n' :: rest => skipGap? false rest
  | true, character :: rest =>
      if isPlain character then
        skipGap? true rest
      else
        none
  | false, character :: rest =>
      if isInlineBlank character then
        skipGap? false rest
      else if character = '#' then
        skipGap? true rest
      else
        some (character :: rest)

/-- Take the rest of a line that holds nothing but blanks and a comment. -/
def lineEnd? (text : List Char) : Option (List Char) :=
  let rest :=
    match skipInlineBlanks text with
    | '#' :: comment => comment.dropWhile isPlain
    | other => other
  match rest with
  | [] => some []
  | _ => newline? rest

/-- The value of a hexadecimal digit. -/
def hexValue? (character : Char) : Option Nat :=
  if '0' ≤ character && character ≤ '9' then
    some (character.toNat - '0'.toNat)
  else if 'a' ≤ character && character ≤ 'f' then
    some (character.toNat - 'a'.toNat + 10)
  else if 'A' ≤ character && character ≤ 'F' then
    some (character.toNat - 'A'.toNat + 10)
  else
    none

/-- The value of a digit in a base of at most sixteen. -/
def digitValue? (base : Nat) (character : Char) : Option Nat :=
  (hexValue? character).filter (· < base)

/-- Take a given number of digits. -/
def digits? (base : Nat) : Nat → List Char → Option (List Nat × List Char)
  | 0, text => some ([], text)
  | _ + 1, [] => none
  | count + 1, character :: rest => do
      let digit ← digitValue? base character
      let (digits, rest) ← digits? base count rest
      return (digit :: digits, rest)

/-- Take the digits that follow; one underscore may stand between two. -/
def moreDigits (base : Nat) : List Char → List Nat × List Char
  | [] => ([], [])
  | '_' :: character :: rest =>
      match digitValue? base character with
      | some digit =>
          let (digits, after) := moreDigits base rest
          (digit :: digits, after)
      | none => ([], '_' :: character :: rest)
  | character :: rest =>
      match digitValue? base character with
      | some digit =>
          let (digits, after) := moreDigits base rest
          (digit :: digits, after)
      | none => ([], character :: rest)

/-- Take a run of at least one digit. -/
def digitRun? (base : Nat) (text : List Char) : Option (List Nat × List Char) := do
  let (first, rest) ← digits? base 1 text
  let (digits, rest) := moreDigits base rest
  return (first ++ digits, rest)

/-- The number that digits write in a base. -/
def ofDigits (base : Nat) (digits : List Nat) : Nat :=
  digits.foldl (fun number digit => number * base + digit) 0

end UsageLint.Toml
