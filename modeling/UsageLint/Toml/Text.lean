import UsageLint.Decimal.Shortest
import UsageLint.Toml.Value

namespace UsageLint.Toml

/-!
# The text of a value

A value is written on the line of its key: arrays in brackets and tables in
braces, the entries of a table in their order whatever they hold.

A string is written in the plainest of the four notations that can hold it: in
double quotes if nothing needs an escape, in single quotes if it has none of
those, and over several lines otherwise. A date or time inside another value is
written as itself, one that stands alone as the table that holds its text.
-/

/-- The four notations of a string. -/
inductive Quotation where
  | basic
  | literal
  | multilineBasic
  | multilineLiteral
deriving Repr, DecidableEq

/-- What decides the notation of a string. -/
structure StringShape where
  /-- The longest run of single quotes. -/
  singleQuotes : Nat
  /-- The longest run of double quotes. -/
  doubleQuotes : Nat
  /-- Some control character other than a tab or a line feed occurs. -/
  hasControl : Bool
  hasBackslash : Bool
  hasNewline : Bool
deriving Repr, DecidableEq

/-- The longest run of a character, given the run that ends just before. -/
def longestRun (wanted : Char) : Nat → List Char → Nat
  | run, [] => run
  | run, character :: rest =>
      if character = wanted then
        longestRun wanted (run + 1) rest
      else
        max run (longestRun wanted 0 rest)

/-- Whether a character is a control character of ASCII. -/
def isControl (character : Char) : Bool :=
  character.toNat < 0x20 || character.toNat == 0x7F

namespace StringShape

/-- The shape of a string. -/
def ofCharacters (characters : List Char) : StringShape :=
  { singleQuotes := longestRun '\'' 0 characters
    doubleQuotes := longestRun '"' 0 characters
    hasControl :=
      characters.any fun character =>
        isControl character && character != '\t' && character != '\n'
    hasBackslash := characters.contains '\\'
    hasNewline := characters.contains '\n' }

/-- The notation of a string on one line, as keys need it. -/
def lineQuotation (shape : StringShape) : Quotation :=
  if !shape.hasControl && !shape.hasBackslash && shape.doubleQuotes == 0 &&
      !shape.hasNewline then
    .basic
  else if !shape.hasControl && shape.singleQuotes == 0 && !shape.hasNewline then
    .literal
  else
    .basic

/-- The notation of a string value. -/
def quotation (shape : StringShape) : Quotation :=
  if !shape.hasControl && !shape.hasBackslash && shape.doubleQuotes == 0 &&
      !shape.hasNewline then
    .basic
  else if !shape.hasControl && shape.singleQuotes == 0 && !shape.hasNewline then
    .literal
  else if !shape.hasControl && !shape.hasBackslash && shape.doubleQuotes ≤ 2 then
    .multilineBasic
  else if !shape.hasControl && shape.singleQuotes ≤ 2 then
    .multilineLiteral
  else if shape.hasNewline then
    .multilineBasic
  else
    .basic

end StringShape

/-- Four hexadecimal digits. -/
def fourDigits (number : Nat) : List Char :=
  let digits := (Nat.toDigits 16 number).map Char.toUpper
  List.replicate (4 - digits.length) '0' ++ digits

/-- The escaped text of a character other than a double quote. -/
def escapeCharacter (multiline : Bool) (character : Char) : List Char :=
  match character with
  | '\x08' => ['\\', 'b']
  | '\t' => ['\\', 't']
  | '\n' => if multiline then ['\n'] else ['\\', 'n']
  | '\x0c' => ['\\', 'f']
  | '\r' => ['\\', 'r']
  | '\\' => ['\\', '\\']
  | _ =>
      if isControl character then
        '\\' :: 'u' :: fourDigits character.toNat
      else
        [character]

/--
The text between the quotes of a basic string. On one line every double quote
is escaped, over several lines every third of a run.
-/
def escapeFrom (multiline : Bool) : Nat → List Char → List Char
  | _, [] => []
  | run, character :: rest =>
      if character = '"' then
        if multiline && run < 2 then
          '"' :: escapeFrom multiline (run + 1) rest
        else
          '\\' :: '"' :: escapeFrom multiline 0 rest
      else
        escapeCharacter multiline character ++ escapeFrom multiline 0 rest

/-- A string in a given notation. -/
def quote (quotation : Quotation) (characters : List Char) : List Char :=
  let opening := if characters.contains '\n' then ['\n'] else []
  match quotation with
  | .basic => '"' :: escapeFrom false 0 characters ++ ['"']
  | .literal => '\'' :: characters ++ ['\'']
  | .multilineBasic =>
      ['"', '"', '"'] ++ opening ++ escapeFrom true 0 characters ++ ['"', '"', '"']
  | .multilineLiteral =>
      ['\'', '\'', '\''] ++ opening ++ characters ++ ['\'', '\'', '\'']

/-- Whether a character may stand in a key without quotes. -/
def isBareCharacter (character : Char) : Bool :=
  character.isAlphanum || character == '_' || character == '-'

/-- The text of a key. -/
def renderKey (key : String) : String :=
  let characters := key.toList
  if !characters.isEmpty && characters.all isBareCharacter then
    key
  else
    String.ofList (quote (StringShape.ofCharacters characters).lineQuotation characters)

/-- The text of a string value. -/
def renderString (text : String) : String :=
  let characters := text.toList
  String.ofList (quote (StringShape.ofCharacters characters).quotation characters)

namespace Value

mutual

/-- The text of a value inside another one. -/
def render : Value → String
  | string text => renderString text
  | integer number => toString number
  | float bits => Decimal.render bits
  | boolean truth => if truth then "true" else "false"
  | datetime text => text
  | array items => "[" ++ ", ".intercalate (renderItems items) ++ "]"
  | table [] => "\x7b\x7d"
  | table entries => "\x7b " ++ ", ".intercalate (renderEntries entries) ++ " \x7d"

/-- The texts of the items of an array. -/
def renderItems : List Value → List String
  | [] => []
  | item :: rest => item.render :: renderItems rest

/-- The texts of the entries of a table. -/
def renderEntries : Entries → List String
  | [] => []
  | (key, value) :: rest =>
      (renderKey key ++ " = " ++ value.render) :: renderEntries rest

end

/-- The text of a value that stands alone. -/
def renderAlone (value : Value) : String :=
  value.unfoldMoment.render

end Value

end UsageLint.Toml
