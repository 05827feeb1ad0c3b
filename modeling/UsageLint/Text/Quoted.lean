import UsageLint.Text.Printable

namespace UsageLint.Text

/-!
# Quoted text

A quoted text stands between double quotes and on one line. What would end it,
break the line or not show is written as an escape: a few characters by one
letter, all others by their number in hexadecimal digits.
-/

/-- The letter that stands for a character after a backslash, if one does. -/
def escapeLetter? (character : Char) : Option Char :=
  match character with
  | '\x00' => some '0'
  | '\t' => some 't'
  | '\n' => some 'n'
  | '\r' => some 'r'
  | '"' => some '"'
  | '\\' => some '\\'
  | _ => none

/-- How a character is written between quotes. -/
def quoteCharacter (character : Char) : List Char :=
  match escapeLetter? character with
  | some letter => ['\\', letter]
  | none =>
      if isPrintable character then
        [character]
      else
        ['\\', 'u', '\x7b'] ++ Nat.toDigits 16 character.toNat ++ ['\x7d']

/-- A text between quotes. -/
def quote (text : String) : String :=
  String.ofList ('"' :: text.toList.flatMap quoteCharacter ++ ['"'])

end UsageLint.Text
