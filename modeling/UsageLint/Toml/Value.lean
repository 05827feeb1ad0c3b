import UsageLint.NameTable

namespace UsageLint.Toml

/-!
# Configuration values

The values of the TOML format. Integers fit in 64 bits with a sign, a float is
kept as its 64 bits, and a date or time as its text in canonical form.

A value as it was read has the entries of its tables in the order of writing.
Where a table is asked for, a date or time counts as one too: as the table that
holds its text under a key of its own.
-/

/-- A value of the TOML format. -/
inductive Value where
  | string (text : String)
  | integer (number : Int)
  | float (bits : UInt64)
  | boolean (truth : Bool)
  | datetime (text : String)
  | array (items : List Value)
  | table (entries : List (String × Value))
deriving Repr

/-- The entries of a table in the order of writing. -/
abbrev Entries := List (String × Value)

/-- A table of the TOML format: values under keys. -/
abbrev Table := NameTable Value

/-- The key under which a table holds the text of a date or time. -/
def momentKey : String := "$__toml_private_datetime"

namespace Value

/-- The value of a table. -/
def ofTable (table : Table) : Value :=
  .table table.entries

/-- The text of a string value. -/
def string? : Value → Option String
  | string text => some text
  | _ => none

/-- The truth of a boolean value. -/
def boolean? : Value → Option Bool
  | boolean truth => some truth
  | _ => none

/-- A date or time as the table that holds its text, any other value as it is. -/
def unfoldMoment : Value → Value
  | datetime text => table [(momentKey, string text)]
  | value => value

/-- The entries of a value that counts as a table. -/
def entries? (value : Value) : Option Entries :=
  match value.unfoldMoment with
  | table entries => some entries
  | _ => none

/-- The smallest and largest integers are those of 64 bits with a sign. -/
def isIntegerRange (number : Int) : Bool :=
  -0x8000000000000000 ≤ number && number ≤ 0x7FFFFFFFFFFFFFFF

end Value

end UsageLint.Toml
