import UsageLint.Toml.Draft
import UsageLint.Toml.Moment
import UsageLint.Toml.Number
import UsageLint.Toml.Quoted

namespace UsageLint.Toml

/-!
# Documents

A document is a list of lines: blank ones, headers, and keys with values. It is
read into sections, each a header with the assignments below it, and the
sections are put together into one table. Anything that is not such a document
has no entries at all.
-/

/-- A dotted key split before its last part, with its value. -/
abbrev Assignment := List String × String × Value

/-- Split a dotted key before its last part. -/
def splitKeys? (keys : List String) : Option (List String × String) :=
  keys.getLast?.map fun key => (keys.dropLast, key)

/-- Take the word of a truth value. -/
def truth? : List Char → Option (Value × List Char)
  | 't' :: 'r' :: 'u' :: 'e' :: rest => some (.boolean true, rest)
  | 'f' :: 'a' :: 'l' :: 's' :: 'e' :: rest => some (.boolean false, rest)
  | _ => none

/-- Take a value that holds no other values. -/
def plainValue? (text : List Char) : Option (Value × List Char) :=
  match text with
  | '"' :: _ | '\'' :: _ =>
      (quoted? text).map fun (characters, rest) =>
        (.string (String.ofList characters), rest)
  | _ =>
      truth? text <|>
        ((moment? text).map fun (moment, rest) => (.datetime moment, rest)) <|>
        number? text

/-- Take the items of an array and its end; the steps bound their number. -/
def items?
    (readItem : List Char → Option (Value × List Char)) :
    Nat → List Char → Option (List Value × List Char)
  | 0, _ => none
  | steps + 1, text => do
      match ← skipGap? false text with
      | ']' :: rest => return ([], rest)
      | text =>
          let (item, rest) ← readItem text
          match ← skipGap? false rest with
          | ']' :: rest => return ([item], rest)
          | ',' :: rest =>
              let (items, rest) ← items? readItem steps rest
              return (item :: items, rest)
          | _ => none

/-- Take a dotted key and the sign between it and its value. -/
def assigned? (text : List Char) : Option (List String × List Char) := do
  let (keys, rest) ← keys? text
  let rest ← expect? '=' rest
  return (keys, skipInlineBlanks rest)

/-- Take the entries of an inline table and its end; the steps bound their number. -/
def entries?
    (readItem : List Char → Option (Value × List Char)) :
    Nat → List Char → Option (List Assignment × List Char)
  | 0, _ => none
  | steps + 1, text => do
      let (keys, rest) ← assigned? text
      let (path, key) ← splitKeys? keys
      let (value, rest) ← readItem rest
      match skipInlineBlanks rest with
      | '}' :: rest => return ([(path, key, value)], rest)
      | ',' :: rest =>
          let (entries, rest) ← entries? readItem steps rest
          return ((path, key, value) :: entries, rest)
      | _ => none

/-- Take an inline table after its opening brace. -/
def inlineTable?
    (readItem : List Char → Option (Value × List Char))
    (text : List Char) :
    Option (Value × List Char) :=
  match skipInlineBlanks text with
  | '}' :: rest => some (.table [], rest)
  | _ => do
      let (assignments, rest) ← entries? readItem (text.length + 1) text
      let entries ← Draft.assignAll [] assignments
      return (.table (Draft.finishEntries entries), rest)

/-- Take a value that nests at most that many arrays and inline tables. -/
def value? : Nat → List Char → Option (Value × List Char)
  | 0, text => plainValue? text
  | levels + 1, text =>
      match text with
      | '[' :: rest =>
          (items? (value? levels) (rest.length + 1) rest).map
            fun (items, rest) => (.array items, rest)
      | '{' :: rest => inlineTable? (value? levels) rest
      | _ => plainValue? text

/-- Arrays and inline tables nest at most this deep. -/
def nestingLimit : Nat := 79

/-- What a line of a document says. -/
inductive Line where
  | assignment (assignment : Assignment)
  | header (path : List String) (key : String)
  | arrayHeader (path : List String) (key : String)

/-- Take a line that is neither blank nor a comment. -/
def line? (text : List Char) : Option (Line × List Char) :=
  match text with
  | '[' :: '[' :: rest => do
      let (keys, rest) ← keys? rest
      let rest ← expect? ']' rest
      let rest ← expect? ']' rest
      let (path, key) ← splitKeys? keys
      return (.arrayHeader path key, rest)
  | '[' :: rest => do
      let (keys, rest) ← keys? rest
      let rest ← expect? ']' rest
      let (path, key) ← splitKeys? keys
      return (.header path key, rest)
  | _ => do
      let (keys, rest) ← assigned? text
      let (path, key) ← splitKeys? keys
      let (value, rest) ← value? nestingLimit rest
      return (.assignment (path, key, value), rest)

/-- Read the lines of a document; the steps bound their number. -/
def lines? : Nat → List Char → Option (List Line)
  | 0, _ => none
  | steps + 1, text => do
      match ← skipGap? false text with
      | [] => return []
      | text =>
          let (line, rest) ← line? text
          let rest ← lineEnd? rest
          let lines ← lines? steps rest
          return line :: lines

/-- The assignments before the first header, and the lines from there on. -/
def splitSection : List Line → List Assignment × List Line
  | .assignment assignment :: rest =>
      let (assignments, others) := splitSection rest
      (assignment :: assignments, others)
  | lines => ([], lines)

/-- Add the sections of a document to its table; the steps bound their number. -/
def addSections? : Nat → Draft.Entries → List Line → Option Draft.Entries
  | _, entries, [] => some entries
  | 0, _, _ :: _ => none
  | steps + 1, entries, line :: rest =>
      let (assignments, others) := splitSection rest
      match line with
      | .assignment _ => none
      | .header path key =>
          (Draft.define entries path key assignments).bind
            (addSections? steps · others)
      | .arrayHeader path key =>
          (Draft.append entries path key assignments).bind
            (addSections? steps · others)

/-- The entries of a document. -/
def parse? (text : String) : Option Entries := do
  let characters :=
    match text.toList with
    | '\uFEFF' :: rest => rest
    | characters => characters
  let lines ← lines? (characters.length + 1) characters
  let (assignments, sections) := splitSection lines
  let entries ← Draft.assignAll [] assignments
  let entries ← addSections? lines.length entries sections
  return Draft.finishEntries entries

end UsageLint.Toml
