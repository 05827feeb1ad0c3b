namespace UsageLint.Syntax

/-!
# Source text

A source is a list of characters. Offsets, lengths and columns count the bytes
of its UTF-8 encoding, so a slice exists only between character boundaries,
and a position is found by counting bytes since the last line feed.
-/

/-- The text of one file. -/
structure Source where
  characters : List Char
deriving Repr, DecidableEq

/-- A line and a column, both counted from one, the column in bytes. -/
structure Position where
  line : Nat
  column : Nat
deriving Repr, DecidableEq

/-- The encoded size of a list of characters. -/
def byteCount : List Char → Nat
  | [] => 0
  | character :: rest => character.utf8Size + byteCount rest

/-- Drop that many bytes, if they are whole characters. -/
def dropBytes? : Nat → List Char → Option (List Char)
  | 0, characters => some characters
  | _ + 1, [] => none
  | bytes + 1, character :: rest =>
      if character.utf8Size ≤ bytes + 1 then
        dropBytes? (bytes + 1 - character.utf8Size) rest
      else
        none

/-- Take that many bytes, if they are whole characters. -/
def takeBytes? : Nat → List Char → Option (List Char)
  | 0, _ => some []
  | _ + 1, [] => none
  | bytes + 1, character :: rest =>
      if character.utf8Size ≤ bytes + 1 then
        (takeBytes? (bytes + 1 - character.utf8Size) rest).map
          (character :: ·)
      else
        none

namespace Position

/-- The position reached by reading that many bytes from a given position. -/
def advance : Position → Nat → List Char → Position
  | position, bytes, [] =>
      { position with column := position.column + bytes }
  | position, bytes, character :: rest =>
      if bytes < character.utf8Size then
        { position with column := position.column + bytes }
      else if character = '\n' then
        advance ⟨position.line + 1, 1⟩ (bytes - character.utf8Size) rest
      else
        advance ⟨position.line, position.column + character.utf8Size⟩
          (bytes - character.utf8Size) rest

/-- The text `line:column`. -/
def render (position : Position) : String :=
  s!"{position.line}:{position.column}"

end Position

namespace Source

/-- The characters of a string. -/
def ofString (text : String) : Source :=
  ⟨text.toList⟩

/-- The encoded size in bytes. -/
def size (source : Source) : Nat :=
  byteCount source.characters

/-- The text between two offsets; empty where they split a character. -/
def slice (source : Source) (start stop : Nat) : String :=
  match dropBytes? start source.characters with
  | none => ""
  | some rest =>
      match takeBytes? (stop - start) rest with
      | none => ""
      | some characters => String.ofList characters

/-- The position of an offset. -/
def position (source : Source) (offset : Nat) : Position :=
  Position.advance ⟨1, 1⟩ offset source.characters

end Source

end UsageLint.Syntax
