import UsageLint.Text.Segments

namespace UsageLint

/-!
# Paths

A path is the text a user wrote. Its components leave out empty segments and
dots, and paths are compared and taken relative to one another by components,
so `a//b/.` and `a/b` are one path although they are shown differently.
-/

/-- A slash-separated path as written. -/
structure Path where
  text : String
deriving Repr, DecidableEq

namespace Path

/-- One step of a path. -/
inductive Component where
  | root
  | current
  | parent
  | name (segment : List Char)
deriving Repr, DecidableEq

namespace Component

/-- The step a segment stands for away from the start of a path, if any. -/
def ofSegment? (segment : List Char) : Option Component :=
  match segment with
  | [] => none
  | ['.'] => none
  | ['.', '.'] => some .parent
  | _ => some (.name segment)

/-- Components of different sorts: the root, then dots, then names. -/
def rank : Component → Nat
  | root => 0
  | current => 1
  | parent => 2
  | name _ => 3

/-- Components are ordered by sort, and names by their characters. -/
def compare (left right : Component) : Ordering :=
  match left, right with
  | name first, name second => compareOfLessAndEq first second
  | _, _ => Ord.compare left.rank right.rank

end Component

/-- The components of a path in order. -/
def components (path : Path) : List Component :=
  match Text.segments path.text.toList with
  | [] => []
  | first :: others =>
      let rest := others.filterMap Component.ofSegment?
      match first, others with
      | [], [] => []
      | [], _ => .root :: rest
      | ['.'], _ => .current :: rest
      | _, _ => (Component.ofSegment? first).toList ++ rest

/-- Paths are ordered by their components, one after another. -/
def compareComponents : List Component → List Component → Ordering
  | [], [] => .eq
  | [], _ :: _ => .lt
  | _ :: _, [] => .gt
  | left :: lefts, right :: rights =>
      (left.compare right).then (compareComponents lefts rights)

/-- Paths are ordered by their components, one after another. -/
def compare (left right : Path) : Ordering :=
  compareComponents left.components right.components

/-- Whether a path starts at the root. -/
def isAbsolute (path : Path) : Bool :=
  path.text.toList.head? == some '/'

/-- The last component, if it is a name. -/
def fileName? (path : Path) : Option (List Char) :=
  match path.components.getLast? with
  | some (.name segment) => some segment
  | _ => none

/-- The text after the last dot, if a dot occurs. -/
def afterLastDot? : List Char → Option (List Char)
  | [] => none
  | character :: rest =>
      match afterLastDot? rest with
      | some extension => some extension
      | none =>
          if character = '.' then
            some rest
          else
            none

/--
The extension of a file name.

A dot that opens the name belongs to the name, so a name whose only dot is its
first character has no extension.
-/
def extensionOf? (fileName : List Char) : Option (List Char) :=
  match fileName with
  | [] => none
  | _ :: rest => afterLastDot? rest

/-- The extension of the file a path names. -/
def extension? (path : Path) : Option String :=
  (path.fileName?.bind extensionOf?).map String.ofList

/-- Append a path to a directory; an absolute path stands for itself. -/
def join (directory path : Path) : Path :=
  if path.isAbsolute || directory.text.isEmpty then
    path
  else if directory.text.toList.getLast? = some '/' then
    ⟨directory.text ++ path.text⟩
  else
    ⟨directory.text ++ "/" ++ path.text⟩

/-- Whether a segment is a step of its own away from the start of a path. -/
def isStep (segment : List Char) : Bool :=
  (Component.ofSegment? segment).isSome

/-- Remove leading segments that stand for the given steps. -/
def dropSteps? : List Component → List (List Char) → Option (List (List Char))
  | [], segments => some segments
  | _ :: _, [] => none
  | step :: steps, segment :: segments =>
      match Component.ofSegment? segment with
      | none => dropSteps? (step :: steps) segments
      | some found =>
          if found = step then
            dropSteps? steps segments
          else
            none

/-- Segments without the ones that are no steps at either end. -/
def trimSegments (segments : List (List Char)) : List (List Char) :=
  let trimmed := segments.dropWhile (!isStep ·)
  (trimmed.reverse.dropWhile (!isStep ·)).reverse

/-- What is left of an absolute path below an absolute directory. -/
def relativeTo? (path directory : Path) : Option Path :=
  if path.isAbsolute && directory.isAbsolute then
    (dropSteps?
        directory.components.tail
        (Text.segments path.text.toList)).map
      fun rest =>
        ⟨String.ofList (Text.joinSegments (trimSegments rest))⟩
  else
    none

end Path

end UsageLint
