import UsageLint.Path
import UsageLint.Warning

namespace UsageLint.Files

/-!
# File trees

A file tree is what a disk holds: files with their bytes, and directories of
named entries in the order of the names. A path is followed from the topmost
directory; dots stay, double dots go up, and the way back up is remembered.
-/

/-- A file or a directory. -/
inductive Entry where
  | file (content : ByteArray)
  | directory (entries : List (String × Entry))

/-- Why a path cannot be read. -/
inductive ReadError where
  | notFound
  | isDirectory
  | notDirectory
  /-- The bytes are not the encoding of a text. -/
  | notText
deriving Repr, DecidableEq

/-- The text shown for a failed reading. -/
def ReadError.message : ReadError → String
  | notFound => "No such file or directory (os error 2)"
  | isDirectory => "Is a directory (os error 21)"
  | notDirectory => "Not a directory (os error 20)"
  | notText => notTextMessage

namespace Entry

/-- A directory with nothing in it. -/
def empty : Entry :=
  .directory []

/-- Whether an entry is a directory. -/
def isDirectory : Entry → Bool
  | file _ => false
  | directory _ => true

/-- The entry of a directory under a name. -/
def child? (entry : Entry) (name : String) : Option Entry :=
  match entry with
  | file _ => none
  | directory entries => NameTable.lookup? name entries

/--
Put an entry below another, making the directories on the way.

Nothing can be put below a file.
-/
def put (target : Entry) (names : List String) (added : Entry) : Entry :=
  match names with
  | [] => added
  | name :: others =>
      match target with
      | file content => file content
      | directory entries =>
          let below := (NameTable.lookup? name entries).getD empty
          directory (NameTable.place name (below.put others added) entries)

end Entry

/-- An entry and the directories it lies in, nearest first. -/
structure Place where
  entry : Entry
  above : List Entry

namespace Place

/-- The topmost directory. -/
def top (entry : Entry) : Place :=
  ⟨entry, []⟩

/-- The directory above a place; there is none above the topmost. -/
def up (place : Place) : Place :=
  match place.above with
  | [] => place
  | entry :: above => ⟨entry, above⟩

/-- Go into an entry of a directory. -/
def down? (place : Place) (name : String) : Option Place :=
  (place.entry.child? name).map fun entry =>
    ⟨entry, place.entry :: place.above⟩

/-- Follow one segment of a path. -/
def step (place : Place) (segment : String) : Except ReadError Place :=
  if place.entry.isDirectory then
    if segment = "" || segment = "." then
      .ok place
    else if segment = ".." then
      .ok place.up
    else
      match place.down? segment with
      | some next => .ok next
      | none => .error .notFound
  else
    .error .notDirectory

end Place

namespace Entry

/-- Follow an absolute path from the topmost directory. -/
def find (top : Entry) (path : Path) : Except ReadError Place :=
  (Text.segments path.text.toList).foldlM
    (fun place segment => place.step (String.ofList segment))
    (Place.top top)

/-- The bytes of the file at a path. -/
def readBytes (top : Entry) (path : Path) : Except ReadError ByteArray := do
  let place ← top.find path
  match place.entry with
  | file content => return content
  | directory _ => throw .isDirectory

/-- The text of the file at a path. -/
def readText (top : Entry) (path : Path) : Except ReadError String := do
  match String.fromUTF8? (← top.readBytes path) with
  | some text => return text
  | none => throw .notText

end Entry

end UsageLint.Files
