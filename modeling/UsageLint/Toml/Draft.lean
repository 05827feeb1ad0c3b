import UsageLint.Toml.Value

namespace UsageLint.Toml

/-!
# Tables under construction

A document names its tables in pieces: by headers, by dotted keys, and by the
paths that lead to either. A draft remembers how each of its tables came
about, because a table that has a header may not be opened again and dotted
keys may extend only tables that dotted keys have made. Entries stand in the
order in which their keys came up; a header that a path has passed already
moves its table to the end.
-/

/-- How a table came about. -/
inductive Standing where
  /-- It has a header, or is an item of an array of tables. -/
  | defined
  /-- A header passed through it on the way to another table. -/
  | passed
  /-- A dotted key made it. -/
  | dotted
deriving Repr, DecidableEq

/-- What stands under a key while a document is read. -/
inductive Draft where
  | leaf (value : Value)
  | table (standing : Standing) (entries : List (String × Draft))
  /-- An array of tables, the latest first. -/
  | tables (items : List (List (String × Draft)))

/-- The entries of a table under construction. -/
abbrev Draft.Entries := List (String × Draft)

namespace Draft

mutual

/-- The finished value of a draft. -/
def finish : Draft → Value
  | leaf value => value
  | table _ entries => .table (finishEntries entries)
  | tables items => .array (finishItems items).reverse

/-- The finished entries of a table. -/
def finishEntries : List (String × Draft) → List (String × Value)
  | [] => []
  | (key, draft) :: rest => (key, draft.finish) :: finishEntries rest

/-- The finished tables of an array. -/
def finishItems : List (List (String × Draft)) → List Value
  | [] => []
  | entries :: rest => .table (finishEntries entries) :: finishItems rest

end

/-- Put a draft under a key: in the place of what is there, or at the end. -/
def put (key : String) (draft : Draft) : Entries → Entries
  | [] => [(key, draft)]
  | (other, existing) :: rest =>
      if other = key then
        (key, draft) :: rest
      else
        (other, existing) :: put key draft rest

/-- Put a draft under a key at the end, wherever another one was. -/
def putLast (key : String) (draft : Draft) (entries : Entries) : Entries :=
  (entries.filter fun (other, _) => other ≠ key) ++ [(key, draft)]

/--
Edit the table at the end of a path, making the tables that are missing on the
way. A path written in a dotted key does not enter tables with a header.
-/
def editAt
    (byDottedKey : Bool)
    (edit : Standing → Entries → Option Entries) :
    List String → Standing → Entries → Option Entries
  | [], standing, entries => edit standing entries
  | key :: path, _, entries =>
      match NameTable.lookup? key entries with
      | none =>
          let made := if byDottedKey then Standing.dotted else .passed
          (editAt byDottedKey edit path made []).map fun inner =>
            put key (.table made inner) entries
      | some (.leaf _) => none
      | some (.table standing inner) =>
          if byDottedKey && standing = .defined then
            none
          else
            (editAt byDottedKey edit path standing inner).map fun inner =>
              put key (.table standing inner) entries
      | some (.tables []) => none
      | some (.tables (latest :: earlier)) =>
          (editAt byDottedKey edit path .defined latest).map fun latest =>
            put key (.tables (latest :: earlier)) entries

/-- Put a value under a dotted key of a table; no key is given twice. -/
def assign (entries : Entries) (path : List String) (key : String) (value : Value) :
    Option Entries :=
  editAt true
    (fun standing entries =>
      if !path.isEmpty && standing ≠ .dotted then
        none
      else
        match NameTable.lookup? key entries with
        | some _ => none
        | none => some (put key (.leaf value) entries))
    path .defined entries

/-- Put values under dotted keys one after another. -/
def assignAll : Entries → List (List String × String × Value) → Option Entries
  | entries, [] => some entries
  | entries, (path, key, value) :: rest =>
      (assign entries path key value).bind (assignAll · rest)

/-- Open the table of a header, fill it, and put it in place. -/
def define
    (entries : Entries)
    (path : List String)
    (key : String)
    (assignments : List (List String × String × Value)) :
    Option Entries :=
  editAt false
    (fun _ entries =>
      let inner :=
        match NameTable.lookup? key entries with
        | none => some []
        | some (.table .passed inner) => some inner
        | some _ => none
      (inner.bind (assignAll · assignments)).map fun inner =>
        putLast key (.table .defined inner) entries)
    path .defined entries

/-- Append a table to the array of tables of a header. -/
def append
    (entries : Entries)
    (path : List String)
    (key : String)
    (assignments : List (List String × String × Value)) :
    Option Entries :=
  editAt false
    (fun _ entries =>
      let items :=
        match NameTable.lookup? key entries with
        | none => some []
        | some (.tables items) => some items
        | some _ => none
      items.bind fun items =>
        (assignAll [] assignments).map fun inner =>
          put key (.tables (inner :: items)) entries)
    path .defined entries

end Draft

end UsageLint.Toml
