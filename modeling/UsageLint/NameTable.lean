namespace UsageLint

/-!
# Tables and sets of names

A table maps names to values and keeps its entries in the order of their
names, so two tables built in different ways are listed alike. Inserting a
name that is present replaces its value. A set of names is kept the same way.
-/

/-- Values under names, in the order of the names. -/
structure NameTable (α : Type) where
  entries : List (String × α)
deriving Repr, DecidableEq

namespace NameTable

variable {α : Type}

/-- A table without names. -/
def empty : NameTable α :=
  ⟨[]⟩

/-- The value listed first under a name. -/
def lookup? (name : String) : List (String × α) → Option α
  | [] => none
  | (other, value) :: rest =>
      if other = name then
        some value
      else
        lookup? name rest

/-- The value under a name. -/
def find? (table : NameTable α) (name : String) : Option α :=
  lookup? name table.entries

/-- Place a value before the first larger name. -/
def place (name : String) (value : α) :
    List (String × α) → List (String × α)
  | [] => [(name, value)]
  | (other, existing) :: rest =>
      if name < other then
        (name, value) :: (other, existing) :: rest
      else if name = other then
        (name, value) :: rest
      else
        (other, existing) :: place name value rest

/-- Put a value under a name. -/
def insert (table : NameTable α) (name : String) (value : α) : NameTable α :=
  ⟨place name value table.entries⟩

/-- Keep the entries whose names pass a test. -/
def filterNames (table : NameTable α) (keep : String → Bool) : NameTable α :=
  ⟨table.entries.filter fun (name, _) => keep name⟩

/-- Take a name out of a table. -/
def erase (table : NameTable α) (name : String) : NameTable α :=
  table.filterNames (· != name)

/-- The table of a list of entries, of which later ones replace earlier ones. -/
def ofList (entries : List (String × α)) : NameTable α :=
  entries.foldl (fun table (name, value) => table.insert name value) empty

/-- Nothing is under any name of the empty table. -/
@[simp] theorem find?_empty (name : String) :
    (empty : NameTable α).find? name = none :=
  rfl

/-- Placing a value changes what is listed under its name only. -/
theorem lookup?_place
    (name other : String)
    (value : α)
    (entries : List (String × α)) :
    lookup? other (place name value entries) =
      if other = name then some value else lookup? other entries := by
  induction entries with
  | nil =>
      simp only [place, lookup?]
      grind
  | cons entry rest inductionHypothesis =>
      rcases entry with ⟨present, existing⟩
      simp only [place]
      grind [lookup?]

/-- Inserting a name changes what is under that name only. -/
theorem find?_insert
    (table : NameTable α)
    (name other : String)
    (value : α) :
    (table.insert name value).find? other =
      if other = name then some value else table.find? other :=
  lookup?_place name other value table.entries

/-- Filtering entries by name leaves what is listed under the kept names alone. -/
theorem lookup?_filter
    (keep : String → Bool)
    (name : String)
    (entries : List (String × α)) :
    lookup? name (entries.filter fun (other, _) => keep other) =
      if keep name then lookup? name entries else none := by
  induction entries with
  | nil =>
      simp [lookup?]
  | cons entry rest inductionHypothesis =>
      rcases entry with ⟨present, existing⟩
      simp only [List.filter_cons]
      grind [lookup?]

/-- Erasing a name changes what is under that name only. -/
theorem find?_erase
    (table : NameTable α)
    (name other : String) :
    (table.erase name).find? other =
      if other = name then none else table.find? other := by
  have filtered := lookup?_filter (· != name) other table.entries
  simp only [bne_iff_ne, ne_eq, ite_not] at filtered
  exact filtered

end NameTable

/-- Names without repetition, in order. -/
structure NameSet where
  names : List String
deriving Repr, DecidableEq

namespace NameSet

/-- No names. -/
def empty : NameSet :=
  ⟨[]⟩

/-- Whether a name is in the set. -/
def contains (set : NameSet) (name : String) : Bool :=
  set.names.contains name

/-- Place a name before the first larger one, unless it is present there. -/
def place (name : String) : List String → List String
  | [] => [name]
  | other :: rest =>
      if name < other then
        name :: other :: rest
      else if name = other then
        other :: rest
      else
        other :: place name rest

/-- Add a name. -/
def insert (set : NameSet) (name : String) : NameSet :=
  ⟨place name set.names⟩

/-- Take a name out of a set. -/
def erase (set : NameSet) (name : String) : NameSet :=
  ⟨set.names.filter (· != name)⟩

/-- The set of the names in a list. -/
def ofList (names : List String) : NameSet :=
  names.foldl insert empty

/-- Placing a name adds that name and no other. -/
theorem mem_place
    (name other : String)
    (names : List String) :
    other ∈ place name names ↔ other = name ∨ other ∈ names := by
  induction names with
  | nil =>
      simp [place]
  | cons present rest inductionHypothesis =>
      simp only [place]
      grind

/-- Adding a name adds that name and no other. -/
theorem contains_insert
    (set : NameSet)
    (name other : String) :
    (set.insert name).contains other =
      (other == name || set.contains other) := by
  simp only [contains, insert, List.contains_eq_mem, mem_place]
  grind

/-- Erasing a name takes out that name and no other. -/
theorem contains_erase
    (set : NameSet)
    (name other : String) :
    (set.erase name).contains other =
      (other != name && set.contains other) := by
  simp only [contains, erase, List.contains_eq_mem, List.mem_filter]
  grind

end NameSet

end UsageLint
