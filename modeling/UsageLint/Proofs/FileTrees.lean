import UsageLint.Glob.Discovery
import UsageLint.Proofs.PathOrder

namespace UsageLint.Files

open UsageLint.Glob (Spot)
open UsageLint.Text

/-!
# File trees

A disk keeps the entries of a directory under different names, each of which is
one step down. In such a tree everything below a place is found again under the
path by which it was reached.
-/

/-- A name is one step down. -/
structure IsEntryName (name : String) : Prop where
  nonempty : name ≠ ""
  notCurrent : name ≠ "."
  notParent : name ≠ ".."
  noSlash : '/' ∉ name.toList

instance (name : String) : Decidable (IsEntryName name) :=
  decidable_of_iff
    (name ≠ "" ∧ name ≠ "." ∧ name ≠ ".." ∧ '/' ∉ name.toList)
    ⟨fun ⟨nonempty, notCurrent, notParent, noSlash⟩ =>
        ⟨nonempty, notCurrent, notParent, noSlash⟩,
      fun isName =>
        ⟨isName.nonempty, isName.notCurrent, isName.notParent, isName.noSlash⟩⟩

/-- The name of an entry is read as an ordinary component. -/
theorem IsEntryName.ofSegment? {name : String} (isName : IsEntryName name) :
    Path.Component.ofSegment? name.toList = some (.name name.toList) := by
  have notCurrent : name.toList ≠ ['.'] := by
    intro same
    exact isName.notCurrent (String.toList_inj.mp same)
  have notParent : name.toList ≠ ['.', '.'] := by
    intro same
    exact isName.notParent (String.toList_inj.mp same)
  have nonempty : name.toList ≠ [] := by
    intro same
    exact isName.nonempty (String.toList_inj.mp same)
  unfold Path.Component.ofSegment?
  split <;> simp_all

mutual

/-- The names of each directory are steps down and differ from one another. -/
def Entry.IsWellFormed : Entry → Prop
  | .file _ => True
  | .directory entries =>
      (entries.map Prod.fst).Nodup ∧ AreWellFormed entries

/-- Named entries are well-formed, and so are their names. -/
def AreWellFormed : List (String × Entry) → Prop
  | [] => True
  | (name, entry) :: rest =>
      IsEntryName name ∧ entry.IsWellFormed ∧ AreWellFormed rest

end

/-- An entry is looked up by its name, names in a directory being distinct. -/
theorem lookup?_of_mem
    {entries : List (String × Entry)}
    (distinct : (entries.map Prod.fst).Nodup)
    {name : String}
    {entry : Entry}
    (among : (name, entry) ∈ entries) :
    NameTable.lookup? name entries = some entry := by
  induction entries with
  | nil =>
      cases among
  | cons first rest inductionHypothesis =>
      rcases first with ⟨other, otherEntry⟩
      rw [List.map_cons, List.nodup_cons] at distinct
      rcases List.mem_cons.mp among with isFirst | isLater
      · cases isFirst
        simp [NameTable.lookup?]
      · have differs : other ≠ name := by
          intro same
          exact distinct.1 (List.mem_map.mpr ⟨_, isLater, same.symm⟩)
        simp [NameTable.lookup?, differs, inductionHypothesis distinct.2 isLater]

/-- The entries of a well-formed directory are well formed, and so are their names. -/
theorem isWellFormed_of_mem
    {entries : List (String × Entry)}
    (wellFormed : AreWellFormed entries)
    {name : String}
    {entry : Entry}
    (among : (name, entry) ∈ entries) :
    IsEntryName name ∧ entry.IsWellFormed := by
  induction entries with
  | nil =>
      cases among
  | cons first rest inductionHypothesis =>
      obtain ⟨isName, firstWellFormed, restWellFormed⟩ := wellFormed
      rcases List.mem_cons.mp among with isFirst | isLater
      · cases isFirst
        exact ⟨isName, firstWellFormed⟩
      · exact inductionHypothesis restWellFormed isLater

/-- What is looked up is an entry of the directory. -/
theorem mem_of_lookup?
    {entries : List (String × Entry)}
    {name : String}
    {entry : Entry}
    (found : NameTable.lookup? name entries = some entry) :
    (name, entry) ∈ entries := by
  fun_induction NameTable.lookup? name entries with
  | case1 =>
      cases found
  | case2 =>
      cases found
      exact List.mem_cons_self ..
  | case3 _ _ _ _ inductionHypothesis =>
      exact List.mem_cons_of_mem _ (inductionHypothesis found)

namespace Place

/-- A place in a tree that a disk can hold. -/
structure IsWellFormed (place : Place) : Prop where
  entry : place.entry.IsWellFormed
  above : ∀ entry ∈ place.above, entry.IsWellFormed

/-- Going up from a well-formed place leads to one. -/
theorem IsWellFormed.up
    {place : Place}
    (wellFormed : place.IsWellFormed) :
    place.up.IsWellFormed := by
  rcases place with ⟨entry, above⟩
  cases above with
  | nil =>
      exact wellFormed
  | cons nearest farther =>
      obtain ⟨nearestWellFormed, fartherWellFormed⟩ :=
        List.forall_mem_cons.mp wellFormed.above
      exact ⟨nearestWellFormed, fartherWellFormed⟩

/-- Entering an entry of a well-formed place leads to one. -/
theorem IsWellFormed.down?
    {place next : Place}
    {name : String}
    (wellFormed : place.IsWellFormed)
    (entered : place.down? name = some next) :
    next.IsWellFormed := by
  obtain ⟨child, found, rfl⟩ := Option.map_eq_some_iff.mp entered
  refine ⟨?_, List.forall_mem_cons.mpr ⟨wellFormed.entry, wellFormed.above⟩⟩
  cases shape : place.entry with
  | file content =>
      rw [shape] at found
      cases found
  | directory entries =>
      rw [shape] at found
      have inTree := wellFormed.entry
      rw [shape] at inTree
      exact (isWellFormed_of_mem inTree.2 (mem_of_lookup? found)).2

/-- Following a segment leads to a place in the same tree. -/
theorem IsWellFormed.step
    {place next : Place}
    {segment : String}
    (wellFormed : place.IsWellFormed)
    (stepped : place.step segment = .ok next) :
    next.IsWellFormed := by
  unfold Place.step at stepped
  split at stepped
  · split at stepped
    · cases stepped
      exact wellFormed
    · split at stepped
      · cases stepped
        exact wellFormed.up
      · split at stepped
        · cases stepped
          rename_i entered
          exact wellFormed.down? entered
        · cases stepped
  · cases stepped

/-- An empty segment does not move. -/
theorem eq_of_step_empty
    {place next : Place}
    (stepped : place.step "" = .ok next) :
    next = place := by
  unfold step at stepped
  split at stepped
  · cases stepped
    rfl
  · cases stepped

/-- The name of an entry leads to that entry, with the directory above it. -/
theorem step_of_lookup?
    {entries : List (String × Entry)}
    {above : List Entry}
    {name : String}
    {entry : Entry}
    (isName : IsEntryName name)
    (found : NameTable.lookup? name entries = some entry) :
    step ⟨.directory entries, above⟩ name =
      .ok ⟨entry, .directory entries :: above⟩ := by
  simp [step, Entry.isDirectory, down?, Entry.child?, found, isName.nonempty,
    isName.notCurrent, isName.notParent]

end Place

namespace Entry

variable {top : Entry}

/-- Follow segments from the topmost directory. -/
def followSegments (top : Entry) (segments : List (List Char)) : Except ReadError Place :=
  segments.foldlM (fun place segment => place.step (String.ofList segment)) (.top top)

/-- Following one more segment is one step from where the others led. -/
theorem followSegments_concat
    {segments : List (List Char)}
    {place : Place}
    (followed : top.followSegments segments = .ok place)
    (segment : List Char) :
    top.followSegments (segments ++ [segment]) = place.step (String.ofList segment) := by
  rw [followSegments] at followed ⊢
  rw [List.foldlM_append, followed]
  change (place.step (String.ofList segment)).bind Except.ok = _
  cases place.step (String.ofList segment) <;> rfl

/-- What an empty last segment leads to is reached without it. -/
theorem followSegments_of_concat_nil
    {segments : List (List Char)}
    {place : Place}
    (followed : top.followSegments (segments ++ [[]]) = .ok place) :
    top.followSegments segments = .ok place := by
  cases before : top.followSegments segments with
  | error cause =>
      rw [followSegments] at followed before
      rw [List.foldlM_append, before] at followed
      cases followed
  | ok earlier =>
      rw [followSegments_concat before] at followed
      rw [Place.eq_of_step_empty followed]

/-- A segment below a directory is followed by following the directory first. -/
theorem find_join
    {path : Path}
    (absolute : path.isAbsolute = true)
    {place next : Place}
    (found : top.find path = .ok place)
    {segment : String}
    (noSlash : '/' ∉ segment.toList)
    (stepped : place.step segment = .ok next) :
    top.find (path.join ⟨segment⟩) = .ok next := by
  obtain ⟨front, joined, isFront⟩ := Path.exists_front_of_join absolute noSlash
  have atFront : top.followSegments (segments front) = .ok place := by
    rcases isFront with isWhole | endsInSlash
    · rw [← isWhole]
      exact found
    · have shape : segments path.text.toList = segments front ++ [[]] := by
        rw [endsInSlash]
        exact segments_append_slash front []
      apply followSegments_of_concat_nil
      rw [← shape]
      exact found
  change top.followSegments (segments (path.join ⟨segment⟩).text.toList) = .ok next
  rw [joined, segments_append_slash, segments_of_noSlash noSlash,
    followSegments_concat atFront, String.ofList_toList, stepped]

end Entry

end UsageLint.Files

namespace UsageLint.Glob.Spot

open UsageLint.Files
open UsageLint.Text

/-- A spot is where its path leads in a tree that a disk can hold. -/
structure IsFound (top : Entry) (spot : Spot) : Prop where
  absolute : spot.path.isAbsolute = true
  wellFormed : spot.place.IsWellFormed
  found : top.find spot.path = .ok spot.place

variable {top : Entry} {spot : Spot}

/-- Where a step of the path leads is found under the longer path. -/
theorem IsFound.join
    (isFound : spot.IsFound top)
    {segment : String}
    (noSlash : '/' ∉ segment.toList)
    {next : Place}
    (stepped : spot.place.step segment = .ok next) :
    IsFound top ⟨spot.path.join ⟨segment⟩, next⟩ where
  absolute := Path.isAbsolute_join isFound.absolute _
  wellFormed := isFound.wellFormed.step stepped
  found := Entry.find_join isFound.absolute isFound.found noSlash stepped

/-- A spot entered from one that its path leads to is where its own path leads. -/
theorem IsFound.enter?
    (isFound : spot.IsFound top)
    {segment : String}
    (noSlash : '/' ∉ segment.toList)
    {next : Spot}
    (entered : spot.enter? segment = some next) :
    next.IsFound top := by
  rcases next with ⟨path, place⟩
  obtain ⟨reached, stepped⟩ := enter?_eq_some_iff.mp entered
  cases reached
  exact isFound.join noSlash stepped

/-- The topmost directory is where a slash leads. -/
theorem isFound_top
    {entries : List (String × Entry)}
    (wellFormed : (Entry.directory entries).IsWellFormed) :
    (Spot.top (.directory entries)).IsFound (.directory entries) where
  absolute := Path.isAbsolute_slash
  wellFormed := ⟨wellFormed, nofun⟩
  found := by
    have shape : segments "/".toList = [[], []] := by decide
    change Entry.followSegments _ (segments "/".toList) = _
    rw [shape]
    rfl

/-- Reading a file by its path is reading what is there. -/
theorem IsFound.readText_file
    (isFound : spot.IsFound top)
    {content : ByteArray}
    (isFile : spot.place.entry = .file content) :
    top.readText spot.path = (String.fromUTF8? content).elim (.error .notText) .ok := by
  simp only [Entry.readText, Entry.readBytes, isFound.found, bind, Except.bind, isFile]
  cases shape : String.fromUTF8? content with
  | none =>
      simp only [pure, Except.pure, shape]
      rfl
  | some text =>
      simp only [pure, Except.pure, shape]
      rfl

/-- Reading a directory as a file fails, and says that it is one. -/
theorem IsFound.readText_directory
    (isFound : spot.IsFound top)
    {entries : List (String × Entry)}
    (isDirectory : spot.place.entry = .directory entries) :
    top.readText spot.path = .error .isDirectory := by
  simp only [Entry.readText, Entry.readBytes, isFound.found, bind, Except.bind, isDirectory]
  rfl

mutual

/-- Everything listed below an entry is where its own path leads. -/
theorem isFound_of_mem_belowEntry
    {named : String × Spot}
    {path : Path}
    {above : List Entry} :
    ∀ {entry : Entry},
      IsFound top ⟨path, ⟨entry, above⟩⟩ →
      named ∈ belowEntry path above entry →
      named.2.IsFound top
  | .file _, _, among => by
      simp [belowEntry] at among
  | .directory entries, isFound, among => by
      rw [belowEntry] at among
      obtain ⟨distinct, wellFormed⟩ := isFound.wellFormed.entry
      apply isFound_of_mem_belowEntries isFound _ among
      intro name entry isEntry
      exact ⟨(isWellFormed_of_mem wellFormed isEntry).1, lookup?_of_mem distinct isEntry⟩

/-- The entries of a directory that are still to come are found under their names. -/
theorem isFound_of_mem_belowEntries
    {named : String × Spot}
    {path : Path}
    {above : List Entry}
    {all : List (String × Entry)}
    (isFound : IsFound top ⟨path, ⟨.directory all, above⟩⟩) :
    ∀ {entries : List (String × Entry)},
      (∀ name entry,
        (name, entry) ∈ entries →
        IsEntryName name ∧ NameTable.lookup? name all = some entry) →
      named ∈ belowEntries path (.directory all :: above) entries →
      named.2.IsFound top
  | [], _, among => by
      simp [belowEntries] at among
  | (name, entry) :: rest, listed, among => by
      obtain ⟨isName, isListed⟩ := listed name entry (List.mem_cons_self ..)
      have stepped : Place.step ⟨.directory all, above⟩ name = .ok _ :=
        Place.step_of_lookup? isName isListed
      have entryFound := isFound.join isName.noSlash stepped
      rw [belowEntries, List.mem_cons, List.mem_append] at among
      rcases among with rfl | within | later
      · exact entryFound
      · exact isFound_of_mem_belowEntry entryFound within
      · apply isFound_of_mem_belowEntries isFound _ later
        intro other otherEntry isLater
        exact listed other otherEntry (List.mem_cons_of_mem _ isLater)

end

/-- Everything below a place is found again under its path. -/
theorem IsFound.below
    (isFound : spot.IsFound top)
    {named : String × Spot}
    (among : named ∈ spot.below) :
    named.2.IsFound top :=
  isFound_of_mem_belowEntry isFound among

section Distinct

variable {named : String × Spot}

/-- Joining the name of an entry adds one component, the name. -/
theorem components_join_of_isEntryName
    {path : Path}
    (absolute : path.isAbsolute = true)
    {name : String}
    (isName : IsEntryName name) :
    (path.join ⟨name⟩).components = path.components ++ [.name name.toList] := by
  rw [Path.components_join absolute isName.noSlash, Path.steps,
    List.filterMap_cons_some isName.ofSegment?]
  rfl

mutual

/-- What is below an entry lies at a longer path. -/
theorem exists_components_of_mem_belowEntry
    {path : Path}
    (absolute : path.isAbsolute = true)
    {above : List Entry} :
    ∀ {entry : Entry},
      entry.IsWellFormed →
      named ∈ belowEntry path above entry →
      ∃ name rest,
        named.2.path.components = path.components ++ .name name :: rest
  | .file _, _, among => by
      simp [belowEntry] at among
  | .directory entries, wellFormed, among => by
      rw [belowEntry] at among
      obtain ⟨name, _, rest, shape⟩ :=
        exists_components_of_mem_belowEntries absolute wellFormed.2 among
      exact ⟨name.toList, rest, shape⟩

/-- What lies below the entries of a directory has the name of one of them next in its path. -/
theorem exists_components_of_mem_belowEntries
    {path : Path}
    (absolute : path.isAbsolute = true)
    {above : List Entry} :
    ∀ {entries : List (String × Entry)},
      AreWellFormed entries →
      named ∈ belowEntries path above entries →
      ∃ name ∈ entries.map Prod.fst,
        ∃ rest,
          named.2.path.components = path.components ++ .name name.toList :: rest
  | [], _, among => by
      simp [belowEntries] at among
  | (name, entry) :: rest, wellFormed, among => by
      obtain ⟨isName, entryWellFormed, restWellFormed⟩ := wellFormed
      have joined := components_join_of_isEntryName absolute isName
      rw [belowEntries, List.mem_cons, List.mem_append] at among
      rcases among with rfl | within | later
      · exact ⟨name, List.mem_cons_self .., [], joined⟩
      · obtain ⟨_, _, shape⟩ :=
          exists_components_of_mem_belowEntry (Path.isAbsolute_join absolute _)
            entryWellFormed within
        rw [joined, List.append_assoc] at shape
        exact ⟨name, List.mem_cons_self .., _, shape⟩
      · obtain ⟨other, isOther, shape⟩ :=
          exists_components_of_mem_belowEntries absolute restWellFormed later
        exact ⟨other, List.mem_cons_of_mem _ isOther, shape⟩

end

mutual

/-- No two things below an entry lie at the same path. -/
theorem pairwise_components_belowEntry
    {path : Path}
    (absolute : path.isAbsolute = true)
    {above : List Entry} :
    ∀ {entry : Entry},
      entry.IsWellFormed →
      (belowEntry path above entry).Pairwise fun left right =>
        left.2.path.components ≠ right.2.path.components
  | .file _, _ => by
      rw [belowEntry]
      exact List.Pairwise.nil
  | .directory entries, wellFormed => by
      rw [belowEntry]
      exact pairwise_components_belowEntries absolute wellFormed.1 wellFormed.2

/-- No two spots listed below a directory have paths of the same components. -/
theorem pairwise_components_belowEntries
    {path : Path}
    (absolute : path.isAbsolute = true)
    {above : List Entry} :
    ∀ {entries : List (String × Entry)},
      (entries.map Prod.fst).Nodup →
      AreWellFormed entries →
      (belowEntries path above entries).Pairwise fun left right =>
        left.2.path.components ≠ right.2.path.components
  | [], _, _ => by
      rw [belowEntries]
      exact List.Pairwise.nil
  | (name, entry) :: rest, distinct, wellFormed => by
      obtain ⟨isName, entryWellFormed, restWellFormed⟩ := wellFormed
      rw [List.map_cons, List.nodup_cons] at distinct
      have joined := components_join_of_isEntryName absolute isName
      have joinedAbsolute := Path.isAbsolute_join absolute ⟨name⟩
      -- What comes later lies below another entry of the directory.
      have elsewhere :
          ∀ later ∈ belowEntries path above rest,
            ∀ more,
              path.components ++ .name name.toList :: more ≠
                later.2.path.components := by
        intro later isLater more same
        obtain ⟨other, isOther, otherMore, shape⟩ :=
          exists_components_of_mem_belowEntries absolute restWellFormed isLater
        rw [shape, List.append_cancel_left_eq] at same
        injection same with sameStep _
        injection sameStep with sameLetters
        rw [String.toList_inj.mp sameLetters] at distinct
        exact distinct.1 isOther
      rw [belowEntries, List.pairwise_cons, List.pairwise_append]
      refine ⟨?_, pairwise_components_belowEntry joinedAbsolute entryWellFormed,
        pairwise_components_belowEntries absolute distinct.2 restWellFormed, ?_⟩
      · intro other among
        rw [joined]
        rcases List.mem_append.mp among with within | later
        · obtain ⟨_, _, shape⟩ :=
            exists_components_of_mem_belowEntry joinedAbsolute entryWellFormed within
          rw [shape, joined]
          simp
        · exact elsewhere other later []
      · intro inner within later isLater
        obtain ⟨_, _, shape⟩ :=
          exists_components_of_mem_belowEntry joinedAbsolute entryWellFormed within
        rw [shape, joined, List.append_assoc]
        exact elsewhere later isLater _

end

/-- Everything below a place lies at a path of its own. -/
theorem IsFound.pairwise_below (isFound : spot.IsFound top) :
    spot.below.Pairwise fun left right => left.2.path.compare right.2.path ≠ .eq := by
  have differ :
      spot.below.Pairwise fun left right =>
        left.2.path.components ≠ right.2.path.components :=
    pairwise_components_belowEntry isFound.absolute isFound.wellFormed.entry
  apply differ.imp
  intro left right different same
  exact different ((Path.compare_eq_eq_iff _ _).mp same)

end Distinct

end UsageLint.Glob.Spot
