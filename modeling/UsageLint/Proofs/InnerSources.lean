import UsageLint.Proofs.LenientRuns
import UsageLint.Proofs.RelativePaths

namespace UsageLint

open UsageLint.Files
open UsageLint.Glob
open UsageLint.Report
open UsageLint.Syntax
open UsageLint.Text

/-!
# Inner sources

What lies below a plain root lies there under paths that lead to it from the root and
do not depend on where the root is. A run is told by these paths, by what lies there,
and by what is left out of it.
-/

namespace Files

/-- An entry below another with its name and the path that leads to it. -/
structure Inner where
  path : Path
  name : String
  entry : Entry

/-- The same entry, seen from the directory in which an entry that it is below lies. -/
def Inner.under (inner : Inner) (name : String) : Inner :=
  { inner with path := Path.join ⟨name⟩ inner.path }

mutual

/-- Everything below an entry, outer entries first. -/
def Entry.within : Entry → List Inner
  | .file _ => []
  | .directory entries => entriesWithin entries

/-- Some entries of a directory and everything below them. -/
def entriesWithin : List (String × Entry) → List Inner
  | [] => []
  | (name, entry) :: rest =>
      ⟨⟨name⟩, name, entry⟩ ::
        (entry.within.map (·.under name) ++ entriesWithin rest)

end

theorem IsEntryName.isEmpty {name : String} (isName : IsEntryName name) :
    name.isEmpty = false := by
  rw [String.isEmpty_eq_false_iff]
  exact isName.nonempty

theorem IsEntryName.isTidy {name : String} (isName : IsEntryName name) :
    Path.IsTidy ⟨name⟩ := by
  intro segment among
  rw [segments_of_noSlash isName.noSlash, List.mem_singleton] at among
  rw [among, Path.isStep, isName.ofSegment?]
  rfl

/-- An entry's name put before a tidy path gives a tidy path. -/
theorem Inner.isTidy_under
    {inner : Inner}
    (tidy : inner.path.IsTidy)
    {name : String}
    (isName : IsEntryName name) :
    (inner.under name).path.IsTidy := by
  intro segment among
  rw [under, Path.segments_join_of_segment isName.isEmpty isName.noSlash tidy.relative,
    List.mem_cons] at among
  rcases among with rfl | later
  · exact isName.isTidy _ (by
      rw [segments_of_noSlash isName.noSlash]
      exact List.mem_cons_self ..)
  · exact tidy segment later

mutual

/-- The paths of what is below an entry have steps for segments. -/
theorem isTidy_of_mem_within
    {inner : Inner} :
    ∀ {entry : Entry},
      entry.IsWellFormed →
      inner ∈ entry.within →
      inner.path.IsTidy
  | .file _, _, among => by
      simp [Entry.within] at among
  | .directory entries, wellFormed, among => by
      rw [Entry.within] at among
      exact isTidy_of_mem_entriesWithin wellFormed.2 among

/-- Everything found within the entries of a directory has a tidy path. -/
theorem isTidy_of_mem_entriesWithin
    {inner : Inner} :
    ∀ {entries : List (String × Entry)},
      AreWellFormed entries →
      inner ∈ entriesWithin entries →
      inner.path.IsTidy
  | [], _, among => by
      simp [entriesWithin] at among
  | (name, entry) :: rest, wellFormed, among => by
      obtain ⟨isName, entryWellFormed, restWellFormed⟩ := wellFormed
      rw [entriesWithin, List.mem_cons, List.mem_append, List.mem_map] at among
      rcases among with rfl | ⟨deeper, isDeeper, rfl⟩ | later
      · exact isName.isTidy
      · exact Inner.isTidy_under (isTidy_of_mem_within entryWellFormed isDeeper) isName
      · exact isTidy_of_mem_entriesWithin restWellFormed later

end

/-- An entry below another as it is found from a path. -/
def Inner.seenFrom (path : Path) (inner : Inner) : String × Path × Entry :=
  (inner.name, path.join inner.path, inner.entry)

/-- Seen from a directory, what lies under a name is what is seen from that name's path. -/
theorem Inner.seenFrom_under
    {path : Path}
    (absolute : path.isAbsolute = true)
    {name : String}
    (isName : IsEntryName name)
    {inner : Inner}
    (tidy : inner.path.IsTidy) :
    (inner.under name).seenFrom path = inner.seenFrom (path.join ⟨name⟩) := by
  rw [seenFrom, seenFrom, under,
    Path.join_join (Path.isEmpty_of_isAbsolute absolute) isName.isEmpty
      isName.isTidy.relative tidy.relative]

/-- The parts of a found entry that do not tell where its directory lies. -/
def seen (named : String × Spot) : String × Path × Entry :=
  (named.1, named.2.path, named.2.place.entry)

mutual

/-- What lies below an entry is found there wherever the entry lies. -/
theorem map_seen_belowEntry
    {path : Path}
    (absolute : path.isAbsolute = true)
    (above : List Entry) :
    ∀ {entry : Entry},
      entry.IsWellFormed →
      (Spot.belowEntry path above entry).map seen =
        entry.within.map (Inner.seenFrom path)
  | .file _, _ => by
      rw [Spot.belowEntry, Entry.within]
      rfl
  | .directory entries, wellFormed => by
      rw [Spot.belowEntry, Entry.within]
      exact map_seen_belowEntries absolute _ wellFormed.2

/-- What is listed below a directory is what lies within its entries, seen from its path. -/
theorem map_seen_belowEntries
    {path : Path}
    (absolute : path.isAbsolute = true)
    (above : List Entry) :
    ∀ {entries : List (String × Entry)},
      AreWellFormed entries →
      (Spot.belowEntries path above entries).map seen =
        (entriesWithin entries).map (Inner.seenFrom path)
  | [], _ => by
      rw [Spot.belowEntries, entriesWithin]
      rfl
  | (name, entry) :: rest, wellFormed => by
      obtain ⟨isName, entryWellFormed, restWellFormed⟩ := wellFormed
      have deeper :=
        map_seen_belowEntry (Path.isAbsolute_join absolute ⟨name⟩) above entryWellFormed
      have sameSight :
          entry.within.map (Inner.seenFrom (path.join ⟨name⟩)) =
            (entry.within.map (·.under name)).map (Inner.seenFrom path) := by
        rw [List.map_map]
        apply List.map_congr_left
        intro inner among
        exact (Inner.seenFrom_under absolute isName
          (isTidy_of_mem_within entryWellFormed among)).symm
      rw [Spot.belowEntries, entriesWithin, List.map_cons, List.map_append, deeper, sameSight,
        map_seen_belowEntries absolute above restWellFormed, List.map_cons, List.map_append]
      rfl

end

end Files

namespace Files

/-- What lies at a path, if anything. -/
def Entry.at? (top : Entry) (path : Path) : Option Entry :=
  (top.find path).toOption.map (·.entry)

end Files

namespace Glob

/-- Entering segments leads to the place that the segments lead to. -/
theorem map_place_foldlM (front : List (List Char)) (start : Spot) :
    (front.foldlM
        (fun (spot : Spot) segment => spot.enter? (String.ofList segment)) start).map
        (·.place) =
      (front.foldlM
        (fun (place : Place) segment => place.step (String.ofList segment))
        start.place).toOption := by
  induction front generalizing start with
  | nil =>
      rfl
  | cons segment rest inductionHypothesis =>
      rw [List.foldlM_cons, List.foldlM_cons]
      cases stepped : start.place.step (String.ofList segment) with
      | error cause =>
          simp [Spot.enter?, stepped, Except.toOption, bind, Except.bind]
      | ok place =>
          simpa [Spot.enter?, stepped, bind, Except.bind] using inductionHypothesis _

/-- A root is entered where its path leads. -/
theorem map_entry_rootSpot?
    {root : Path}
    (absolute : root.isAbsolute = true)
    (top : Entry) :
    (rootSpot? top root).map (·.place.entry) = top.at? root := by
  obtain ⟨rest, shape⟩ := Path.segments_of_isAbsolute absolute
  have entered := map_place_foldlM (segments rest) (Spot.top top)
  rw [Entry.at?, Entry.find, rootSpot?, shape, List.tail_cons, List.foldlM_cons]
  cases top with
  | file content =>
      -- A file cannot be entered, and an absolute path has a segment to enter.
      cases others : segments rest with
      | nil =>
          exact absurd others (segments_ne_nil rest)
      | cons segment later =>
          rfl
  | directory entries =>
      -- The slash that opens the path stays at the topmost directory.
      have opened : (Place.top (.directory entries)).step (String.ofList []) = .ok _ := rfl
      rw [opened]
      exact (Option.map_map ..).symm.trans (congrArg (Option.map (·.entry)) entered)

/-- Segments that are entered add their steps to a path, and no letters but their own. -/
theorem path_of_foldlM
    {front : List (List Char)}
    (noSlash : ∀ segment ∈ front, '/' ∉ segment)
    {start spot : Spot}
    (absolute : start.path.isAbsolute = true)
    (entered :
      front.foldlM
          (fun (spot : Spot) segment => spot.enter? (String.ofList segment)) start =
        some spot) :
    spot.path.components = start.path.components ++ Path.steps front ∧
      ∀ segment,
        segment ≠ [] →
        (segment ∈ segments spot.path.text.toList ↔
          segment ∈ segments start.path.text.toList ∨ segment ∈ front) := by
  induction front generalizing start with
  | nil =>
      cases entered
      simp [Path.steps]
  | cons first rest inductionHypothesis =>
      rw [List.forall_mem_cons] at noSlash
      rw [List.foldlM_cons] at entered
      obtain ⟨next, isNext, later⟩ := Option.bind_eq_some_iff.mp entered
      obtain ⟨reached, _⟩ := Spot.enter?_eq_some_iff.mp isNext
      have firstNoSlash : '/' ∉ (String.ofList first).toList := by
        rw [String.toList_ofList]
        exact noSlash.1
      have nextAbsolute := Path.isAbsolute_join absolute ⟨String.ofList first⟩
      rw [← reached] at nextAbsolute
      obtain ⟨isPath, within⟩ := inductionHypothesis noSlash.2 nextAbsolute later
      constructor
      · rw [isPath, reached, Path.components_join absolute firstNoSlash, List.append_assoc,
          ← Path.steps_append, String.toList_ofList, List.singleton_append]
      · intro segment letters
        rw [within segment letters, reached,
          Path.mem_segments_join (Path.isEmpty_of_isAbsolute absolute)
            (Path.isAbsolute_of_noSlash firstNoSlash) letters,
          segments_of_noSlash firstNoSlash, String.toList_ofList, List.mem_singleton,
          List.mem_cons, or_assoc]

/-- A root is entered under a path with its components and its segments, but for idle ones. -/
theorem path_of_rootSpot?
    {top : Entry}
    {root : Path}
    {spot : Spot}
    (absolute : root.isAbsolute = true)
    (entered : rootSpot? top root = some spot) :
    spot.path.components = root.components ∧
      ∀ segment,
        segment ≠ [] →
        (segment ∈ segments spot.path.text.toList ↔
          segment ∈ segments root.text.toList) := by
  have noSlash : ∀ segment ∈ (segments root.text.toList).tail, '/' ∉ segment := by
    intro segment among
    exact noSlash_of_mem_segments (List.mem_of_mem_tail among)
  obtain ⟨rest, shape⟩ := Path.segments_of_isAbsolute absolute
  obtain ⟨isPath, within⟩ := path_of_foldlM noSlash Path.isAbsolute_slash entered
  constructor
  · have opened : (Path.mk "/").components = [.root] := by decide
    rw [isPath, Path.components_of_isAbsolute absolute, shape, Spot.top, opened]
    rfl
  · intro segment letters
    have opened : segments "/".toList = [[], []] := by decide
    rw [within segment letters, shape, Spot.top, opened, List.tail_cons, List.mem_cons]
    simp [letters]

end Glob

namespace Linter

/-- What has the name of a source below an entry and is not left out. -/
def keptWithin (excluded : Path → Bool) (entry : Entry) : List Inner :=
  (Dialect.extensions.flatMap fun extension =>
      entry.within.filter fun inner => hasExtension inner.name extension).filter
    fun inner => !excluded inner.path

/-- What is kept below an entry in the order of the paths from there. -/
def sourcesWithin (excluded : Path → Bool) (entry : Entry) : List Inner :=
  (keptWithin excluded entry).mergeSort fun left right =>
    (left.path.compare right.path).isLE

/-- The sources below the root under the paths that lead to them from there. -/
def innerSources (linter : Linter) (workspace : Workspace) : List Inner :=
  (rootSpot? workspace.files linter.root).elim [] fun spot =>
    sourcesWithin (fun below => isExcluded linter.excludes (spot.path.join below))
      spot.place.entry

/-- What is found in an entry that is reported under its path. -/
def checkInner (linter : Linter) (grammar : Grammar) (inner : Inner) :
    Except LintError (Option (List Violation)) :=
  match inner.entry with
  | .directory _ => .error (.unreadable .isDirectory)
  | .file content =>
      match String.fromUTF8? content with
      | some text => (linter.lintSource grammar inner.path text).map some
      | none => .ok none

variable {linter : Linter} {workspace : Workspace}

/-- What is kept within an entry lies within it. -/
theorem mem_within_of_mem_keptWithin
    {excluded : Path → Bool}
    {entry : Entry}
    {inner : Inner}
    (among : inner ∈ keptWithin excluded entry) :
    inner ∈ entry.within := by
  obtain ⟨_, _, kept⟩ := List.mem_flatMap.mp (List.mem_filter.mp among).1
  exact (List.mem_filter.mp kept).1

/-- What is kept depends on the test for what there is only. -/
theorem sourcesWithin_congr
    {entry : Entry}
    {first second : Path → Bool}
    (same : ∀ inner ∈ entry.within, first inner.path = second inner.path) :
    sourcesWithin first entry = sourcesWithin second entry := by
  have sameKept : keptWithin first entry = keptWithin second entry := by
    apply List.filter_congr
    intro inner among
    obtain ⟨_, _, isNamed⟩ := List.mem_flatMap.mp among
    rw [same inner (List.mem_filter.mp isNamed).1]
  rw [sourcesWithin, sourcesWithin, sameKept]

/-- Checking what is found at a path is checking the entry under the path it is shown by. -/
theorem check_of_isFound
    {spot : Spot}
    (isFound : spot.IsFound workspace.files)
    {inner : Inner}
    (isShown : linter.shownPath spot.path = inner.path)
    (isThere : spot.place.entry = inner.entry) :
    linter.check workspace spot.path = linter.checkInner workspace.grammar inner := by
  unfold checkInner
  cases shape : inner.entry with
  | directory entries =>
      have unread := isFound.readText_directory (isThere.trans shape)
      simp only [check, unread]
  | file content =>
      have read := isFound.readText_file (isThere.trans shape)
      cases isText : String.fromUTF8? content <;>
        simp only [check, read, isText, isShown, Option.elim]

section Root

variable
  (absolute : linter.root.isAbsolute = true)
  (wellFormed : workspace.files.IsWellFormed)
  {spot : Spot}
  (entered : rootSpot? workspace.files linter.root = some spot)

include absolute wellFormed entered

/-- What is listed below the root is what lies within its entry, seen from the root's path. -/
theorem map_seen_belowRoot :
    (belowRoot workspace.files linter.root).map seen =
      spot.place.entry.within.map (Inner.seenFrom spot.path) := by
  have isFound := isFound_of_rootSpot? wellFormed absolute entered
  rw [belowRoot, entered, Option.toList_some, List.flatMap_singleton]
  exact map_seen_belowEntry isFound.absolute spot.place.above isFound.wellFormed.entry

/--
The files found with an extension are those within the root's entry, joined to the root's path.
-/
theorem found_eq_map_within (extension : String) :
    (((belowRoot workspace.files linter.root).filter fun named =>
          hasExtension named.1 extension).map fun named => named.2.path) =
      (spot.place.entry.within.filter fun inner => hasExtension inner.name extension).map
        fun inner => spot.path.join inner.path := by
  have sights :=
    congrArg
      (fun sights => (sights.filter fun sight => hasExtension sight.1 extension).map (·.2.1))
      (map_seen_belowRoot absolute wellFormed entered)
  simpa [List.filter_map, Function.comp_def, seen, Inner.seenFrom] using sights

/-- What is discovered below a plain root lies where it lies below what is there. -/
theorem discover_eq_map_sourcesWithin (plain : IsPlain linter.root.text.toList) :
    linter.discover workspace =
      .ok
        ((sourcesWithin (fun below => isExcluded linter.excludes (spot.path.join below))
            spot.place.entry).map fun inner => spot.path.join inner.path) := by
  have isFound := isFound_of_rootSpot? wellFormed absolute entered
  rw [discover_eq_ok_iff]
  refine
    ⟨Dialect.extensions.map fun extension =>
      (spot.place.entry.within.filter fun inner => hasExtension inner.name extension).map
        fun inner => spot.path.join inner.path, ?_, ?_⟩
  · rw [List.map_map]
    apply List.map_congr_left
    intro extension isExtension
    rw [discover_patternFor plain isExtension,
      found_eq_map_within absolute wellFormed entered]
    rfl
  · have tidy :
        ∀ inner ∈
            keptWithin (fun below => isExcluded linter.excludes (spot.path.join below))
              spot.place.entry,
          inner.path.IsTidy := by
      intro inner among
      exact isTidy_of_mem_within isFound.wellFormed.entry (mem_within_of_mem_keptWithin among)
    rw [sourcesWithin, kept, ← List.flatMap_def, ← List.map_flatMap, List.filter_map]
    apply List.map_mergeSort
    intro left isLeft right isRight
    rw [Path.compare_join isFound.absolute (tidy left isLeft) (tidy right isRight)]

/-- A path below the root is shown as it leads on from there. -/
theorem shownPath_join
    {below : Path}
    (tidy : below.IsTidy) :
    linter.shownPath (spot.path.join below) = below := by
  have isFound := isFound_of_rootSpot? wellFormed absolute entered
  have left :=
    Path.relativeTo?_join isFound.absolute absolute (path_of_rootSpot? absolute entered).1 tidy
  rw [shownPath, left, Option.getD_some]

/-- What lies below the root is found where its path leads from there. -/
theorem isFound_of_mem_within
    {inner : Inner}
    (among : inner ∈ spot.place.entry.within) :
    ∃ found : Spot,
      found.IsFound workspace.files ∧
        found.path = spot.path.join inner.path ∧ found.place.entry = inner.entry := by
  have isSight := List.mem_map_of_mem (f := Inner.seenFrom spot.path) among
  rw [← map_seen_belowRoot absolute wellFormed entered] at isSight
  obtain ⟨named, isBelow, same⟩ := List.mem_map.mp isSight
  exact
    ⟨named.2, isFound_of_mem_belowRoot wellFormed absolute isBelow,
      congrArg (·.2.1) same, congrArg (·.2.2) same⟩

/-- Checking a path below the root is checking the entry that lies there. -/
theorem check_join
    {inner : Inner}
    (among : inner ∈ spot.place.entry.within) :
    linter.check workspace (spot.path.join inner.path) =
      linter.checkInner workspace.grammar inner := by
  have rootFound := isFound_of_rootSpot? wellFormed absolute entered
  obtain ⟨found, isFound, isPath, isThere⟩ :=
    isFound_of_mem_within absolute wellFormed entered among
  rw [← isPath]
  apply check_of_isFound isFound _ isThere
  rw [isPath, shownPath_join absolute wellFormed entered
    (isTidy_of_mem_within rootFound.wellFormed.entry among)]

end Root

/-- Functions that agree on the items of a list map it alike, errors included. -/
theorem mapM_congr
    {α β ε : Type}
    {items : List α}
    {first second : α → Except ε β}
    (same : ∀ item ∈ items, first item = second item) :
    items.mapM first = items.mapM second := by
  induction items with
  | nil =>
      rfl
  | cons item rest inductionHypothesis =>
      obtain ⟨sameFirst, sameRest⟩ := List.forall_mem_cons.mp same
      rw [List.mapM_cons, List.mapM_cons, sameFirst, inductionHypothesis sameRest]

/-- Nothing is discovered below a root that leads nowhere. -/
theorem discover_of_rootSpot?_eq_none
    (plain : IsPlain linter.root.text.toList)
    (missing : rootSpot? workspace.files linter.root = none) :
    linter.discover workspace = .ok [] := by
  have nothing : belowRoot workspace.files linter.root = [] := by
    rw [belowRoot, missing]
    rfl
  apply discover_of_pairwise (Dialect.extensions.map fun _ => [])
  · rw [List.map_map]
    apply List.map_congr_left
    intro extension isExtension
    rw [discover_patternFor plain isExtension, nothing]
    rfl
  · simp [kept]
  · exact List.Pairwise.nil

section Runs

variable
  (absolute : linter.root.isAbsolute = true)
  (plain : IsPlain linter.root.text.toList)
  (wellFormed : workspace.files.IsWellFormed)

include absolute plain wellFormed

/-- The discovered sources are shown under the paths that lead to them from the root. -/
theorem shown_discover :
    (linter.discover workspace).map (·.map linter.shownPath) =
      .ok ((linter.innerSources workspace).map (·.path)) := by
  cases entered : rootSpot? workspace.files linter.root with
  | none =>
      rw [discover_of_rootSpot?_eq_none plain entered, innerSources, entered]
      rfl
  | some spot =>
      have rootFound := isFound_of_rootSpot? wellFormed absolute entered
      rw [discover_eq_map_sourcesWithin absolute wellFormed entered plain, innerSources,
        entered, Except.map, List.map_map, Option.elim]
      congr 1
      apply List.map_congr_left
      intro inner among
      apply shownPath_join absolute wellFormed entered
      apply isTidy_of_mem_within rootFound.wellFormed.entry
      exact mem_within_of_mem_keptWithin (List.mem_mergeSort.mp among)

/-- A run is told by the sources below the root and the paths that lead to them. -/
theorem analyze_eq_innerSources :
    linter.analyze workspace =
      ((linter.innerSources workspace).mapM (linter.checkInner workspace.grammar)).map
        fun checked => resultOf (checked.filterMap id) := by
  cases entered : rootSpot? workspace.files linter.root with
  | none =>
      rw [analyze_of_discover (discover_of_rootSpot?_eq_none plain entered), innerSources,
        entered]
      rfl
  | some spot =>
      rw [analyze_of_discover (discover_eq_map_sourcesWithin absolute wellFormed entered plain),
        innerSources, entered, List.mapM_map, Option.elim]
      congr 1
      apply mapM_congr
      intro inner among
      apply check_join absolute wellFormed entered
      exact mem_within_of_mem_keptWithin (List.mem_mergeSort.mp among)

end Runs

end Linter

end UsageLint
