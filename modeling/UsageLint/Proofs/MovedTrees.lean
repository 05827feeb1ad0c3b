import UsageLint.Proofs.ExcludedDirectories
import UsageLint.Proofs.InnerSources

namespace UsageLint

open UsageLint.Files
open UsageLint.Glob
open UsageLint.Syntax
open UsageLint.Text

/-!
# Moved trees

The patterns of directories are matched with whole paths, the root included. So they
leave out the same below two roots unless just one of the roots lies in a directory
with one of the names. Then a tree can be moved from one root to the other, and a run
finds the same in it under the same paths.
-/

namespace Path

/-- All segments of the directory stand between slashes, and those below but the last. -/
theorem mem_innerSegments_join
    {directory below : Path}
    (absolute : directory.isAbsolute = true)
    (relative : below.isAbsolute = false)
    {segment : List Char}
    (letters : segment ≠ []) :
    segment ∈ innerSegments (directory.join below).text.toList ↔
      segment ∈ segments directory.text.toList ∨
        segment ∈ (segments below.text.toList).dropLast := by
  obtain ⟨front, joined, isFront⟩ :=
    exists_segments_of_relative (isEmpty_of_isAbsolute absolute) relative
  have inFront : segment ∈ segments directory.text.toList ↔ segment ∈ segments front := by
    rcases isFront with isWhole | endsInSlash
    · rw [isWhole]
    · rw [endsInSlash, List.mem_append, List.mem_singleton, or_iff_left letters]
  obtain ⟨first, later, opens⟩ := List.exists_cons_of_ne_nil (segments_ne_nil front)
  obtain ⟨rest, shape⟩ := segments_of_isAbsolute (isAbsolute_join absolute below)
  have isEmpty : first = [] := by
    rw [joined, opens, List.cons_append] at shape
    exact (List.cons.inj shape).1
  rw [innerSegments, joined, inFront, opens, List.cons_append, List.tail_cons,
    List.dropLast_append_of_ne_nil (segments_ne_nil _), List.mem_append, List.mem_cons,
    isEmpty, or_iff_right letters]

end Path

namespace Glob

/-- Some of the names is that of the directory or of one in which it lies. -/
def LiesWithin (names : List String) (directory : Path) : Prop :=
  ∃ name ∈ names, name.toList ∈ segments directory.text.toList

section Names

variable
  {names : List String}
  (areNames : ∀ name ∈ names, IsDirectoryName name)

include areNames

theorem toList_ne_nil_of_isDirectoryName
    {name : String}
    (among : name ∈ names) :
    name.toList ≠ [] := by
  rw [ne_eq, String.toList_eq_nil_iff]
  exact (areNames name among).nonempty

/--
A path is excluded if its directory lies within one of the names, or if the path itself goes
through one.
-/
theorem isExcluded_join_iff
    {directory below : Path}
    (absolute : directory.isAbsolute = true)
    (relative : below.isAbsolute = false) :
    isExcluded (names.map directoryPattern) (directory.join below) = true ↔
      LiesWithin names directory ∨
        ∃ name ∈ names, name.toList ∈ (segments below.text.toList).dropLast := by
  have each :
      ∀ name ∈ names,
        (matchesPath (directoryPattern name) (directory.join below) ||
              occursInPath (directoryPattern name) (directory.join below)) = true ↔
          name.toList ∈ segments directory.text.toList ∨
            name.toList ∈ (segments below.text.toList).dropLast := by
    intro name among
    rw [Bool.or_eq_true,
      matchesPath_directoryPattern (areNames name among) (Path.isAbsolute_join absolute below),
      occursInPath_directoryPattern (areNames name among), or_self,
      Path.mem_innerSegments_join absolute relative
        (toList_ne_nil_of_isDirectoryName areNames among)]
  rw [isExcluded, List.any_map, List.any_eq_true, LiesWithin, ← exists_or]
  apply exists_congr
  intro name
  rw [← and_or_left]
  exact and_congr_right fun among => each name among

end Names

end Glob

namespace Linter

/-- The same linter for another root. -/
def rootedAt (linter : Linter) (root : Path) : Linter :=
  { linter with root := root }

/-- What one workspace holds at a path is what another one holds at another path. -/
structure IsMoved (here there : Workspace) (first second : Path) : Prop where
  hereWellFormed : here.files.IsWellFormed
  thereWellFormed : there.files.IsWellFormed
  grammar : here.grammar = there.grammar
  content : here.files.at? first = there.files.at? second

section Moved

variable
  {names : List String}
  (areNames : ∀ name ∈ names, IsDirectoryName name)
  {first second : Path}
  (firstAbsolute : first.isAbsolute = true)
  (secondAbsolute : second.isAbsolute = true)

include areNames

/-- Where the root is found does not change the names it lies within. -/
theorem liesWithin_rootSpot_iff
    {top : Entry}
    {root : Path}
    {spot : Spot}
    (absolute : root.isAbsolute = true)
    (entered : rootSpot? top root = some spot) :
    LiesWithin names spot.path ↔ LiesWithin names root := by
  apply exists_congr
  intro name
  apply and_congr_right
  intro among
  exact (path_of_rootSpot? absolute entered).2 name.toList
    (toList_ne_nil_of_isDirectoryName areNames among)

include firstAbsolute secondAbsolute

/-- A linter has the same inner sources in a tree that was moved. -/
theorem innerSources_eq_of_isMoved
    {linter : Linter}
    (excludes : linter.excludes = names.map directoryPattern)
    (alike : LiesWithin names first ↔ LiesWithin names second)
    {here there : Workspace}
    (moved : IsMoved here there first second) :
    (linter.rootedAt first).innerSources here =
      (linter.rootedAt second).innerSources there := by
  have sameEntry :
      (rootSpot? here.files first).map (·.place.entry) =
        (rootSpot? there.files second).map (·.place.entry) := by
    rw [map_entry_rootSpot? firstAbsolute, map_entry_rootSpot? secondAbsolute, moved.content]
  unfold innerSources rootedAt
  cases enteredHere : rootSpot? here.files first with
  | none =>
      rw [enteredHere, Option.map_none, eq_comm, Option.map_eq_none_iff] at sameEntry
      simp only [sameEntry]
  | some spot =>
      rw [enteredHere, Option.map_some, eq_comm, Option.map_eq_some_iff] at sameEntry
      obtain ⟨other, enteredThere, sameEntry⟩ := sameEntry
      have isFound := isFound_of_rootSpot? moved.hereWellFormed firstAbsolute enteredHere
      have otherFound :=
        isFound_of_rootSpot? moved.thereWellFormed secondAbsolute enteredThere
      simp only [enteredThere, Option.elim, sameEntry]
      apply sourcesWithin_congr
      intro inner among
      have tidy := isTidy_of_mem_within isFound.wellFormed.entry among
      rw [Bool.eq_iff_iff, excludes, isExcluded_join_iff areNames isFound.absolute tidy.relative,
        isExcluded_join_iff areNames otherFound.absolute tidy.relative,
        liesWithin_rootSpot_iff areNames firstAbsolute enteredHere,
        liesWithin_rootSpot_iff areNames secondAbsolute enteredThere, alike]

end Moved

/--
Patterns of directories leave out the same below two roots, but for what lies in none
of these directories below them if just one of the roots lies in one. Between other
roots a tree can be moved, and a run checks the same sources of it and finds the same.
-/
theorem moved_trees_are_checked_alike
    {names : List String}
    (areNames : ∀ name ∈ names, IsDirectoryName name)
    {first second : Path}
    (firstAbsolute : first.isAbsolute = true)
    (secondAbsolute : second.isAbsolute = true) :
    (∀ below : Path,
        below.isAbsolute = false →
        (isExcluded (names.map directoryPattern) (first.join below) =
            isExcluded (names.map directoryPattern) (second.join below) ↔
          (∃ name ∈ names, name.toList ∈ (segments below.text.toList).dropLast) ∨
            (LiesWithin names first ↔ LiesWithin names second))) ∧
      ∀ (linter : Linter) (here there : Workspace),
        linter.excludes = names.map directoryPattern →
        IsPlain first.text.toList →
        IsPlain second.text.toList →
        (LiesWithin names first ↔ LiesWithin names second) →
        IsMoved here there first second →
        ((linter.rootedAt first).discover here).map
              (·.map (linter.rootedAt first).shownPath) =
            ((linter.rootedAt second).discover there).map
              (·.map (linter.rootedAt second).shownPath) ∧
          (linter.rootedAt first).analyze here = (linter.rootedAt second).analyze there := by
  constructor
  · intro below relative
    rw [Bool.eq_iff_iff, isExcluded_join_iff areNames firstAbsolute relative,
      isExcluded_join_iff areNames secondAbsolute relative]
    by_cases inside : ∃ name ∈ names, name.toList ∈ (segments below.text.toList).dropLast
    · simp only [inside, or_true, true_or]
    · simp only [inside, or_false, false_or]
  · intro linter here there excludes firstPlain secondPlain alike moved
    have sameSources :=
      innerSources_eq_of_isMoved areNames firstAbsolute secondAbsolute excludes alike moved
    have hereAbsolute : (linter.rootedAt first).root.isAbsolute = true := firstAbsolute
    have thereAbsolute : (linter.rootedAt second).root.isAbsolute = true := secondAbsolute
    have herePlain : IsPlain (linter.rootedAt first).root.text.toList := firstPlain
    have therePlain : IsPlain (linter.rootedAt second).root.text.toList := secondPlain
    constructor
    · rw [shown_discover hereAbsolute herePlain moved.hereWellFormed,
        shown_discover thereAbsolute therePlain moved.thereWellFormed, sameSources]
    · rw [analyze_eq_innerSources hereAbsolute herePlain moved.hereWellFormed,
        analyze_eq_innerSources thereAbsolute therePlain moved.thereWellFormed, sameSources,
        moved.grammar]
      rfl

/-- The tree of two texts and other things, with its root one directory further down. -/
def deeperWorkspace : Workspace :=
  { blankWorkspace mixedEntries with
    files := .directory [("s", (blankWorkspace mixedEntries).files)] }

/--
The tree of mixed entries is checked alike when its root is put one directory further down,
and a path within it is excluded at both places or at neither.
-/
theorem mixed_tree_moves_down :
    (∀ name ∈ ["node_modules"], IsDirectoryName name) ∧
      Path.isAbsolute ⟨"/r"⟩ = true ∧
      Path.isAbsolute ⟨"/s/r"⟩ = true ∧
      Path.isAbsolute ⟨"lib/c.ts"⟩ = false ∧
      isExcluded (["node_modules"].map directoryPattern) (Path.join ⟨"/r"⟩ ⟨"lib/c.ts"⟩) =
        isExcluded (["node_modules"].map directoryPattern)
          (Path.join ⟨"/s/r"⟩ ⟨"lib/c.ts"⟩) ∧
      blankLinter.excludes = ["node_modules"].map directoryPattern ∧
      IsPlain (Path.mk "/r").text.toList ∧
      IsPlain (Path.mk "/s/r").text.toList ∧
      (LiesWithin ["node_modules"] ⟨"/r"⟩ ↔ LiesWithin ["node_modules"] ⟨"/s/r"⟩) ∧
      IsMoved (blankWorkspace mixedEntries) deeperWorkspace ⟨"/r"⟩ ⟨"/s/r"⟩ ∧
      (blankLinter.rootedAt ⟨"/r"⟩).analyze (blankWorkspace mixedEntries) =
        (blankLinter.rootedAt ⟨"/s/r"⟩).analyze deeperWorkspace := by
  have areNames : ∀ name ∈ ["node_modules"], IsDirectoryName name := by
    intro name among
    rw [List.mem_singleton.mp among]
    exact ⟨by decide, by decide, by simp [IsPlain]⟩
  have firstAbsolute : Path.isAbsolute ⟨"/r"⟩ = true := by
    decide
  have secondAbsolute : Path.isAbsolute ⟨"/s/r"⟩ = true := by
    decide
  have relative : Path.isAbsolute ⟨"lib/c.ts"⟩ = false := by
    decide
  have firstPlain : IsPlain (Path.mk "/r").text.toList := by
    simp [IsPlain]
  have secondPlain : IsPlain (Path.mk "/s/r").text.toList := by
    simp [IsPlain]
  have alike :
      LiesWithin ["node_modules"] ⟨"/r"⟩ ↔ LiesWithin ["node_modules"] ⟨"/s/r"⟩ := by
    unfold LiesWithin
    decide
  have moved : IsMoved (blankWorkspace mixedEntries) deeperWorkspace ⟨"/r"⟩ ⟨"/s/r"⟩ := by
    constructor
    · simp only [blankWorkspace, mixedEntries, Entry.IsWellFormed, AreWellFormed]
      decide
    · simp only [deeperWorkspace, blankWorkspace, mixedEntries, Entry.IsWellFormed,
        AreWellFormed]
      decide
    · rfl
    · rfl
  obtain ⟨excluded, checked⟩ :=
    moved_trees_are_checked_alike areNames firstAbsolute secondAbsolute
  exact
    ⟨areNames, firstAbsolute, secondAbsolute, relative,
      (excluded ⟨"lib/c.ts"⟩ relative).mpr (Or.inr alike), rfl, firstPlain, secondPlain, alike,
      moved,
      (checked blankLinter (blankWorkspace mixedEntries) deeperWorkspace rfl firstPlain
        secondPlain alike moved).2⟩

/--
A file is left out below a root in `node_modules` and kept below another one; a star
may even stand for letters of the root and of what is below it.
-/
theorem exclusion_depends_on_root :
    Path.isAbsolute ⟨"/srv/node_modules/pkg"⟩ = true ∧
      Path.isAbsolute ⟨"/srv/pkg"⟩ = true ∧
      Path.isAbsolute ⟨"a.js"⟩ = false ∧
      isExcluded ["**/node_modules/**"] (Path.join ⟨"/srv/node_modules/pkg"⟩ ⟨"a.js"⟩) =
        true ∧
      isExcluded ["**/node_modules/**"] (Path.join ⟨"/srv/pkg"⟩ ⟨"a.js"⟩) = false ∧
      isExcluded ["**/a*b/**"] (Path.join ⟨"/srv/a"⟩ ⟨"b/f.js"⟩) = true ∧
      isExcluded ["**/a*b/**"] (Path.join ⟨"/srv/c"⟩ ⟨"b/f.js"⟩) = false := by
  decide +kernel

end Linter

end UsageLint
