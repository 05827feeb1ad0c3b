import UsageLint.Proofs.SourcePatterns
import UsageLint.Proofs.StableSort

namespace UsageLint

open UsageLint.Glob
open UsageLint.Syntax

/-!
# Discovered paths

Discovery asks for the paths with each extension, leaves some of them out and
sorts the rest by their components.
-/

namespace Linter

variable {linter : Linter} {workspace : Workspace} {paths : List Path}

/-- The paths that are looked for, found for one extension after another, and kept. -/
def kept (linter : Linter) (found : List (List Path)) : List Path :=
  found.flatten.filter (!isExcluded linter.excludes ·)

theorem discover_eq_ok_iff :
    linter.discover workspace = .ok paths ↔
      ∃ found,
        (Dialect.extensions.map fun extension =>
            Glob.discover workspace.files (linter.patternFor extension)) =
          found.map .ok ∧
        paths =
          (linter.kept found).mergeSort fun left right => (left.compare right).isLE := by
  unfold discover
  cases searched : Dialect.extensions.mapM fun extension =>
      Glob.discover workspace.files (linter.patternFor extension) with
  | error cause =>
      constructor
      · intro discovered
        cases discovered
      · rintro ⟨found, isFound, _⟩
        rw [← mapM_eq_ok_iff, searched] at isFound
        cases isFound
  | ok found =>
      have isFound := (mapM_eq_ok_iff _ _ _).mp searched
      constructor
      · intro discovered
        exact ⟨found, isFound, (Except.ok.inj discovered).symm⟩
      · rintro ⟨others, isOther, rfl⟩
        rw [← mapM_eq_ok_iff, searched] at isOther
        cases isOther
        rfl

/-- Paths that are found in order are discovered as they are. -/
theorem discover_of_pairwise
    (found : List (List Path))
    (searched :
      (Dialect.extensions.map fun extension =>
          Glob.discover workspace.files (linter.patternFor extension)) =
        found.map .ok)
    (isKept : linter.kept found = paths)
    (inOrder : paths.Pairwise fun left right => (left.compare right).isLE = true) :
    linter.discover workspace = .ok paths := by
  rw [discover_eq_ok_iff]
  refine ⟨found, searched, ?_⟩
  rw [isKept, List.mergeSort_of_pairwise inOrder]

/-- Discovered paths are in order. -/
theorem pairwise_of_discover (discovered : linter.discover workspace = .ok paths) :
    paths.Pairwise fun left right => (left.compare right).isLE = true := by
  obtain ⟨found, _, rfl⟩ := discover_eq_ok_iff.mp discovered
  exact pairwise_sorted _

/-- What is discovered was found for one of the extensions, and kept. -/
theorem exists_found_of_discover (discovered : linter.discover workspace = .ok paths) :
    ∃ found : String → List Path,
      (∀ extension ∈ Dialect.extensions,
        Glob.discover workspace.files (linter.patternFor extension) =
          .ok (found extension)) ∧
      paths.Perm (linter.kept (Dialect.extensions.map found)) := by
  obtain ⟨found, searched, rfl⟩ := discover_eq_ok_iff.mp discovered
  have each :
      ∀ extension ∈ Dialect.extensions,
        ∃ paths ∈ found,
          Glob.discover workspace.files (linter.patternFor extension) = .ok paths := by
    intro extension isExtension
    have isFound := searched ▸ List.mem_map_of_mem isExtension
    obtain ⟨paths, among, same⟩ := List.mem_map.mp isFound
    exact ⟨paths, among, same.symm⟩
  refine
    ⟨fun extension =>
      (Glob.discover workspace.files (linter.patternFor extension)).toOption.getD [],
      ?_, ?_⟩
  · intro extension isExtension
    obtain ⟨paths, _, isFound⟩ := each extension isExtension
    simp only [isFound]
    rfl
  · have asListed :
        (Dialect.extensions.map fun extension =>
            (Glob.discover workspace.files
              (linter.patternFor extension)).toOption.getD []) =
          found := by
      have listed :=
        congrArg (List.map fun result => result.toOption.getD []) searched
      rw [List.map_map, List.map_map] at listed
      exact listed.trans (List.map_id'' (fun _ => rfl) found)
    rw [asListed]
    exact List.mergeSort_perm _ _

/-- The extensions of sources are plain words. -/
theorem extension_isPlain :
    ∀ extension ∈ Dialect.extensions,
      IsPlain extension.toList ∧ '/' ∉ extension.toList ∧ '.' ∉ extension.toList ∧
        extension.toList ≠ [] := by
  simp [Dialect.extensions, IsPlain]

theorem toList_patternFor (linter : Linter) (extension : String) :
    (linter.patternFor extension).toList =
      linter.root.text.toList ++
        '/' :: '*' :: '*' :: '/' :: '*' :: '.' :: extension.toList := by
  simp [patternFor]

/-- A path that was found for an extension names a file with it. -/
theorem exists_fileName_of_found
    {extension : String}
    (isExtension : extension ∈ Dialect.extensions)
    {found : List Path}
    (discovered :
      Glob.discover workspace.files (linter.patternFor extension) = .ok found)
    {path : Path}
    (among : path ∈ found) :
    ∃ name, path.fileName? = some name ∧ '.' :: extension.toList <:+ name := by
  obtain ⟨plain, noSlash, noDot, nonempty⟩ := extension_isPlain extension isExtension
  obtain ⟨character, isCharacter⟩ := List.exists_mem_of_ne_nil _ nonempty
  apply Path.exists_fileName_of_suffix (isAbsolute_of_discover discovered among) noSlash
  · refine ⟨character, isCharacter, ?_⟩
    rintro rfl
    exact noDot isCharacter
  · exact suffix_of_discover (toList_patternFor linter extension) noSlash plain
      discovered among

/-- A name has one extension without dots. -/
theorem extension_eq_of_suffix
    {first second name : List Char}
    (firstNoDot : '.' ∉ first)
    (secondNoDot : '.' ∉ second)
    (endsFirst : '.' :: first <:+ name)
    (endsSecond : '.' :: second <:+ name) :
    first = second := by
  rcases List.suffix_or_suffix_of_suffix endsFirst endsSecond with inSecond | inFirst
  · rcases List.suffix_cons_iff.mp inSecond with same | within
    · exact (List.cons.inj same).2
    · exact (secondNoDot (within.subset (List.mem_cons_self ..))).elim
  · rcases List.suffix_cons_iff.mp inFirst with same | within
    · exact (List.cons.inj same).2.symm
    · exact (firstNoDot (within.subset (List.mem_cons_self ..))).elim

/-- No path is found twice for one extension, written in one way or another. -/
def FindsEachOnce (linter : Linter) (workspace : Workspace) : Prop :=
  ∀ extension ∈ Dialect.extensions,
    ∀ found,
      Glob.discover workspace.files (linter.patternFor extension) = .ok found →
      found.Pairwise fun left right => left.compare right ≠ .eq

/-- If no path is found twice for one extension, no path is discovered twice. -/
theorem pairwise_compare_ne_of_discover
    (once : linter.FindsEachOnce workspace)
    (discovered : linter.discover workspace = .ok paths) :
    paths.Pairwise fun left right => left.compare right ≠ .eq := by
  obtain ⟨found, searched, isKept⟩ := exists_found_of_discover discovered
  have differ : ∀ {left right : Path}, left.compare right ≠ .eq → right.compare left ≠ .eq := by
    intro left right different same
    exact different (Std.OrientedCmp.eq_symm same)
  apply (isKept.pairwise_iff differ).mpr
  apply List.Pairwise.filter
  rw [List.pairwise_flatten, List.pairwise_map]
  constructor
  · intro paths among
    obtain ⟨extension, isExtension, rfl⟩ := List.mem_map.mp among
    exact once extension isExtension _ (searched extension isExtension)
  · have distinct : Dialect.extensions.Nodup := by decide
    apply distinct.imp_of_mem
    intro first second isFirst isSecond different left isLeft right isRight same
    -- One file name would end in both extensions.
    obtain ⟨name, named, endsFirst⟩ :=
      exists_fileName_of_found isFirst (searched first isFirst) isLeft
    obtain ⟨_, namedToo, endsSecond⟩ :=
      exists_fileName_of_found isSecond (searched second isSecond) isRight
    rw [Path.fileName?_eq_of_compare same, namedToo] at named
    cases named
    have sameLetters :=
      extension_eq_of_suffix (extension_isPlain first isFirst).2.2.1
        (extension_isPlain second isSecond).2.2.1 endsFirst endsSecond
    exact different (String.toList_inj.mp sameLetters)

/-- Discovered paths are absolute. -/
theorem isAbsolute_of_discovered
    (discovered : linter.discover workspace = .ok paths)
    {path : Path}
    (among : path ∈ paths) :
    path.isAbsolute = true := by
  obtain ⟨found, searched, isKept⟩ := exists_found_of_discover discovered
  have isFound := (List.mem_filter.mp (isKept.mem_iff.mp among)).1
  obtain ⟨paths, isList, inList⟩ := List.mem_flatten.mp isFound
  obtain ⟨extension, isExtension, rfl⟩ := List.mem_map.mp isList
  exact isAbsolute_of_discover (searched extension isExtension) inList

/-- A path is shown as what is left of it below the root, or as it is. -/
theorem components_shownPath
    (linter : Linter)
    {path : Path}
    (absolute : path.isAbsolute = true) :
    (path.components = linter.root.components ++ (linter.shownPath path).components ∧
        .root ∉ (linter.shownPath path).components) ∨
      (path.components = (linter.shownPath path).components ∧
        .root ∈ (linter.shownPath path).components) := by
  unfold shownPath
  cases left : path.relativeTo? linter.root with
  | some relative =>
      exact Or.inl (Path.components_relativeTo? left)
  | none =>
      refine Or.inr ⟨rfl, ?_⟩
      rw [Option.getD_none, Path.components_of_isAbsolute absolute]
      exact List.mem_cons_self ..

/--
How a path is told to readers: by what is left of its components below a root, and
in full if it does not lie below the root.
-/
structure IsToldBelow (root path shown : Path) : Prop where
  below : ∀ rest, path.components = root.components ++ rest → shown.components = rest
  elsewhere : ¬ root.components <+: path.components → shown = path

/-- An absolute path is shown relative to the root. -/
theorem isToldBelow_shownPath
    (linter : Linter)
    {path : Path}
    (absolute : path.isAbsolute = true) :
    IsToldBelow linter.root path (linter.shownPath path) := by
  unfold shownPath
  cases left : path.relativeTo? linter.root with
  | some relative =>
      have shape := (Path.components_relativeTo? left).1
      constructor
      · intro rest split
        rw [shape] at split
        exact List.append_cancel_left split
      · intro outside
        exact (outside ⟨_, shape.symm⟩).elim
  | none =>
      constructor
      · intro rest split
        have rootEmpty : linter.root.components = [] := by
          by_contra nonempty
          obtain ⟨relative, found⟩ :=
            Path.exists_relativeTo?_of_prefix absolute ⟨rest, split.symm⟩ nonempty
          rw [left] at found
          cases found
        rw [rootEmpty] at split
        exact split
      · intro _
        rfl

/-- Different absolute paths are shown differently. -/
theorem shownPath_compare_ne
    (linter : Linter)
    {left right : Path}
    (leftAbsolute : left.isAbsolute = true)
    (rightAbsolute : right.isAbsolute = true)
    (different : left.compare right ≠ .eq) :
    (linter.shownPath left).compare (linter.shownPath right) ≠ .eq := by
  intro same
  rw [Path.compare_eq_eq_iff] at same
  apply different
  rw [Path.compare_eq_eq_iff]
  rcases linter.components_shownPath leftAbsolute with
      ⟨leftShape, leftRelative⟩ | ⟨leftShape, leftRooted⟩ <;>
    rcases linter.components_shownPath rightAbsolute with
      ⟨rightShape, rightRelative⟩ | ⟨rightShape, rightRooted⟩
  · rw [leftShape, rightShape, same]
  · rw [same] at leftRelative
    exact (leftRelative rightRooted).elim
  · rw [same] at leftRooted
    exact (rightRelative leftRooted).elim
  · rw [leftShape, rightShape, same]

/-- The sources that a run checks are shown under different paths. -/
theorem pairwise_checkedSources
    (once : linter.FindsEachOnce workspace)
    (discovered : linter.discover workspace = .ok paths) :
    (linter.checkedSources workspace paths).Pairwise fun left right =>
      left.path.compare right.path ≠ .eq := by
  rw [checkedSources, List.pairwise_filterMap]
  apply (pairwise_compare_ne_of_discover once discovered).imp_of_mem
  intro left right leftAmong rightAmong different first isFirst second isSecond
  rw [path_of_checkedSource? isFirst, path_of_checkedSource? isSecond]
  apply linter.shownPath_compare_ne _ _ different
  · exact isAbsolute_of_discovered discovered leftAmong
  · exact isAbsolute_of_discovered discovered rightAmong

end Linter

end UsageLint
