import UsageLint.Proofs.LenientRuns
import UsageLint.Proofs.PatternEndings

namespace UsageLint

open UsageLint.Files
open UsageLint.Glob
open UsageLint.Syntax
open UsageLint.Text

/-!
# Dialects of sources

Discovery goes by what a name ends in, and the dialect by the extension of the name. A
dot that opens a name starts no extension, so the two agree on all names but those that
are an extension and its dot: these are discovered, but they have no dialect.
-/

namespace Path

/-- A text without dots has no last one. -/
theorem afterLastDot?_of_noDot
    {text : List Char}
    (noDot : '.' ∉ text) :
    afterLastDot? text = none := by
  induction text with
  | nil =>
      rfl
  | cons character rest inductionHypothesis =>
      rw [List.mem_cons, not_or] at noDot
      rw [afterLastDot?, inductionHypothesis noDot.2, if_neg (Ne.symm noDot.1)]

/-- Behind the last dot stands what follows it, if that has no dot of its own. -/
theorem afterLastDot?_append
    {extension : List Char}
    (noDot : '.' ∉ extension)
    (front : List Char) :
    afterLastDot? (front ++ '.' :: extension) = some extension := by
  induction front with
  | nil =>
      rw [List.nil_append, afterLastDot?, afterLastDot?_of_noDot noDot, if_pos rfl]
  | cons character rest inductionHypothesis =>
      rw [List.cons_append, afterLastDot?, inductionHypothesis]

theorem suffix_of_afterLastDot?
    {text extension : List Char}
    (found : afterLastDot? text = some extension) :
    '.' :: extension <:+ text := by
  induction text with
  | nil =>
      cases found
  | cons character rest inductionHypothesis =>
      rw [afterLastDot?] at found
      cases later : afterLastDot? rest with
      | some other =>
          rw [later] at found inductionHypothesis
          exact (inductionHypothesis found).trans (List.suffix_cons ..)
      | none =>
          simp only [later] at found
          split at found
          next isDot =>
            cases found
            subst isDot
            exact List.suffix_refl _
          next =>
            cases found

/-- What a name ends in after a dot is its extension, if the name does not open there. -/
theorem extensionOf?_of_suffix
    {name extension : List Char}
    (noDot : '.' ∉ extension)
    (ends : '.' :: extension <:+ name) :
    extensionOf? name = if name = '.' :: extension then none else some extension := by
  obtain ⟨front, rfl⟩ := ends
  cases front with
  | nil =>
      rw [List.nil_append, extensionOf?, afterLastDot?_of_noDot noDot, if_pos rfl]
  | cons character rest =>
      have longer : character :: rest ++ '.' :: extension ≠ '.' :: extension := by
        intro same
        have sameLength := congrArg List.length same
        simp only [List.length_append, List.length_cons] at sameLength
        omega
      rw [if_neg longer, List.cons_append, extensionOf?, afterLastDot?_append noDot]

/-- A name ends in a dot and its extension. -/
theorem suffix_of_extensionOf?
    {name extension : List Char}
    (found : extensionOf? name = some extension) :
    '.' :: extension <:+ name := by
  unfold extensionOf? at found
  split at found
  · cases found
  · exact (suffix_of_afterLastDot? found).trans (List.suffix_cons ..)

/-- What is left of a path has its name, if the directory has not all its components. -/
theorem fileName?_relativeTo?
    {path directory relative : Path}
    (left : path.relativeTo? directory = some relative)
    (differ : path.components ≠ directory.components) :
    relative.fileName? = path.fileName? := by
  obtain ⟨shape, _⟩ := components_relativeTo? left
  have nonempty : relative.components ≠ [] := by
    intro nothing
    rw [nothing, List.append_nil] at shape
    exact differ shape
  rw [fileName?, fileName?, shape, List.getLast?_append_of_ne_nil _ nonempty]

theorem isAbsolute_of_relativeTo?
    {path directory relative : Path}
    (left : path.relativeTo? directory = some relative) :
    directory.isAbsolute = true := by
  unfold relativeTo? at left
  split at left
  next absolute =>
    exact (Bool.and_eq_true _ _ ▸ absolute).2
  · cases left

end Path

namespace Syntax.Dialect

theorem ofExtension?_of_mem :
    ∀ extension ∈ extensions,
      ofExtension? extension =
        some (if extension ∈ ["ts", "mts", "cts"] then typeScript else tsx) := by
  decide

theorem mem_extensions_of_ofExtension?
    {extension : String}
    {dialect : Dialect}
    (found : ofExtension? extension = some dialect) :
    extension ∈ extensions := by
  unfold ofExtension? at found
  split at found <;> first | decide | cases found

end Syntax.Dialect

namespace Glob

/-- Names of sources can end in each extension. -/
theorem isEnding_of_mem_extensions
    {extension : String}
    (isExtension : extension ∈ Dialect.extensions) :
    IsEnding ('.' :: extension.toList) := by
  obtain ⟨plain, noSlash, noDot, nonempty⟩ := Linter.extension_isPlain extension isExtension
  obtain ⟨character, among⟩ := List.exists_mem_of_ne_nil _ nonempty
  have noBracket : ∀ extension ∈ Dialect.extensions, ']' ∉ extension.toList := by
    simp [Dialect.extensions]
  constructor
  · exact isPlain_cons_dot plain
  · simpa using noSlash
  · simpa using noBracket extension isExtension
  · refine ⟨character, List.mem_cons_of_mem _ among, ?_⟩
    rintro rfl
    exact noDot among

end Glob

namespace Syntax.Dialect

variable {path : Path} {name : List Char}

/--
A file whose name ends in an extension of sources has its dialect, unless the name is no more than
the extension.
-/
theorem ofPath?_of_suffix
    (named : path.fileName? = some name)
    {extension : String}
    (isExtension : extension ∈ extensions)
    (ends : '.' :: extension.toList <:+ name) :
    ofPath? path =
      if name = '.' :: extension.toList then
        none
      else
        some (if extension ∈ ["ts", "mts", "cts"] then typeScript else tsx) := by
  have noDot := (Linter.extension_isPlain extension isExtension).2.2.1
  rw [ofPath?, Path.extension?, named, Option.bind_some,
    Path.extensionOf?_of_suffix noDot ends]
  split
  · rfl
  · rw [Option.map_some, Option.bind_some, String.ofList_toList,
      ofExtension?_of_mem extension isExtension]

/-- A file with a dialect has a name that ends in an extension of sources. -/
theorem exists_suffix_of_ofPath?
    {dialect : Dialect}
    (found : ofPath? path = some dialect) :
    ∃ name,
      path.fileName? = some name ∧
        ∃ extension ∈ extensions, '.' :: extension.toList <:+ name := by
  obtain ⟨extension, isExtension, isDialect⟩ := Option.bind_eq_some_iff.mp found
  obtain ⟨letters, isLetters, rfl⟩ := Option.map_eq_some_iff.mp isExtension
  obtain ⟨name, named, hasExtension⟩ := Option.bind_eq_some_iff.mp isLetters
  refine ⟨name, named, _, mem_extensions_of_ofExtension? isDialect, ?_⟩
  rw [String.toList_ofList]
  exact Path.suffix_of_extensionOf? hasExtension

end Syntax.Dialect

namespace Linter

variable {linter : Linter} {workspace : Workspace} {paths : List Path} {path : Path}

/-- A discovered source is shown under its own name. -/
theorem exists_fileName_of_discovered
    (wellFormed : workspace.files.IsWellFormed)
    (discovered : linter.discover workspace = .ok paths)
    (among : path ∈ paths) :
    ∃ name,
      ∃ extension ∈ Dialect.extensions,
        (linter.shownPath path).fileName? = some name ∧
          '.' :: extension.toList <:+ name := by
  obtain ⟨found, searched, isKept⟩ := exists_found_of_discover discovered
  have isFound := (List.mem_filter.mp (isKept.mem_iff.mp among)).1
  obtain ⟨_, isList, inList⟩ := List.mem_flatten.mp isFound
  obtain ⟨extension, isExtension, rfl⟩ := List.mem_map.mp isList
  obtain ⟨name, named, ends⟩ :=
    exists_fileName_of_found isExtension (searched extension isExtension) inList
  refine ⟨name, extension, isExtension, ?_, ends⟩
  unfold shownPath
  cases left : path.relativeTo? linter.root with
  | none =>
      exact named
  | some relative =>
      have longer :=
        endingCount_lt_of_discover (toList_patternFor linter extension)
          (Path.isAbsolute_of_relativeTo? left) (isEnding_of_mem_extensions isExtension)
          wellFormed (searched extension isExtension) inList
      have differ : path.components ≠ linter.root.components := by
        intro same
        rw [Path.endingCount, Path.endingCount, same] at longer
        exact Nat.lt_irrefl _ longer
      rw [Option.getD_some, Path.fileName?_relativeTo? left differ, named]

/--
A name that ends in the extension of a source has the dialect of the extension, unless
it is the extension with its dot and no more; then it has none, as all other names. What
is discovered ends in an extension, so just the sources of such bare names are read in
the dialect for names that tell none.
-/
theorem sources_have_dialects_but_bare_extensions (path : Path) :
    (∀ (name : List Char) (extension : String),
        path.fileName? = some name →
        extension ∈ Dialect.extensions →
        '.' :: extension.toList <:+ name →
        Dialect.ofPath? path =
          if name = '.' :: extension.toList then
            none
          else
            some (if extension ∈ ["ts", "mts", "cts"] then .typeScript else .tsx)) ∧
      ((∀ name,
          path.fileName? = some name →
          ∀ extension ∈ Dialect.extensions, ¬ '.' :: extension.toList <:+ name) →
        Dialect.ofPath? path = none) ∧
      ∀ (linter : Linter) (workspace : Workspace) (paths : List Path),
        workspace.files.IsWellFormed →
        linter.discover workspace = .ok paths →
        ∀ source ∈ paths,
          linter.shownPath source = path →
          ∃ name,
            ∃ extension ∈ Dialect.extensions,
              path.fileName? = some name ∧
                '.' :: extension.toList <:+ name ∧
                (Dialect.ofPath? path = none ↔ name = '.' :: extension.toList) := by
  refine ⟨?_, ?_, ?_⟩
  · intro name extension named isExtension ends
    exact Dialect.ofPath?_of_suffix named isExtension ends
  · intro noEnding
    cases found : Dialect.ofPath? path with
    | none =>
        rfl
    | some dialect =>
        obtain ⟨name, named, extension, isExtension, ends⟩ :=
          Dialect.exists_suffix_of_ofPath? found
        exact (noEnding name named extension isExtension ends).elim
  · rintro linter workspace paths wellFormed discovered source among rfl
    obtain ⟨name, extension, isExtension, named, ends⟩ :=
      exists_fileName_of_discovered wellFormed discovered among
    refine ⟨name, extension, isExtension, named, ends, ?_⟩
    rw [Dialect.ofPath?_of_suffix named isExtension ends, ite_eq_left_iff]
    simp

/-- A directory with a source of a bare name and two of longer names. -/
def hiddenEntries : List (String × Entry) :=
  [(".ts", .file "".toUTF8), (".x.ts", .file "".toUTF8), ("a.d.mts", .file "".toUTF8)]

theorem discover_hiddenEntries :
    blankLinter.discover (blankWorkspace hiddenEntries) =
      .ok [⟨"/r/.ts"⟩, ⟨"/r/.x.ts"⟩, ⟨"/r/a.d.mts"⟩] := by
  apply discover_of_pairwise
    (Dialect.extensions.map fun extension =>
      ((belowRoot (blankWorkspace hiddenEntries).files blankLinter.root).filter fun named =>
        hasExtension named.1 extension).map fun named => named.2.path)
  · rw [List.map_map]
    apply List.map_congr_left
    intro extension isExtension
    exact discover_patternFor isPlain_root_blankLinter isExtension
  · decide +kernel
  · decide +kernel

/--
A source with a hidden name has a dialect as any other, and a file without an extension of
sources has none. One that discovery finds would lack it for a bare name only.
-/
theorem hidden_sources_have_dialects :
    (blankWorkspace hiddenEntries).files.IsWellFormed ∧
      blankLinter.discover (blankWorkspace hiddenEntries) =
        .ok [⟨"/r/.ts"⟩, ⟨"/r/.x.ts"⟩, ⟨"/r/a.d.mts"⟩] ∧
      (Path.mk "/r/.x.ts").fileName? = some ".x.ts".toList ∧
      ".ts".toList <:+ ".x.ts".toList ∧
      Dialect.ofPath? ⟨"/r/.x.ts"⟩ = some .typeScript ∧
      Dialect.ofPath? ⟨"/r/notes.txt"⟩ = none ∧
      blankLinter.shownPath ⟨"/r/a.d.mts"⟩ = ⟨"a.d.mts"⟩ ∧
      ∃ name,
        ∃ extension ∈ Dialect.extensions,
          (Path.mk "a.d.mts").fileName? = some name ∧
            '.' :: extension.toList <:+ name ∧
            (Dialect.ofPath? ⟨"a.d.mts"⟩ = none ↔ name = '.' :: extension.toList) := by
  have ofHidden := (sources_have_dialects_but_bare_extensions ⟨"/r/.x.ts"⟩).1
  have ofNotes := (sources_have_dialects_but_bare_extensions ⟨"/r/notes.txt"⟩).2.1
  have ofDiscovered := (sources_have_dialects_but_bare_extensions ⟨"a.d.mts"⟩).2.2
  have wellFormed : (blankWorkspace hiddenEntries).files.IsWellFormed := by
    simp only [blankWorkspace, hiddenEntries, Entry.IsWellFormed, AreWellFormed]
    decide
  have named : (Path.mk "/r/.x.ts").fileName? = some ".x.ts".toList := by
    decide
  have ends : ".ts".toList <:+ ".x.ts".toList := by
    decide
  have shown : blankLinter.shownPath ⟨"/r/a.d.mts"⟩ = ⟨"a.d.mts"⟩ := by
    decide +kernel
  have noEnding :
      ∀ name,
        (Path.mk "/r/notes.txt").fileName? = some name →
        ∀ extension ∈ Dialect.extensions, ¬ '.' :: extension.toList <:+ name := by
    intro name isName
    have isNotes : (Path.mk "/r/notes.txt").fileName? = some "notes.txt".toList := by
      decide
    rw [isNotes] at isName
    cases isName
    decide
  exact
    ⟨wellFormed, discover_hiddenEntries, named, ends,
      ofHidden _ "ts" named (by decide) ends, ofNotes noEnding, shown,
      ofDiscovered blankLinter (blankWorkspace hiddenEntries) _ wellFormed
        discover_hiddenEntries _ (by simp) shown⟩

/-- A bare extension is discovered as a source, and read in the dialect for no extension. -/
theorem bare_extension_has_no_dialect :
    blankLinter.discover (blankWorkspace hiddenEntries) =
        .ok [⟨"/r/.ts"⟩, ⟨"/r/.x.ts"⟩, ⟨"/r/a.d.mts"⟩] ∧
      (Path.mk "/r/.ts").fileName? = some ".ts".toList ∧
      Dialect.ofPath? ⟨"/r/.ts"⟩ = none ∧
      blankLinter.shownPath ⟨"/r/.ts"⟩ = ⟨".ts"⟩ ∧
      dialectFor ⟨".ts"⟩ = .tsx ∧
      dialectFor ⟨".x.ts"⟩ = .typeScript := by
  refine ⟨discover_hiddenEntries, ?_⟩
  decide +kernel

end Linter

end UsageLint
