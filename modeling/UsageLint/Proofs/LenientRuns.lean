import UsageLint.Proofs.PlainRoots

namespace UsageLint

open UsageLint.Files
open UsageLint.Glob
open UsageLint.Report
open UsageLint.Syntax

/-!
# Lenient runs

Below a plain root everything is discovered whose name has the extension of a
source. A run that syntax errors do not stop checks the texts among it and skips
the files that are no text, but it ends without a result where a directory has
such a name.
-/

/-- Items picked by tests that exclude one another are picked by one of them. -/
theorem flatMap_filter_perm
    {α β : Type}
    {passes : α → β → Bool}
    {tests : List β}
    (exclusive :
      ∀ item,
        tests.Pairwise fun left right =>
          passes item left = true → passes item right = false)
    (items : List α) :
    (tests.flatMap fun test => items.filter fun item => passes item test).Perm
      (items.filter fun item => tests.any fun test => passes item test) := by
  induction tests with
  | nil =>
      simp
  | cons test rest inductionHypothesis =>
      have others := inductionHypothesis fun item => (exclusive item).of_cons
      have parts :=
        List.filter_append_perm (fun item => passes item test)
          (items.filter fun item => (test :: rest).any fun test => passes item test)
      have first :
          ((items.filter fun item => (test :: rest).any fun test => passes item test).filter
              fun item => passes item test) =
            items.filter fun item => passes item test := by
        rw [List.filter_filter]
        apply List.filter_congr
        intro item _
        cases passed : passes item test <;> simp [passed]
      have notFirst :
          ((items.filter fun item => (test :: rest).any fun test => passes item test).filter
              fun item => !passes item test) =
            items.filter fun item => rest.any fun test => passes item test := by
        rw [List.filter_filter]
        apply List.filter_congr
        intro item _
        cases passed : passes item test with
        | false =>
            simp [passed]
        | true =>
            have noOther : rest.any (fun test => passes item test) = false := by
              rw [List.any_eq_false]
              intro other among
              simp [List.rel_of_pairwise_cons (exclusive item) among passed]
            simp [passed, noOther]
      rw [first, notFirst] at parts
      rw [List.flatMap_cons]
      exact (others.append_left _).trans parts

namespace Linter

/-- Whether a name has the extension of a source. -/
def namesSource (name : String) : Bool :=
  Dialect.extensions.any fun extension => hasExtension name extension

/-- What has the name of a source below the root and is not left out. -/
def candidates (linter : Linter) (workspace : Workspace) : List Spot :=
  (((belowRoot workspace.files linter.root).filter fun named => namesSource named.1).map
      (·.2)).filter fun spot => !isExcluded linter.excludes spot.path

/-- The source that a file is, if it is a text. -/
def sourceAt? (linter : Linter) (spot : Spot) : Option CheckedSource :=
  match spot.place.entry with
  | .file content => (String.fromUTF8? content).map fun text =>
      ⟨linter.shownPath spot.path, text⟩
  | .directory _ => none

variable {linter : Linter} {workspace : Workspace}

/-- No name ends in two of the extensions. -/
theorem extensions_exclusive (name : String) :
    Dialect.extensions.Pairwise fun left right =>
      hasExtension name left = true → hasExtension name right = false := by
  have distinct : Dialect.extensions.Nodup := by decide
  apply distinct.imp_of_mem
  intro left right isLeft isRight different endsLeft
  rw [← Bool.not_eq_true]
  intro endsRight
  rw [hasExtension, List.isSuffixOf_iff_suffix] at endsLeft endsRight
  have sameLetters :=
    extension_eq_of_suffix (extension_isPlain left isLeft).2.2.1
      (extension_isPlain right isRight).2.2.1 endsLeft endsRight
  exact different (String.toList_inj.mp sameLetters)

/-- Below a plain root the candidates are discovered, each of them once. -/
theorem exists_discover_of_isPlain (plain : IsPlain linter.root.text.toList) :
    ∃ paths,
      linter.discover workspace = .ok paths ∧
        paths.Perm ((linter.candidates workspace).map (·.path)) := by
  have searched :
      (Dialect.extensions.map fun extension =>
          Glob.discover workspace.files (linter.patternFor extension)) =
        (Dialect.extensions.map fun extension =>
          ((belowRoot workspace.files linter.root).filter fun named =>
            hasExtension named.1 extension).map fun named => named.2.path).map .ok := by
    rw [List.map_map]
    apply List.map_congr_left
    intro extension isExtension
    exact discover_patternFor plain isExtension
  refine ⟨_, discover_eq_ok_iff.mpr ⟨_, searched, rfl⟩, ?_⟩
  have picked :=
    flatMap_filter_perm (fun named : String × Spot => extensions_exclusive named.1)
      (belowRoot workspace.files linter.root)
  apply (List.mergeSort_perm _ _).trans
  rw [kept, ← List.flatMap_def, ← List.map_flatMap, candidates, List.filter_map,
    List.filter_map, List.map_map]
  exact (picked.filter _).map _

section Found

variable {spot : Spot} (isFound : spot.IsFound workspace.files)

include isFound

/-- The source that is checked at a path is the text found there. -/
theorem checkedSource?_of_isFound :
    linter.checkedSource? workspace spot.path = linter.sourceAt? spot := by
  unfold sourceAt?
  cases shape : spot.place.entry with
  | directory entries =>
      rw [checkedSource?_of_error (isFound.readText_directory shape)]
  | file content =>
      have read := isFound.readText_file shape
      cases isText : String.fromUTF8? content with
      | none =>
          rw [isText] at read
          simp only [checkedSource?_of_error read, isText]
          rfl
      | some text =>
          rw [isText] at read
          simp only [checkedSource?_of_text read, isText]
          rfl

/-- What is found at a path can be read unless it is a directory. -/
theorem readable_iff_of_isFound :
    Readable workspace spot.path ↔ spot.isDirectory = false := by
  unfold Spot.isDirectory
  cases shape : spot.place.entry with
  | directory entries =>
      constructor
      · intro readable
        cases readable _ (isFound.readText_directory shape)
      · intro isFile
        cases isFile
  | file content =>
      have read := isFound.readText_file shape
      constructor
      · intro _
        rfl
      · intro _ cause unread
        rw [read] at unread
        cases isText : String.fromUTF8? content with
        | none =>
            rw [isText] at unread
            cases unread
            rfl
        | some text =>
            rw [isText] at unread
            cases unread

/-- A directory is no source: checking it ends in an error. -/
theorem check_of_isDirectory (isDirectory : spot.isDirectory = true) :
    linter.check workspace spot.path = .error (.unreadable .isDirectory) := by
  unfold Spot.isDirectory at isDirectory
  cases shape : spot.place.entry with
  | file content =>
      rw [shape] at isDirectory
      cases isDirectory
  | directory entries =>
      apply check_of_unreadable (isFound.readText_directory shape)
      intro same
      cases same

end Found

section Runs

variable
  (lenient : linter.failsOnSyntaxError = false)
  (absolute : linter.root.isAbsolute = true)
  (plain : IsPlain linter.root.text.toList)
  (wellFormed : workspace.files.IsWellFormed)

include wellFormed absolute

theorem isFound_of_mem_candidates
    {spot : Spot}
    (among : spot ∈ linter.candidates workspace) :
    spot.IsFound workspace.files := by
  obtain ⟨named, isNamed, rfl⟩ := List.mem_map.mp (List.mem_filter.mp among).1
  exact isFound_of_mem_belowRoot wellFormed absolute (List.mem_filter.mp isNamed).1

/-- The sources at the paths of the candidates are the texts among these. -/
theorem checkedSources_perm
    {paths : List Path}
    (permuted : paths.Perm ((linter.candidates workspace).map (·.path))) :
    (linter.checkedSources workspace paths).Perm
      ((linter.candidates workspace).filterMap linter.sourceAt?) := by
  have atCandidates :
      ((linter.candidates workspace).map (·.path)).filterMap
          (linter.checkedSource? workspace) =
        (linter.candidates workspace).filterMap linter.sourceAt? := by
    rw [List.filterMap_map]
    apply List.filterMap_congr
    intro spot among
    exact checkedSource?_of_isFound (isFound_of_mem_candidates absolute wellFormed among)
  rw [← atCandidates]
  exact permuted.filterMap _

include lenient plain

/--
Without directories among the candidates, a run checks every text and reports all that is found.
-/
theorem analyze_of_no_directory
    (files : ∀ spot ∈ linter.candidates workspace, spot.isDirectory = false) :
    ∃ result,
      linter.analyze workspace = .ok result ∧
        result.filesChecked =
          ((linter.candidates workspace).filterMap linter.sourceAt?).length ∧
        result.violations.Perm
          (((linter.candidates workspace).filterMap linter.sourceAt?).flatMap
            (linter.reported workspace.grammar)) := by
  obtain ⟨paths, discovered, permuted⟩ := exists_discover_of_isPlain plain
  have sources := checkedSources_perm absolute wellFormed permuted
  have passes : ∀ path ∈ paths, linter.Passes workspace path := by
    intro path among
    obtain ⟨spot, isCandidate, rfl⟩ := List.mem_map.mp (permuted.mem_iff.mp among)
    have isFound := isFound_of_mem_candidates absolute wellFormed isCandidate
    apply passes_of_readable lenient
    exact (readable_iff_of_isFound isFound).mpr (files spot isCandidate)
  refine ⟨_, analyze_of_passes discovered passes, ?_, ?_⟩
  · rw [← sources.length_eq]
    exact List.length_map _
  · exact (List.mergeSort_perm _ _).trans (sources.flatMap_right _)

/-- A directory among the candidates ends the run. -/
theorem analyze_of_directory
    (someDirectory : ∃ spot ∈ linter.candidates workspace, spot.isDirectory = true) :
    linter.analyze workspace = .error (.unreadable .isDirectory) := by
  obtain ⟨paths, discovered, permuted⟩ := exists_discover_of_isPlain plain
  have candidateAt :
      ∀ path ∈ paths,
        ∃ spot ∈ linter.candidates workspace, spot.path = path := by
    intro path among
    exact List.mem_map.mp (permuted.mem_iff.mp among)
  have someUnreadable : ∃ path ∈ paths, ¬ Readable workspace path := by
    obtain ⟨spot, isCandidate, isDirectory⟩ := someDirectory
    have isFound := isFound_of_mem_candidates absolute wellFormed isCandidate
    refine ⟨spot.path, permuted.mem_iff.mpr (List.mem_map_of_mem isCandidate), ?_⟩
    rw [readable_iff_of_isFound isFound, isDirectory]
    exact nofun
  obtain ⟨before, path, after, rfl, unreadable, readableBefore⟩ :=
    exists_first someUnreadable
  obtain ⟨spot, isCandidate, rfl⟩ := candidateAt path (by simp)
  have isFound := isFound_of_mem_candidates absolute wellFormed isCandidate
  rw [readable_iff_of_isFound isFound, Bool.not_eq_false] at unreadable
  apply analyze_of_error discovered _ (check_of_isDirectory isFound unreadable)
  intro earlier among
  exact passes_of_readable lenient (Classical.not_not.mp (readableBefore earlier among))

end Runs

/--
Below a plain root, a run that syntax errors do not stop comes to a result exactly
if no directory that is not left out has the name of a source. It then checks the
files of such names that are texts, and reports what is reported of each of them,
whatever other files there are. Otherwise it ends because a directory cannot be read.
-/
theorem lenient_run_ends_at_directories_only
    (lenient : linter.failsOnSyntaxError = false)
    (absolute : linter.root.isAbsolute = true)
    (plain : IsPlain linter.root.text.toList)
    (wellFormed : workspace.files.IsWellFormed) :
    ((∃ result, linter.analyze workspace = .ok result) ↔
        ∀ spot ∈ linter.candidates workspace, spot.isDirectory = false) ∧
      (∀ result,
        linter.analyze workspace = .ok result →
        result.filesChecked =
            ((linter.candidates workspace).filterMap linter.sourceAt?).length ∧
          result.violations.Perm
            (((linter.candidates workspace).filterMap linter.sourceAt?).flatMap
              (linter.reported workspace.grammar))) ∧
      ((∃ spot ∈ linter.candidates workspace, spot.isDirectory = true) →
        linter.analyze workspace = .error (.unreadable .isDirectory)) := by
  have atDirectory :=
    analyze_of_directory lenient absolute plain wellFormed
  by_cases someDirectory :
      ∃ spot ∈ linter.candidates workspace, spot.isDirectory = true
  · have stopped := atDirectory someDirectory
    rw [stopped]
    refine ⟨⟨nofun, ?_⟩, nofun, fun _ => rfl⟩
    intro files
    obtain ⟨spot, isCandidate, isDirectory⟩ := someDirectory
    rw [files spot isCandidate] at isDirectory
    cases isDirectory
  · have files : ∀ spot ∈ linter.candidates workspace, spot.isDirectory = false := by
      simpa using someDirectory
    obtain ⟨result, analyzed, checked⟩ :=
      analyze_of_no_directory lenient absolute plain wellFormed files
    refine ⟨⟨fun _ => files, fun _ => ⟨result, analyzed⟩⟩, ?_, atDirectory⟩
    intro other otherAnalyzed
    rw [analyzed] at otherAnalyzed
    cases otherAnalyzed
    exact checked

/-- A directory with these entries, of which the sources are read as blank. -/
def blankWorkspace (entries : List (String × Entry)) : Workspace :=
  { grammar := ⟨fun _ _ =>
      .node ⟨"program", none, 0, 0, true, false, false, false⟩ []⟩
    files := .directory [("r", .directory entries)]
    directory := ⟨"/r"⟩ }

/-- A linter for a directory, as it is made without further options. -/
def blankLinter : Linter :=
  LinterOptions.build { root := some ⟨"/r"⟩ } ⟨"/"⟩

theorem root_blankLinter : blankLinter.root = ⟨"/r"⟩ := by
  decide

theorem isPlain_root_blankLinter : IsPlain blankLinter.root.text.toList := by
  rw [root_blankLinter]
  simp [IsPlain]

/-- Two texts, bytes that are no text, and a directory that is left out. -/
def mixedEntries : List (String × Entry) :=
  [("a.js", .file "".toUTF8),
    ("b.js", .file ⟨#[255]⟩),
    ("lib", .directory [("c.ts", .file "".toUTF8)]),
    ("node_modules", .directory [("three.js", .directory [])]),
    ("notes.txt", .file "".toUTF8)]

/--
A run over mixed entries succeeds and counts two texts, one of them a directory down. The
bytes that are no text are passed over, and the directory named like a source does not end
the run, since it lies in an excluded one.
-/
theorem lenient_run_checks_two_texts :
    blankLinter.failsOnSyntaxError = false ∧
      blankLinter.root.isAbsolute = true ∧
      IsPlain blankLinter.root.text.toList ∧
      (blankWorkspace mixedEntries).files.IsWellFormed ∧
      ∃ result,
        blankLinter.analyze (blankWorkspace mixedEntries) = .ok result ∧
          result.filesChecked = 2 := by
  have absolute : blankLinter.root.isAbsolute = true := by
    decide
  have wellFormed : (blankWorkspace mixedEntries).files.IsWellFormed := by
    simp only [blankWorkspace, mixedEntries, Entry.IsWellFormed, AreWellFormed]
    decide
  obtain ⟨isOk, checked, _⟩ :=
    lenient_run_ends_at_directories_only rfl absolute isPlain_root_blankLinter wellFormed
  have files :
      ∀ spot ∈ blankLinter.candidates (blankWorkspace mixedEntries),
        spot.isDirectory = false := by
    decide +kernel
  have texts :
      ((blankLinter.candidates (blankWorkspace mixedEntries)).filterMap
        blankLinter.sourceAt?).length = 2 := by
    decide +kernel
  obtain ⟨result, analyzed⟩ := isOk.mpr files
  have isChecked := (checked result analyzed).1
  rw [texts] at isChecked
  exact ⟨rfl, absolute, isPlain_root_blankLinter, wellFormed, result, analyzed, isChecked⟩

/-- A source beside the directory of a package that is named as a source is. -/
def threeEntries : List (String × Entry) :=
  [("a.js", .file "".toUTF8), ("three.js", .directory [])]

/-- A directory that is named as a source is ends the run. -/
theorem run_fails_at_directory_named_as_source :
    blankLinter.failsOnSyntaxError = false ∧
      blankLinter.root.isAbsolute = true ∧
      IsPlain blankLinter.root.text.toList ∧
      (blankWorkspace threeEntries).files.IsWellFormed ∧
      blankLinter.analyze (blankWorkspace threeEntries) =
        .error (.unreadable .isDirectory) := by
  have discovered :
      blankLinter.discover (blankWorkspace threeEntries) =
        .ok ([⟨"/r/a.js"⟩] ++ ⟨"/r/three.js"⟩ :: []) := by
    apply discover_of_pairwise
      [[⟨"/r/a.js"⟩, ⟨"/r/three.js"⟩], [], [], [], [], [], [], []]
    · decide +kernel
    · decide +kernel
    · decide +kernel
  have read : (blankWorkspace threeEntries).files.readText ⟨"/r/a.js"⟩ = .ok "" := by
    decide +kernel
  have unread :
      (blankWorkspace threeEntries).files.readText ⟨"/r/three.js"⟩ =
        .error .isDirectory := by
    decide +kernel
  refine ⟨rfl, by decide, isPlain_root_blankLinter, ?_, ?_⟩
  · simp only [blankWorkspace, threeEntries, Entry.IsWellFormed, AreWellFormed]
    decide
  · apply analyze_of_error discovered _ (check_of_unreadable unread nofun)
    intro earlier among
    rw [List.mem_singleton.mp among]
    exact passes_of_readable rfl (readable_of_text read)

end Linter

end UsageLint
