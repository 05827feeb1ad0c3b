import UsageLint.Proofs.DiscoveredPaths

namespace UsageLint

open UsageLint.Files
open UsageLint.Report
open UsageLint.Syntax

/-!
# Strict runs

A linter may let a syntax error end a run, or lint the tree that was recovered.
Both runs come to the same result where there is no syntax error, and otherwise
the strict one ends with the first source that has one, whatever the rules report
of the sources before it.
-/

namespace Linter

variable {linter : Linter} {workspace : Workspace} {paths : List Path}

/-- The same linter, which a syntax error stops. -/
def strict (linter : Linter) : Linter :=
  { linter with failsOnSyntaxError := true }

/-- The same linter, which lints what is recovered from a syntax error. -/
def lenient (linter : Linter) : Linter :=
  { linter with failsOnSyntaxError := false }

/-- Where the first syntax error is: in the first path that has one, in order. -/
structure IsFirstError
    (linter : Linter)
    (workspace : Workspace)
    (paths : List Path)
    (path : Path)
    (position : Position) : Prop where
  among : path ∈ paths
  located :
    ∃ text,
      workspace.files.readText path = .ok text ∧
        (readSource workspace.grammar (linter.shownPath path) text).firstError? =
          some position
  isFirst :
    ∀ other ∈ paths,
      linter.IsBroken workspace other →
      (path.compare other).isLE = true

theorem passes_strict
    {path : Path}
    (readable : Readable workspace path)
    (unbroken : ¬ linter.IsBroken workspace path) :
    linter.strict.Passes workspace path where
  readable := readable
  unbroken := fun _ => unbroken

section Runs

variable
  (discovered : linter.discover workspace = .ok paths)
  (readable : ∀ path ∈ paths, Readable workspace path)

include discovered readable

/-- A lenient run over readable sources comes to a result. -/
theorem analyze_lenient :
    linter.lenient.analyze workspace = .ok (linter.passedResult workspace paths) := by
  have found : linter.lenient.discover workspace = .ok paths := discovered
  apply analyze_of_passes found
  intro path among
  exact passes_of_readable rfl (readable path among)

theorem analyze_strict_of_unbroken
    (unbroken : ∀ path ∈ paths, ¬ linter.IsBroken workspace path) :
    linter.strict.analyze workspace = .ok (linter.passedResult workspace paths) := by
  have found : linter.strict.discover workspace = .ok paths := discovered
  apply analyze_of_passes found
  intro path among
  exact passes_strict (readable path among) (unbroken path among)

theorem analyze_strict_of_broken
    (someBroken : ∃ path ∈ paths, linter.IsBroken workspace path) :
    ∃ path position,
      linter.IsFirstError workspace paths path position ∧
        linter.strict.analyze workspace =
          .error (.syntaxError (linter.shownPath path) position) := by
  obtain ⟨before, path, after, rfl, broken, noneEarlier⟩ := exists_first someBroken
  have found : linter.strict.discover workspace = .ok (before ++ path :: after) :=
    discovered
  have strictlyBroken : linter.strict.IsBroken workspace path := broken
  obtain ⟨text, position, read, firstError, stopped⟩ :=
    check_of_isBroken rfl strictlyBroken
  refine ⟨path, position, ⟨by simp, ⟨text, read, firstError⟩, ?_⟩, ?_⟩
  · intro other among otherBroken
    have inOrder := (List.pairwise_append.mp (pairwise_of_discover discovered)).2.1
    rcases List.mem_append.mp among with earlier | notEarlier
    · exact (noneEarlier other earlier otherBroken).elim
    · exact isLE_of_mem_sorted inOrder notEarlier
  · apply analyze_of_error found _ stopped
    intro earlier among
    have isReadable := readable earlier (List.mem_append_left _ among)
    exact passes_strict isReadable (noneEarlier earlier among)

end Runs

/--
A strict run over readable sources comes to a result exactly if no source has a
syntax error, and the result is that of the lenient run. Otherwise it ends with
the first of the sources that have one, tells it by its path below the root, and
says where the first error in it is.
-/
theorem strict_run_ends_at_first_error
    (discovered : linter.discover workspace = .ok paths)
    (readable : ∀ path ∈ paths, Readable workspace path) :
    ((∃ result, linter.strict.analyze workspace = .ok result) ↔
        ∀ path ∈ paths, ¬ linter.IsBroken workspace path) ∧
      (∀ result,
        linter.strict.analyze workspace = .ok result →
        linter.lenient.analyze workspace = .ok result) ∧
      ((¬ ∃ result, linter.strict.analyze workspace = .ok result) →
        ∃ path position,
          linter.IsFirstError workspace paths path position ∧
            IsToldBelow linter.root path (linter.shownPath path) ∧
            linter.strict.analyze workspace =
              .error (.syntaxError (linter.shownPath path) position)) := by
  by_cases someBroken : ∃ path ∈ paths, linter.IsBroken workspace path
  · obtain ⟨path, position, isFirst, stopped⟩ :=
      analyze_strict_of_broken discovered readable someBroken
    have noResult : ¬ ∃ result, linter.strict.analyze workspace = .ok result := by
      simp [stopped]
    refine ⟨⟨fun result => (noResult result).elim, ?_⟩, ?_, ?_⟩
    · intro unbroken
      obtain ⟨other, among, broken⟩ := someBroken
      exact (unbroken other among broken).elim
    · intro result analyzed
      exact (noResult ⟨result, analyzed⟩).elim
    · intro _
      have absolute := isAbsolute_of_discovered discovered isFirst.among
      exact ⟨path, position, isFirst, linter.isToldBelow_shownPath absolute, stopped⟩
  · have unbroken : ∀ path ∈ paths, ¬ linter.IsBroken workspace path := by
      simpa using someBroken
    have strictly := analyze_strict_of_unbroken discovered readable unbroken
    refine ⟨⟨fun _ => unbroken, fun _ => ⟨_, strictly⟩⟩, ?_, ?_⟩
    · intro result analyzed
      rw [analyze_lenient discovered readable, ← strictly, analyzed]
    · intro noResult
      exact (noResult ⟨_, strictly⟩).elim

/-- The text of a call that is not closed. -/
def openCall : String := "\n  render("

/-- How that text is read: as an error around the name and the open parenthesis. -/
def openCallTree : Tree :=
  .node ⟨"program", none, 3, 10, true, false, false, true⟩
    [.node ⟨"ERROR", none, 3, 10, true, true, false, true⟩
      [.node ⟨"identifier", none, 3, 9, true, false, false, false⟩ [],
        .node ⟨"(", none, 9, 10, false, false, false, false⟩ []]]

/-- How a text without any statement is read. -/
def emptyTree : Tree :=
  .node ⟨"program", none, 0, 0, true, false, false, false⟩ []

/-- A whole source and one with an open call, beside one that is left out. -/
def openCallWorkspace : Workspace :=
  { grammar := ⟨fun _ source =>
      if source = .ofString openCall then openCallTree else emptyTree⟩
    files :=
      .directory
        [("r",
          .directory
            [("a.js", .file "".toUTF8),
              ("b.ts", .file openCall.toUTF8),
              ("node_modules", .directory [("c.ts", .file openCall.toUTF8)])])]
    directory := ⟨"/r"⟩ }

/-- A linter without rules, which leaves out what linters leave out unless told. -/
def openCallLinter : Linter :=
  LinterOptions.build {} openCallWorkspace.directory

/--
The second of two readable sources has a call that is not closed, on its second line.
A strict run ends there, although the first source is whole, and tells the source by
its path below the root; the source in `node_modules`, which is broken too, is left out.
-/
theorem strict_run_ends_in_open_call :
    openCallLinter.discover openCallWorkspace =
        .ok [⟨"/r/./a.js"⟩, ⟨"/r/./b.ts"⟩] ∧
      (∀ path ∈ [⟨"/r/./a.js"⟩, ⟨"/r/./b.ts"⟩], Readable openCallWorkspace path) ∧
      openCallLinter.IsFirstError openCallWorkspace
        [⟨"/r/./a.js"⟩, ⟨"/r/./b.ts"⟩] ⟨"/r/./b.ts"⟩ ⟨2, 3⟩ ∧
      IsToldBelow openCallLinter.root ⟨"/r/./b.ts"⟩ ⟨"b.ts"⟩ ∧
      openCallLinter.strict.analyze openCallWorkspace =
        .error (.syntaxError ⟨"b.ts"⟩ ⟨2, 3⟩) := by
  have discovered :
      openCallLinter.discover openCallWorkspace =
        .ok [⟨"/r/./a.js"⟩, ⟨"/r/./b.ts"⟩] := by
    apply discover_of_pairwise
      [[⟨"/r/./a.js"⟩], [], [], [],
        [⟨"/r/./b.ts"⟩, ⟨"/r/./node_modules/c.ts"⟩], [], [], []]
    · decide +kernel
    · decide +kernel
    · decide +kernel
  have whole : openCallWorkspace.files.readText ⟨"/r/./a.js"⟩ = .ok "" := by
    decide +kernel
  have opened : openCallWorkspace.files.readText ⟨"/r/./b.ts"⟩ = .ok openCall := by
    decide +kernel
  have readable :
      ∀ path ∈ [⟨"/r/./a.js"⟩, ⟨"/r/./b.ts"⟩], Readable openCallWorkspace path := by
    simp [readable_of_text whole, readable_of_text opened]
  have broken : openCallLinter.IsBroken openCallWorkspace ⟨"/r/./b.ts"⟩ := by
    rw [isBroken_iff_of_text opened]
    decide +kernel
  have shown : openCallLinter.shownPath ⟨"/r/./b.ts"⟩ = ⟨"b.ts"⟩ := by
    decide +kernel
  obtain ⟨isOk, _, stops⟩ := strict_run_ends_at_first_error discovered readable
  obtain ⟨path, position, isFirst, told, stopped⟩ := stops fun result =>
    isOk.mp result ⟨"/r/./b.ts"⟩ (by simp) broken
  obtain ⟨text, read, firstError⟩ := isFirst.located
  rcases List.mem_pair.mp isFirst.among with rfl | rfl
  · -- The first source has no error that could be the first one.
    rw [whole] at read
    cases read
    have noError :
        (readSource openCallWorkspace.grammar
            (openCallLinter.shownPath ⟨"/r/./a.js"⟩) "").firstError? = none := by
      decide +kernel
    rw [noError] at firstError
    cases firstError
  · rw [opened] at read
    cases read
    have isPosition :
        (readSource openCallWorkspace.grammar ⟨"b.ts"⟩ openCall).firstError? =
          some ⟨2, 3⟩ := by
      decide +kernel
    rw [shown, isPosition] at firstError
    cases firstError
    rw [shown] at told stopped
    exact ⟨discovered, readable, isFirst, told, stopped⟩

end Linter

end UsageLint
