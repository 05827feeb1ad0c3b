import UsageLint.Linter.Analysis

namespace UsageLint

open UsageLint.Files
open UsageLint.Report
open UsageLint.Syntax

/-!
# Runs of checks

A run checks the discovered sources one after another and ends with the first
that fails. If none fails, its result is that of the sources that hold a text,
each reported on by itself.
-/

section Traversal

variable {α β ε : Type}

/-- A list is gone through without an error if each item gives its result. -/
theorem mapM_eq_ok_iff
    (check : α → Except ε β)
    (items : List α)
    (results : List β) :
    items.mapM check = .ok results ↔ items.map check = results.map .ok := by
  induction items generalizing results with
  | nil =>
      cases results <;> simp [pure, Except.pure]
  | cons item rest inductionHypothesis =>
      rw [List.mapM_cons]
      cases checked : check item with
      | error cause =>
          cases results <;> simp [bind, Except.bind, checked]
      | ok result =>
          cases later : rest.mapM check with
          | error cause =>
              cases results <;>
                simp [bind, Except.bind, checked, ← inductionHypothesis, later]
          | ok others =>
              cases results <;>
                simp [bind, Except.bind, pure, Except.pure, checked,
                  ← inductionHypothesis, later]

/-- Where a list is not gone through, one of its items fails with the error of the whole. -/
theorem exists_of_mapM_eq_error
    {check : α → Except ε β}
    {items : List α}
    {cause : ε}
    (failed : items.mapM check = .error cause) :
    ∃ item ∈ items, check item = .error cause := by
  induction items with
  | nil =>
      cases failed
  | cons item rest inductionHypothesis =>
      rw [List.mapM_cons] at failed
      cases checked : check item with
      | error other =>
          rw [checked] at failed
          cases failed
          exact ⟨item, List.mem_cons_self .., checked⟩
      | ok result =>
          rw [checked] at failed
          cases later : rest.mapM check with
          | error other =>
              rw [later] at failed
              cases failed
              obtain ⟨next, among, isNext⟩ := inductionHypothesis later
              exact ⟨next, List.mem_cons_of_mem _ among, isNext⟩
          | ok others =>
              rw [later] at failed
              cases failed

/-- Going through a list ends with the first error, whatever comes after it. -/
theorem mapM_eq_error
    {check : α → Except ε β}
    {before after : List α}
    {item : α}
    {cause : ε}
    (passed : ∀ earlier ∈ before, ∃ result, check earlier = .ok result)
    (failed : check item = .error cause) :
    (before ++ item :: after).mapM check = .error cause := by
  induction before with
  | nil =>
      rw [List.nil_append, List.mapM_cons, failed]
      rfl
  | cons earlier rest inductionHypothesis =>
      rw [List.forall_mem_cons] at passed
      obtain ⟨result, checked⟩ := passed.1
      rw [List.cons_append, List.mapM_cons, checked, inductionHypothesis passed.2]
      rfl

/-- Of a list with an item that passes a test, the first such item. -/
theorem exists_first
    {test : α → Prop}
    {items : List α}
    (passes : ∃ item ∈ items, test item) :
    ∃ before item after,
      items = before ++ item :: after ∧
        test item ∧ ∀ earlier ∈ before, ¬ test earlier := by
  classical
  have found : (items.find? fun item => test item).isSome = true := by
    simpa [List.find?_isSome] using passes
  obtain ⟨item, isFound⟩ := Option.isSome_iff_exists.mp found
  obtain ⟨passed, before, after, shape, noneEarlier⟩ :=
    List.find?_eq_some_iff_append.mp isFound
  exact ⟨before, item, after, shape, by simpa using passed, by simpa using noneEarlier⟩

end Traversal

/-- A source that was read, under the path it is shown with. -/
structure CheckedSource where
  path : Path
  text : String
deriving Repr, DecidableEq

namespace Linter

/-- The source at a discovered path, if it holds a text. -/
def checkedSource? (linter : Linter) (workspace : Workspace) (path : Path) :
    Option CheckedSource :=
  match workspace.files.readText path with
  | .ok text => some ⟨linter.shownPath path, text⟩
  | .error _ => none

/-- The sources at some discovered paths. -/
def checkedSources (linter : Linter) (workspace : Workspace) (paths : List Path) :
    List CheckedSource :=
  paths.filterMap (linter.checkedSource? workspace)

/-- The tree of a source that was read. -/
def treeOf (grammar : Grammar) (source : CheckedSource) : SourceTree :=
  readSource grammar source.path source.text

/-- What a linter reports of a source whose syntax errors do not stop it. -/
def reported (linter : Linter) (grammar : Grammar) (source : CheckedSource) :
    List Violation :=
  linter.lintTree source.path (treeOf grammar source)

/-- A path can be read, except that what is there may be no text. -/
def Readable (workspace : Workspace) (path : Path) : Prop :=
  ∀ cause, workspace.files.readText path = .error cause → cause = .notText

/-- The source at a path has a syntax error. -/
def IsBroken (linter : Linter) (workspace : Workspace) (path : Path) : Prop :=
  ∃ source,
    linter.checkedSource? workspace path = some source ∧
      (treeOf workspace.grammar source).hasErrors = true

/-- What lets a run go on after a discovered path. -/
structure Passes (linter : Linter) (workspace : Workspace) (path : Path) : Prop where
  readable : Readable workspace path
  unbroken : linter.failsOnSyntaxError = true → ¬ linter.IsBroken workspace path

variable {linter : Linter} {workspace : Workspace} {path : Path}

theorem checkedSource?_of_text
    {text : String}
    (read : workspace.files.readText path = .ok text) :
    linter.checkedSource? workspace path = some ⟨linter.shownPath path, text⟩ := by
  rw [checkedSource?, read]

theorem checkedSource?_of_error
    {cause : ReadError}
    (unread : workspace.files.readText path = .error cause) :
    linter.checkedSource? workspace path = none := by
  rw [checkedSource?, unread]

theorem path_of_checkedSource?
    {source : CheckedSource}
    (found : linter.checkedSource? workspace path = some source) :
    source.path = linter.shownPath path := by
  unfold checkedSource? at found
  split at found <;> cases found
  rfl

theorem readable_of_text
    {text : String}
    (read : workspace.files.readText path = .ok text) :
    Readable workspace path := by
  intro cause unread
  rw [read] at unread
  cases unread

/-- Where no syntax error stops the run, being readable is enough. -/
theorem passes_of_readable
    (lenient : linter.failsOnSyntaxError = false)
    (readable : Readable workspace path) :
    linter.Passes workspace path where
  readable := readable
  unbroken := by
    rw [lenient]
    exact nofun

theorem isBroken_iff_of_text
    {text : String}
    (read : workspace.files.readText path = .ok text) :
    linter.IsBroken workspace path ↔
      (readSource workspace.grammar (linter.shownPath path) text).hasErrors = true := by
  simp [IsBroken, checkedSource?_of_text read, treeOf]

/-- Linting stops at a syntax error only, and only if it is asked to. -/
theorem lintSource_eq
    (linter : Linter)
    (grammar : Grammar)
    (source : CheckedSource) :
    linter.lintSource grammar source.path source.text =
      if linter.failsOnSyntaxError = true ∧ (treeOf grammar source).hasErrors = true then
        .error
          (.syntaxError source.path
            ((treeOf grammar source).source.position
              (treeOf grammar source).tree.errorStart))
      else
        .ok (linter.reported grammar source) := by
  unfold lintSource reported
  by_cases broken : (treeOf grammar source).hasErrors = true
  · by_cases fails : linter.failsOnSyntaxError = true <;>
      simp_all [treeOf, SourceTree.firstError?]
  · simp_all [treeOf, SourceTree.firstError?]

theorem lintSource_of_passes
    (passes : linter.Passes workspace path)
    {source : CheckedSource}
    (found : linter.checkedSource? workspace path = some source) :
    linter.lintSource workspace.grammar source.path source.text =
      .ok (linter.reported workspace.grammar source) := by
  rw [lintSource_eq, if_neg]
  rintro ⟨fails, broken⟩
  exact passes.unbroken fails ⟨source, found, broken⟩

/-- A check says what is reported of the source, if the path passes. -/
theorem check_of_passes (passes : linter.Passes workspace path) :
    linter.check workspace path =
      .ok
        ((linter.checkedSource? workspace path).map
          (linter.reported workspace.grammar)) := by
  unfold check
  cases read : workspace.files.readText path with
  | ok text =>
      have found : linter.checkedSource? workspace path = some ⟨_, text⟩ :=
        checkedSource?_of_text read
      simp only [lintSource_of_passes passes found, found]
      rfl
  | error cause =>
      rw [passes.readable cause read, checkedSource?_of_error read]
      rfl

/-- A run stops at a path that cannot be read, and says why. -/
theorem check_of_unreadable
    {cause : ReadError}
    (unread : workspace.files.readText path = .error cause)
    (isText : cause ≠ .notText) :
    linter.check workspace path = .error (.unreadable cause) := by
  unfold check
  cases cause <;> simp_all

/-- A strict run stops at a source with a syntax error, and says where the first is. -/
theorem check_of_isBroken
    (fails : linter.failsOnSyntaxError = true)
    (broken : linter.IsBroken workspace path) :
    ∃ text position,
      workspace.files.readText path = .ok text ∧
        (readSource workspace.grammar (linter.shownPath path) text).firstError? =
          some position ∧
        linter.check workspace path =
          .error (.syntaxError (linter.shownPath path) position) := by
  cases read : workspace.files.readText path with
  | error cause =>
      obtain ⟨source, found, _⟩ := broken
      rw [checkedSource?_of_error read] at found
      cases found
  | ok text =>
      rw [isBroken_iff_of_text read] at broken
      refine ⟨text, _, rfl, by rw [SourceTree.firstError?, if_pos broken], ?_⟩
      have linted :=
        lintSource_eq linter workspace.grammar ⟨linter.shownPath path, text⟩
      rw [if_pos ⟨fails, broken⟩] at linted
      simp only [check, read, linted]
      rfl

theorem check_eq_ok_iff (found : Option (List Violation)) :
    linter.check workspace path = .ok found ↔
      linter.Passes workspace path ∧
        found =
          (linter.checkedSource? workspace path).map
            (linter.reported workspace.grammar) := by
  constructor
  · intro checked
    have passes : linter.Passes workspace path := by
      constructor
      · intro cause unread
        apply Classical.byContradiction
        intro isText
        rw [check_of_unreadable unread isText] at checked
        cases checked
      · intro fails broken
        obtain ⟨_, _, _, _, stopped⟩ := check_of_isBroken fails broken
        rw [stopped] at checked
        cases checked
    rw [check_of_passes passes] at checked
    exact ⟨passes, (Except.ok.inj checked).symm⟩
  · rintro ⟨passes, rfl⟩
    exact check_of_passes passes

/-- The result of a run in which each discovered path passes. -/
def passedResult (linter : Linter) (workspace : Workspace) (paths : List Path) :
    LintResult :=
  resultOf
    ((linter.checkedSources workspace paths).map (linter.reported workspace.grammar))

theorem analyze_of_discover
    {paths : List Path}
    (discovered : linter.discover workspace = .ok paths) :
    linter.analyze workspace =
      (paths.mapM (linter.check workspace)).map fun checked =>
        resultOf (checked.filterMap id) := by
  simp only [analyze, discovered, bind, Except.bind]
  cases paths.mapM (linter.check workspace) <;> rfl

/-- A run in which all discovered paths pass comes to a result. -/
theorem analyze_of_passes
    {paths : List Path}
    (discovered : linter.discover workspace = .ok paths)
    (passes : ∀ path ∈ paths, linter.Passes workspace path) :
    linter.analyze workspace = .ok (linter.passedResult workspace paths) := by
  have checked :
      paths.mapM (linter.check workspace) =
        .ok
          (paths.map fun path =>
            (linter.checkedSource? workspace path).map
              (linter.reported workspace.grammar)) := by
    rw [mapM_eq_ok_iff, List.map_map, List.map_inj_left]
    intro path among
    exact check_of_passes (passes path among)
  rw [analyze_of_discover discovered, checked, passedResult, checkedSources,
    List.map_filterMap]
  simp only [Except.map, List.filterMap_map]
  rfl

/-- A run ends with the first discovered path that does not pass. -/
theorem analyze_of_error
    {before after : List Path}
    {cause : LintError}
    (discovered : linter.discover workspace = .ok (before ++ path :: after))
    (passes : ∀ earlier ∈ before, linter.Passes workspace earlier)
    (failed : linter.check workspace path = .error cause) :
    linter.analyze workspace = .error cause := by
  rw [analyze_of_discover discovered, mapM_eq_error _ failed]
  · rfl
  · intro earlier among
    exact ⟨_, check_of_passes (passes earlier among)⟩

/-- A run comes to a result if sources are discovered and all of them pass. -/
theorem analyze_eq_ok_iff (result : LintResult) :
    linter.analyze workspace = .ok result ↔
      ∃ paths,
        linter.discover workspace = .ok paths ∧
          (∀ path ∈ paths, linter.Passes workspace path) ∧
          result = linter.passedResult workspace paths := by
  constructor
  · intro analyzed
    cases discovered : linter.discover workspace with
    | error cause =>
        rw [analyze, discovered] at analyzed
        cases analyzed
    | ok paths =>
        have passes : ∀ path ∈ paths, linter.Passes workspace path := by
          intro path among
          rw [analyze_of_discover discovered] at analyzed
          cases gone : paths.mapM (linter.check workspace) with
          | error cause =>
              rw [gone] at analyzed
              cases analyzed
          | ok results =>
              rw [mapM_eq_ok_iff] at gone
              have isResult := gone ▸ List.mem_map_of_mem among
              obtain ⟨found, _, checked⟩ := List.mem_map.mp isResult
              exact ((check_eq_ok_iff found).mp checked.symm).1
        rw [analyze_of_passes discovered passes] at analyzed
        exact ⟨paths, rfl, passes, (Except.ok.inj analyzed).symm⟩
  · rintro ⟨paths, discovered, passes, rfl⟩
    exact analyze_of_passes discovered passes

end Linter

end UsageLint
