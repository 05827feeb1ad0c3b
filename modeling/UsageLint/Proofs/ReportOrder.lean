import UsageLint.Proofs.PlainRoots
import UsageLint.Proofs.PositionOrder
import UsageLint.Proofs.ReportPlaces

namespace UsageLint

open UsageLint.Files
open UsageLint.Report
open UsageLint.Syntax

/-!
# The order of reports

All violations of a run are sorted at once, by file, line and column. As the
checked sources are shown under different paths, this is the same as sorting the
violations of each source by themselves and putting them together in the order of
the paths.
-/

section Together

variable {α β : Type}

/-- If at most one item of a list adds anything, the order of the list is no matter. -/
theorem flatMap_eq_of_perm
    {parts : α → List β}
    {first second : List α}
    (permuted : first.Perm second)
    (oneAdds : first.Pairwise fun left right => parts left = [] ∨ parts right = []) :
    first.flatMap parts = second.flatMap parts := by
  induction permuted with
  | nil =>
      rfl
  | cons item _ inductionHypothesis =>
      rw [List.flatMap_cons, List.flatMap_cons, inductionHypothesis oneAdds.of_cons]
  | swap item other rest =>
      rcases List.rel_of_pairwise_cons oneAdds (List.mem_cons_self ..) with
        addsNothing | addsNothing
      · simp [addsNothing]
      · simp [addsNothing]
  | trans firstPermuted _ firstHypothesis secondHypothesis =>
      have stillOne :=
        (firstPermuted.pairwise_iff fun eitherEmpty => eitherEmpty.symm).mp oneAdds
      rw [firstHypothesis oneAdds, secondHypothesis stillOne]

end Together

namespace Syntax.Position

instance : Std.TransCmp Position.compare := by
  have isLex :
      Position.compare = compareLex (compareOn Position.line) (compareOn Position.column) :=
    rfl
  rw [isLex]
  infer_instance

theorem compare_eq_eq_iff (left right : Position) :
    left.compare right = .eq ↔ left = right := by
  rcases left with ⟨leftLine, leftColumn⟩
  rcases right with ⟨rightLine, rightColumn⟩
  simp [compare, Ordering.then_eq_eq]

end Syntax.Position

namespace Report.Violation

/-- Where in its file a violation is. -/
def position (violation : Violation) : Position :=
  ⟨violation.location.line, violation.location.column⟩

/-- Violations are ordered by their places in a file. -/
def comparePositions (left right : Violation) : Ordering :=
  left.position.compare right.position

instance : Std.TransCmp comparePositions :=
  transCmp_on Position.compare position

instance : Std.TransCmp Violation.compare := by
  have files :
      Std.TransCmp fun left right : Violation =>
        left.location.file.compare right.location.file :=
    transCmp_on Path.compare fun violation : Violation => violation.location.file
  have isLex :
      Violation.compare =
        compareLex
          (fun left right => left.location.file.compare right.location.file)
          comparePositions :=
    rfl
  rw [isLex]
  infer_instance

/-- Violations sorted by line and column; equal ones stay as they are. -/
def byPosition (violations : List Violation) : List Violation :=
  violations.mergeSort fun left right => (left.comparePositions right).isLE

theorem equalTo_comparePositions (violation : Violation) (violations : List Violation) :
    equalTo comparePositions violation violations =
      violations.filter fun other => other.position = violation.position := by
  apply List.filter_congr
  intro other _
  rw [decide_eq_decide]
  exact (Position.compare_eq_eq_iff _ _).trans eq_comm

/-- Sorting by places keeps what is reported at one place as it was reported. -/
theorem filter_byPosition (violation : Violation) (violations : List Violation) :
    ((byPosition violations).filter fun other => other.position = violation.position) =
      violations.filter fun other => other.position = violation.position := by
  rw [← equalTo_comparePositions, byPosition, equalTo_sorted, equalTo_comparePositions]

/-- Sorting by places sorts by offsets. -/
theorem pairwise_offset_byPosition
    {source : Source}
    {violations : List Violation}
    (placed : ∀ violation ∈ violations, violation.PlacedIn source) :
    (byPosition violations).Pairwise fun left right =>
      left.location.offset ≤ right.location.offset := by
  have inOrder :
      (byPosition violations).Pairwise fun left right =>
        (left.comparePositions right).isLE = true :=
    pairwise_sorted violations
  apply inOrder.imp_of_mem
  intro left right leftAmong rightAmong noLater
  have leftPlaced : source.position left.location.offset = left.position :=
    placed left (List.mem_mergeSort.mp leftAmong)
  have rightPlaced : source.position right.location.offset = right.position :=
    placed right (List.mem_mergeSort.mp rightAmong)
  rw [comparePositions, ← leftPlaced, ← rightPlaced, Source.compare_position] at noLater
  exact Nat.isLE_compare.mp noLater

section OneFile

variable
  {file : Path}
  {violations : List Violation}
  (inFile : ∀ violation ∈ violations, violation.location.file = file)

theorem mem_byPosition {violation : Violation} :
    violation ∈ byPosition violations ↔ violation ∈ violations :=
  List.mem_mergeSort

include inFile

theorem equalTo_compare_of_inFile (violation : Violation) :
    equalTo compare violation violations =
      if violation.location.file.compare file = .eq then
        equalTo comparePositions violation violations
      else
        [] := by
  unfold equalTo
  split
  next sameFile =>
    apply List.filter_congr
    intro other among
    rw [compare, inFile other among, sameFile]
    rfl
  next otherFile =>
    rw [List.filter_eq_nil_iff]
    intro other among
    rw [compare, inFile other among]
    simp [Ordering.then_eq_eq, otherFile]

/-- In one file, sorting by places lists equal violations alike. -/
theorem equalTo_byPosition (violation : Violation) :
    equalTo compare violation (byPosition violations) =
      equalTo compare violation violations := by
  have sortedInFile :
      ∀ other ∈ byPosition violations, other.location.file = file := by
    intro other among
    exact inFile other (mem_byPosition.mp among)
  rw [equalTo_compare_of_inFile sortedInFile, equalTo_compare_of_inFile inFile,
    byPosition, equalTo_sorted]

theorem pairwise_byPosition :
    (byPosition violations).Pairwise fun left right => (left.compare right).isLE = true := by
  have inOrder :
      (byPosition violations).Pairwise fun left right =>
        (left.comparePositions right).isLE = true :=
    pairwise_sorted violations
  have sameFile : file.compare file = .eq := Std.ReflCmp.compare_self
  apply inOrder.imp_of_mem
  intro left right leftAmong rightAmong noLater
  rw [compare, inFile left (mem_byPosition.mp leftAmong),
    inFile right (mem_byPosition.mp rightAmong), sameFile]
  exact noLater

end OneFile

end Report.Violation

namespace Linter

open Violation

variable {linter : Linter} {workspace : Workspace}

theorem file_of_mem_reported
    {grammar : Grammar}
    {source : CheckedSource}
    {violation : Violation}
    (among : violation ∈ linter.reported grammar source) :
    violation.location.file = source.path :=
  file_of_mem_lintTree among

/-- Sources at different paths have no equal violations. -/
theorem pairwise_equalTo_reported
    {grammar : Grammar}
    {sources : List CheckedSource}
    (ordered : sources.Pairwise fun left right => left.path.compare right.path = .lt)
    (violation : Violation) :
    sources.Pairwise fun left right =>
      equalTo Violation.compare violation (linter.reported grammar left) = [] ∨
        equalTo Violation.compare violation (linter.reported grammar right) = [] := by
  apply ordered.imp
  intro left right earlier
  rw [equalTo_compare_of_inFile fun _ among => file_of_mem_reported among,
    equalTo_compare_of_inFile fun _ among => file_of_mem_reported among]
  by_cases inLeft : violation.location.file.compare left.path = .eq
  · right
    rw [Std.TransCmp.congr_left inLeft, earlier]
    rfl
  · left
    rw [if_neg inLeft]

/-- Sorting all violations at once is sorting those of each source by themselves. -/
theorem sorted_eq_flatMap_byPosition
    {grammar : Grammar}
    {sources inOrder : List CheckedSource}
    (permuted : inOrder.Perm sources)
    (ordered : inOrder.Pairwise fun left right => left.path.compare right.path = .lt) :
    ((sources.flatMap (linter.reported grammar)).mergeSort
        fun left right => (left.compare right).isLE) =
      inOrder.flatMap fun source => byPosition (linter.reported grammar source) := by
  apply sorted_eq_of_equalTo
  · rw [List.pairwise_flatMap]
    constructor
    · intro source _
      exact pairwise_byPosition fun _ among => file_of_mem_reported among
    · apply ordered.imp
      intro left right earlier first isFirst second isSecond
      rw [Violation.compare, file_of_mem_reported (mem_byPosition.mp isFirst),
        file_of_mem_reported (mem_byPosition.mp isSecond), earlier]
      rfl
  · intro violation
    have alike :
        ∀ source,
          equalTo Violation.compare violation (byPosition (linter.reported grammar source)) =
            equalTo Violation.compare violation (linter.reported grammar source) := by
      intro source
      exact equalTo_byPosition (fun _ among => file_of_mem_reported among) violation
    rw [equalTo_flatMap, equalTo_flatMap]
    simp only [alike]
    exact flatMap_eq_of_perm permuted (pairwise_equalTo_reported ordered violation)

/-- Sorting lists all that is reported of one source, and nothing between. -/
theorem filter_flatMap_byPosition
    {grammar : Grammar}
    {sources : List CheckedSource}
    (ordered : sources.Pairwise fun left right => left.path.compare right.path = .lt)
    {source : CheckedSource}
    (among : source ∈ sources) :
    ((sources.flatMap fun source => byPosition (linter.reported grammar source)).filter
        fun violation => violation.location.file = source.path) =
      byPosition (linter.reported grammar source) := by
  obtain ⟨before, after, rfl⟩ := List.append_of_mem among
  have inFile :
      ∀ other,
        ∀ violation ∈ byPosition (linter.reported grammar other),
          violation.location.file = other.path := by
    intro other violation isReported
    exact file_of_mem_reported (mem_byPosition.mp isReported)
  have others :
      ∀ other ∈ before ++ after,
        ((byPosition (linter.reported grammar other)).filter fun violation =>
          violation.location.file = source.path) = [] := by
    intro other isOther
    rw [List.filter_eq_nil_iff]
    intro violation isReported
    rw [inFile other violation isReported, decide_eq_true_iff]
    intro samePath
    have itself : source.path.compare source.path = .eq := Std.ReflCmp.compare_self
    rw [List.pairwise_append, List.pairwise_cons] at ordered
    rcases List.mem_append.mp isOther with earlier | later
    · have isEarlier := ordered.2.2 other earlier source (List.mem_cons_self ..)
      rw [samePath, itself] at isEarlier
      cases isEarlier
    · have isLater := ordered.2.1.1 other later
      rw [samePath, itself] at isLater
      cases isLater
  have own :
      ((byPosition (linter.reported grammar source)).filter fun violation =>
          violation.location.file = source.path) =
        byPosition (linter.reported grammar source) := by
    rw [List.filter_eq_self]
    intro violation isReported
    exact decide_eq_true (inFile source violation isReported)
  rw [List.filter_flatMap, List.flatMap_append, List.flatMap_cons, own,
    List.flatMap_eq_nil_iff.mpr fun other earlier => others other (by simp [earlier]),
    List.flatMap_eq_nil_iff.mpr fun other later => others other (by simp [later])]
  simp

/-- The checked sources in the order of the paths they are shown with. -/
theorem exists_sources_in_order
    {paths : List Path}
    (once : linter.FindsEachOnce workspace)
    (discovered : linter.discover workspace = .ok paths) :
    ∃ sources : List CheckedSource,
      sources.Perm (linter.checkedSources workspace paths) ∧
        sources.Pairwise fun left right => left.path.compare right.path = .lt := by
  have byPath :
      Std.TransCmp fun left right : CheckedSource => left.path.compare right.path :=
    transCmp_on Path.compare CheckedSource.path
  have differ := pairwise_checkedSources once discovered
  have permuted :=
    List.mergeSort_perm (linter.checkedSources workspace paths)
      fun left right => (left.path.compare right.path).isLE
  refine ⟨_, permuted, ?_⟩
  have stillDiffer :=
    (permuted.symm.pairwise_iff fun different same =>
      different (Std.OrientedCmp.eq_symm same)).mp differ
  apply ((pairwise_sorted (linter.checkedSources workspace paths)).and stillDiffer).imp
  rintro left right ⟨noLater, different⟩
  cases compared : left.path.compare right.path with
  | lt =>
      rfl
  | eq =>
      exact (different compared).elim
  | gt =>
      rw [compared] at noLater
      cases noLater

/--
If no path is found twice, then the violations of a run are those of linting each
checked source by itself, sorted by line and column, source after source in the
order of the paths they are shown with. Those at one place are in the order of the
rules and of their reports. If the rules find fault only with the source at hand,
then those of one source are in the order of their offsets.
-/
theorem run_lists_sources_in_order
    (once : linter.FindsEachOnce workspace)
    {result : LintResult}
    (analyzed : linter.analyze workspace = .ok result) :
    ∃ (paths : List Path) (sources : List CheckedSource),
      linter.discover workspace = .ok paths ∧
        sources.Perm (linter.checkedSources workspace paths) ∧
        sources.Pairwise (fun left right => left.path.compare right.path = .lt) ∧
        (∀ source ∈ sources,
          linter.lintSource workspace.grammar source.path source.text =
            .ok (linter.reported workspace.grammar source)) ∧
        result.violations =
          sources.flatMap (fun source =>
            byPosition (linter.reported workspace.grammar source)) ∧
        result.filesChecked = sources.length ∧
        ∀ source ∈ sources,
          (result.violations.filter fun violation =>
              violation.location.file = source.path) =
            byPosition (linter.reported workspace.grammar source) ∧
          (∀ violation : Violation,
            ((byPosition (linter.reported workspace.grammar source)).filter
                fun other => other.position = violation.position) =
              linter.enabledRules.flatMap fun rule =>
                (linter.runRule source.path (treeOf workspace.grammar source) rule).filter
                  fun other => other.position = violation.position) ∧
          ((∀ rule ∈ linter.rules, rule.StaysInSource) →
            (byPosition (linter.reported workspace.grammar source)).Pairwise
              fun left right => left.location.offset ≤ right.location.offset) := by
  obtain ⟨paths, discovered, passes, rfl⟩ := (analyze_eq_ok_iff result).mp analyzed
  obtain ⟨sources, permuted, ordered⟩ := exists_sources_in_order once discovered
  have violations :
      (linter.passedResult workspace paths).violations =
        sources.flatMap fun source =>
          byPosition (linter.reported workspace.grammar source) := by
    rw [← sorted_eq_flatMap_byPosition permuted ordered]
    rfl
  refine ⟨paths, sources, discovered, permuted, ordered, ?_, violations, ?_, ?_⟩
  · intro source among
    obtain ⟨path, isPath, found⟩ := List.mem_filterMap.mp (permuted.mem_iff.mp among)
    exact lintSource_of_passes (passes path isPath) found
  · rw [permuted.length_eq]
    exact List.length_map _
  · intro source among
    refine ⟨?_, ?_, ?_⟩
    · rw [violations]
      exact filter_flatMap_byPosition ordered among
    · intro violation
      rw [filter_byPosition]
      exact List.filter_flatMap
    · intro stays
      apply pairwise_offset_byPosition
      intro violation isReported
      exact placedIn_of_mem_lintTree stays isReported

/-- The tree of a source that is one name. -/
def nameTree : Tree :=
  .node ⟨"program", none, 0, 1, true, false, false, false⟩
    [.node ⟨"expression_statement", none, 0, 1, true, false, false, false⟩
      [.node ⟨"identifier", none, 0, 1, true, false, false, false⟩ []]]

/-- Two sources, each of which is one name. -/
def namesWorkspace : Workspace :=
  { grammar := ⟨fun _ _ => nameTree⟩
    files :=
      .directory
        [("r",
          .directory
            [("a", .directory [("c.js", .file "x".toUTF8)]),
              ("b.ts", .file "y".toUTF8)])]
    directory := ⟨"/r"⟩ }

/-- A rule that reports each name, and the end of the file. -/
def namesRule : DeclaredRule :=
  { name := "names"
    code := "N1"
    description := ""
    severity := none
    checks :=
      [⟨.programExit, "always", "end"⟩, ⟨.every .identifier, "always", "name"⟩] }

/-- A linter with that rule and no other, made where the sources lie. -/
def namesLinter : Linter :=
  LinterOptions.build { rules := [namesRule.toRule] } namesWorkspace.directory

/--
Two sources, one of them a directory down, are found once each. They are listed under their
paths from the root, each with what the rule reports on it in order of place.
-/
theorem names_listed_in_order :
    namesLinter.FindsEachOnce namesWorkspace ∧
      (∀ rule ∈ namesLinter.rules, rule.StaysInSource) ∧
      ∃ result,
        namesLinter.analyze namesWorkspace = .ok result ∧
          ∃ sources : List CheckedSource,
            sources.Perm [⟨⟨"a/c.js"⟩, "x"⟩, ⟨⟨"b.ts"⟩, "y"⟩] ∧
              result.violations =
                sources.flatMap (fun source =>
                  byPosition (namesLinter.reported namesWorkspace.grammar source)) ∧
              result.filesChecked = sources.length := by
  have once : namesLinter.FindsEachOnce namesWorkspace := by
    apply findsEachOnce_of_isPlain
    · decide
    · have root : namesLinter.root = ⟨"/r/."⟩ := by decide
      rw [root]
      simp [Glob.IsPlain]
    · simp only [namesWorkspace, Entry.IsWellFormed, AreWellFormed]
      decide
  have stays : ∀ rule ∈ namesLinter.rules, rule.StaysInSource := by
    intro rule isRule
    rw [List.mem_singleton.mp isRule]
    exact namesRule.staysInSource
  have discovered :
      namesLinter.discover namesWorkspace =
        .ok [⟨"/r/./a/c.js"⟩, ⟨"/r/./b.ts"⟩] := by
    apply discover_of_pairwise
      [[⟨"/r/./a/c.js"⟩], [], [], [], [⟨"/r/./b.ts"⟩], [], [], []]
    · decide +kernel
    · decide +kernel
    · decide +kernel
  have readFirst : namesWorkspace.files.readText ⟨"/r/./a/c.js"⟩ = .ok "x" := by
    decide +kernel
  have readSecond : namesWorkspace.files.readText ⟨"/r/./b.ts"⟩ = .ok "y" := by
    decide +kernel
  have passes :
      ∀ path ∈ [⟨"/r/./a/c.js"⟩, ⟨"/r/./b.ts"⟩],
        namesLinter.Passes namesWorkspace path := by
    intro path among
    apply passes_of_readable rfl
    revert path
    simp [readable_of_text readFirst, readable_of_text readSecond]
  have analyzed := analyze_of_passes discovered passes
  obtain ⟨paths, sources, isDiscovered, permuted, _, _, violations, filesChecked, _⟩ :=
    run_lists_sources_in_order once analyzed
  rw [discovered] at isDiscovered
  cases isDiscovered
  refine ⟨once, stays, _, analyzed, sources, ?_, violations, filesChecked⟩
  have shown :
      namesLinter.checkedSources namesWorkspace [⟨"/r/./a/c.js"⟩, ⟨"/r/./b.ts"⟩] =
        [⟨⟨"a/c.js"⟩, "x"⟩, ⟨⟨"b.ts"⟩, "y"⟩] := by
    decide +kernel
  rw [← shown]
  exact permuted

end Linter

end UsageLint
