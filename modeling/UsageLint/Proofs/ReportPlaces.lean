import UsageLint.Linter.Source
import UsageLint.Proofs.LastLoads
import UsageLint.Proofs.RuleSight
import UsageLint.Rule.Declared

namespace UsageLint

open UsageLint.Imports
open UsageLint.Report
open UsageLint.Syntax
open UsageLint.Usage
open UsageLint.Walk

/-!
# The places of reports

What a rule reports of a file it reports under the path of that file. If its
checks find fault only with nodes of the file they are called for, then the line
and column of each report are the position of its offset in the text.
-/

namespace Walk

variable {C : Type} {listeners : Listeners C} {tree : SourceTree} {context : C}

/-- What each handler keeps at the nodes of a tree, a walk keeps. -/
theorem holds_walk
    {motive : C → Prop}
    (kept :
      ∀ listener ∈ listeners.entries,
        ∀ node ∈ tree.root.preorder,
          ∀ context, motive context → motive (listener.handle node context))
    (atStart : motive context) :
    motive (walk listeners tree context) := by
  rw [Listeners.walk_eq_foldl_schedule]
  apply List.foldlRecOn _ _ atStart
  rintro context holds ⟨number, node⟩ scheduled
  have isListener := List.get_mem listeners.entries number
  apply kept _ isListener node _ context holds
  rcases (listeners.mem_schedule).mp scheduled with ⟨among, _⟩ | ⟨_, isRoot⟩
  · exact among
  · rw [isRoot]
    exact tree.root.mem_preorder_self

end Walk

/-- The imports in mind are recorded with nodes of one source. -/
def Imports.Tracker.RecordsIn (source : Source) (tracker : Tracker) : Prop :=
  ∀ record,
    tracker.customModule = some record ∨ tracker.testingLibrary = some record →
    record.node.source = source

theorem Imports.Tracker.RecordsIn.record
    {source : Source}
    {tracker : Tracker}
    (recordsIn : tracker.RecordsIn source)
    (settings : Settings)
    {node : Node}
    (isInSource : node.source = source)
    (load : ModuleLoad) :
    (tracker.record settings node load).RecordsIn source := by
  intro record inMind
  rw [customModule_record, testingLibrary_record] at inMind
  rcases inMind with custom | library
  · split at custom
    · cases custom
      exact isInSource
    · exact recordsIn record (Or.inl custom)
  · split at library
    · cases library
      exact isInSource
    · exact recordsIn record (Or.inr library)

/-- The listeners that keep a view up to date record the nodes they are called with. -/
theorem Usage.recordsIn_tracking
    {listener : Listener View}
    (among : listener ∈ tracking.entries)
    {source : Source}
    {node : Node}
    (isInSource : node.source = source)
    {view : View}
    (recordsIn : view.imports.RecordsIn source) :
    (listener.handle node view).imports.RecordsIn source := by
  have cases_of_among :
      listener = ⟨.every .importDeclaration, View.observeImport⟩ ∨
        listener = ⟨.every .callExpression, View.observeRequire⟩ ∨
        listener = ⟨.programExit, fun _ => View.finish⟩ := by
    simpa [tracking, Listeners.register, Listeners.empty] using among
  rcases cases_of_among with rfl | rfl | rfl
  · change (view.imports.observeImport view.settings node).RecordsIn source
    unfold Tracker.observeImport
    split
    · exact recordsIn.record _ isInSource _
    · exact recordsIn
  · change (view.imports.observeRequire view.settings node).RecordsIn source
    unfold Tracker.observeRequire
    split
    · exact recordsIn.record _ isInSource _
    · exact recordsIn
  · exact recordsIn

/-- The line and column of a report are the position of its offset. -/
def Report.Violation.PlacedIn (source : Source) (violation : Violation) : Prop :=
  source.position violation.location.offset =
    ⟨violation.location.line, violation.location.column⟩

/-- A check finds fault only with nodes of the source that it is called for. -/
def Check.StaysInSource (check : Check) : Prop :=
  ∀ node context,
    context.view.imports.RecordsIn node.source →
    ∀ finding ∈ check.findings node context, finding.node.source = node.source

/-- All checks of a rule find fault only with nodes of the source at hand. -/
def Rule.StaysInSource (rule : Rule) : Prop :=
  ∀ check ∈ rule.checks, check.StaysInSource

/-- A condition finds nodes of the source it looks at, the recorded ones included. -/
theorem Condition.source_of_finding?
    {condition : Condition}
    {text : String}
    {node : Node}
    {context : RuleContext}
    {finding : Finding}
    (recordsIn : context.view.imports.RecordsIn node.source)
    (found : condition.finding? text node context = some finding) :
    finding.node.source = node.source := by
  cases condition with
  | customModuleImport =>
      simp only [finding?, Option.map_eq_some_iff] at found
      obtain ⟨record, inMind, rfl⟩ := found
      exact recordsIn record (Or.inl inMind)
  | testingLibraryImport =>
      simp only [finding?, Option.map_eq_some_iff] at found
      obtain ⟨record, inMind, rfl⟩ := found
      exact recordsIn record (Or.inr inMind)
  | asyncUtilName | framework =>
      simp only [finding?, Option.map_eq_some_iff] at found
      obtain ⟨_, _, rfl⟩ := found
      rfl
  | always | finished | imported | reported =>
      simp only [finding?, Option.some.injEq] at found
      rw [← found]
  | category | holds =>
      simp only [finding?] at found
      split at found <;> cases found
      rfl

/-- Rules that are written as data find fault only with the source at hand. -/
theorem DeclaredRule.staysInSource (declared : DeclaredRule) :
    declared.toRule.StaysInSource := by
  intro check among node context recordsIn finding found
  obtain ⟨declaredCheck, _, rfl⟩ := List.mem_map.mp among
  obtain ⟨condition, _, isFinding⟩ := Option.bind_eq_some_iff.mp (Option.mem_toList.mp found)
  exact Condition.source_of_finding? recordsIn isFinding

/-- What is reported of a file so far is reported at places in it. -/
structure RuleContext.ReportsOf
    (path : Path)
    (source : Source)
    (stays : Prop)
    (context : RuleContext) : Prop where
  file : context.file = path
  recordsIn : context.view.imports.RecordsIn source
  inFile : ∀ violation ∈ context.violations, violation.location.file = path
  placed : stays → ∀ violation ∈ context.violations, violation.PlacedIn source

namespace RuleContext.ReportsOf

variable {path : Path} {source : Source} {stays : Prop} {context : RuleContext}

/-- Another view keeps the reports of a file, if what it records is in its source. -/
theorem withImports
    (reportsOf : context.ReportsOf path source stays)
    {view : View}
    (recordsIn : view.imports.RecordsIn source) :
    (context.withView view).ReportsOf path source stays where
  file := reportsOf.file
  recordsIn := recordsIn
  inFile := reportsOf.inFile
  placed := reportsOf.placed

theorem report
    (reportsOf : context.ReportsOf path source stays)
    {finding : Finding}
    (staying : stays → finding.node.source = source) :
    (context.report finding).ReportsOf path source stays where
  file := reportsOf.file
  recordsIn := reportsOf.recordsIn
  inFile := by
    intro violation among
    rcases List.mem_append.mp among with earlier | last
    · exact reportsOf.inFile violation earlier
    · rw [List.mem_singleton.mp last]
      exact reportsOf.file
  placed := by
    intro holds violation among
    rcases List.mem_append.mp among with earlier | last
    · exact reportsOf.placed holds violation earlier
    · rw [List.mem_singleton.mp last, Violation.PlacedIn, ← staying holds]
      rfl

theorem foldl_report
    (reportsOf : context.ReportsOf path source stays)
    {findings : List Finding}
    (staying : stays → ∀ finding ∈ findings, finding.node.source = source) :
    (findings.foldl RuleContext.report context).ReportsOf path source stays := by
  apply List.foldlRecOn _ _ reportsOf
  intro context holds finding among
  exact holds.report fun inSource => staying inSource finding among

end RuleContext.ReportsOf

/-- A rule reports of a file at places in it, if its checks stay there. -/
theorem Rule.reportsOf_finish
    (rule : Rule)
    (file : Path)
    (settings : Settings)
    (tree : SourceTree) :
    (rule.finish file settings tree).ReportsOf file tree.source rule.StaysInSource := by
  unfold finish
  apply holds_walk
  · intro listener among node inTree context holds
    have isInSource : node.source = tree.source := Node.source_of_mem_preorder inTree
    rcases List.mem_append.mp among with tracks | checks
    · obtain ⟨tracker, isTracking, rfl⟩ := List.mem_map.mp tracks
      exact holds.withImports (recordsIn_tracking isTracking isInSource holds.recordsIn)
    · obtain ⟨check, isCheck, rfl⟩ := List.mem_map.mp checks
      apply holds.foldl_report
      intro stays finding found
      have recordsIn := holds.recordsIn
      rw [← isInSource] at recordsIn ⊢
      exact stays check isCheck node context recordsIn finding found
  · exact {
      file := rfl
      recordsIn := by
        intro record inMind
        rcases inMind with custom | library
        · cases custom
        · cases library
      inFile := nofun
      placed := nofun }

namespace Linter

variable {linter : Linter} {path : Path} {tree : SourceTree} {violation : Violation}

/-- Whatever a linter reports on a tree is reported by one of its rules, at the same place. -/
theorem exists_rule_of_mem_lintTree (among : violation ∈ linter.lintTree path tree) :
    ∃ rule ∈ linter.rules,
      ∃ settings, ∃ found ∈ rule.violations path settings tree,
        violation.location = found.location := by
  obtain ⟨rule, enabled, reported⟩ := List.mem_flatMap.mp among
  refine ⟨rule, (List.mem_filter.mp enabled).1, linter.config.settingsFor rule.name, ?_⟩
  unfold runRule at reported
  dsimp only at reported
  split at reported
  · obtain ⟨found, isFound, rfl⟩ := List.mem_map.mp reported
    exact ⟨found, isFound, rfl⟩
  · exact ⟨violation, reported, rfl⟩

/-- All that is reported of a source is reported under its path. -/
theorem file_of_mem_lintTree (among : violation ∈ linter.lintTree path tree) :
    violation.location.file = path := by
  obtain ⟨rule, _, settings, found, isFound, same⟩ := exists_rule_of_mem_lintTree among
  rw [same]
  exact (rule.reportsOf_finish path settings tree).inFile found isFound

/-- All that is reported of a source is placed in it, if the rules stay there. -/
theorem placedIn_of_mem_lintTree
    (stays : ∀ rule ∈ linter.rules, rule.StaysInSource)
    (among : violation ∈ linter.lintTree path tree) :
    violation.PlacedIn tree.source := by
  obtain ⟨rule, isRule, settings, found, isFound, same⟩ := exists_rule_of_mem_lintTree among
  rw [Violation.PlacedIn, same]
  exact (rule.reportsOf_finish path settings tree).placed (stays rule isRule) found isFound

end Linter

end UsageLint
