import UsageLint.Proofs.CheckRuns
import UsageLint.Proofs.ReportPlaces

namespace UsageLint

open UsageLint.Report
open UsageLint.Syntax
open UsageLint.Usage
open UsageLint.Walk

/-!
# The table of one rule

What a rule reports of a source depends on the settings that all rules share and
on the table of that rule, and on nothing else of the configuration or of the
other rules. Here the result of linting is written as the reports of the rules
one after another, each read off its own table. Two linters are then compared by
what their configurations say of some names: the reports under these names are
the same.
-/

/-- What is said of a rule that has no table. -/
def RuleConfig.blank : RuleConfig :=
  ⟨none, none, .empty⟩

/-- Whether two tables say the same but, it may be, of the severity. -/
structure RuleConfig.SameButSeverity (first second : RuleConfig) : Prop where
  enabled : second.enabled = first.enabled
  options : second.options = first.options

namespace Config

/-- What is said of a rule; to have no table is to have one that says nothing. -/
def table (config : Config) (name : String) : RuleConfig :=
  (config.rules.find? name).getD .blank

/-- Whether two configurations share their settings and say the same of some rules. -/
structure AgreesOn (names : String → Prop) (first second : Config) : Prop where
  settings : second.settings = first.settings
  table : ∀ name, names name → second.table name = first.table name

/--
What a rule reports of a tree, as its table has it: nothing if it is turned off,
and otherwise what it finds under its own settings and with its own severity.
-/
def reportsOf (config : Config) (path : Path) (tree : SourceTree) (rule : Rule) :
    List Violation :=
  let table := config.table rule.name
  if table.enabled.getD true then
    let settings := Settings.resolve config.settings (some table.options)
    (rule.violations path settings tree).map
      (·.withSeverity (table.severity.getD rule.defaultSeverity))
  else
    []

section Table

variable (config : Config) (name : String)

/-- A rule runs unless its table turns it off. -/
theorem isEnabled_eq : config.isEnabled name = (config.table name).enabled.getD true := by
  unfold isEnabled rule? table
  cases config.rules.find? name <;> rfl

/-- The severity that replaces a rule's own is the one in its table. -/
theorem severity?_eq : config.severity? name = (config.table name).severity := by
  unfold severity? rule? table
  cases config.rules.find? name <;> rfl

/-- To have no options is to have the options of a table that says nothing. -/
theorem settingsFor_eq :
    config.settingsFor name =
      Settings.resolve config.settings (some (config.table name).options) := by
  unfold settingsFor rule? table
  cases config.rules.find? name <;> rfl

end Table

end Config

/-- What a rule knows and has reported so far bears its name and its severity. -/
structure RuleContext.ReportsAs (rule : Rule) (context : RuleContext) : Prop where
  name : context.rule = rule.name
  severity : context.severity = rule.defaultSeverity
  reported :
    ∀ violation ∈ context.violations,
      violation.rule = rule.name ∧ violation.severity = rule.defaultSeverity

/-- Whatever a check finds is reported in the name of the rule. -/
theorem RuleContext.ReportsAs.foldl_report
    {rule : Rule}
    {context : RuleContext}
    (reportsAs : context.ReportsAs rule)
    (findings : List Finding) :
    (findings.foldl RuleContext.report context).ReportsAs rule := by
  apply List.foldlRecOn _ _ reportsAs
  intro context holds finding _
  constructor
  · exact holds.name
  · exact holds.severity
  · intro violation among
    rcases List.mem_append.mp among with earlier | last
    · exact holds.reported violation earlier
    · rw [List.mem_singleton.mp last]
      exact ⟨holds.name, holds.severity⟩

/-- A walk reports under the name and with the severity of the rule that walks. -/
theorem Rule.reportsAs_finish
    (rule : Rule)
    (file : Path)
    (settings : Settings)
    (tree : SourceTree) :
    (rule.finish file settings tree).ReportsAs rule := by
  apply holds_walk
  · intro listener among node _ context holds
    rcases List.mem_append.mp among with tracks | checks
    · obtain ⟨tracker, _, rfl⟩ := List.mem_map.mp tracks
      exact ⟨holds.name, holds.severity, holds.reported⟩
    · obtain ⟨check, _, rfl⟩ := List.mem_map.mp checks
      exact holds.foldl_report _
  · exact ⟨rfl, rfl, nofun⟩

namespace Config

variable
  {config : Config}
  {path : Path}
  {tree : SourceTree}

/-- Whatever stands in its table, a rule reports under its own name. -/
theorem rule_of_mem_reportsOf
    {rule : Rule}
    {violation : Violation}
    (reported : violation ∈ config.reportsOf path tree rule) :
    violation.rule = rule.name := by
  simp only [reportsOf] at reported
  split at reported
  · obtain ⟨found, isFound, rfl⟩ := List.mem_map.mp reported
    exact ((rule.reportsAs_finish ..).reported found isFound).1
  · cases reported

/-- The reports under some names are those of the rules with these names. -/
theorem filter_flatMap_reportsOf
    (keep : String → Bool)
    (rules : List Rule) :
    (rules.flatMap (config.reportsOf path tree)).filter (keep ·.rule) =
      (rules.filter (keep ·.name)).flatMap (config.reportsOf path tree) := by
  induction rules with
  | nil =>
      rfl
  | cons rule rest inductionHypothesis =>
      rw [List.flatMap_cons, List.filter_append, inductionHypothesis, List.filter_cons]
      split
      · next kept =>
          rw [List.flatMap_cons, List.filter_eq_self.mpr]
          intro violation reported
          rw [rule_of_mem_reportsOf reported]
          exact kept
      · next dropped =>
          rw [List.filter_eq_nil_iff.mpr, List.nil_append]
          intro violation reported
          rw [rule_of_mem_reportsOf reported]
          exact dropped

namespace AgreesOn

variable
  {names : String → Prop}
  {other : Config}
  (agrees : config.AgreesOn names other)

include agrees

/-- Of a rule that both say the same of, both make the same reports. -/
theorem reportsOf_eq
    {rule : Rule}
    (named : names rule.name) :
    other.reportsOf path tree rule = config.reportsOf path tree rule := by
  rw [reportsOf, reportsOf, agrees.settings, agrees.table rule.name named]

/-- Under the names that both say the same of, rules report the same. -/
theorem filter_flatMap_eq
    [DecidablePred names]
    {rules others : List Rule}
    (sameRules : others.filter (names ·.name) = rules.filter (names ·.name)) :
    (others.flatMap (other.reportsOf path tree)).filter (names ·.rule) =
      (rules.flatMap (config.reportsOf path tree)).filter (names ·.rule) := by
  rw [filter_flatMap_reportsOf (names ·), filter_flatMap_reportsOf (names ·),
    sameRules]
  apply List.flatMap_congr
  intro rule among
  exact agrees.reportsOf_eq (by simpa using (List.mem_filter.mp among).2)

end AgreesOn

/-- Where tables differ in the severity only, so do the reports of their rule. -/
theorem reportsOf_of_severity
    {other : Config}
    {rule : Rule}
    (settings : other.settings = config.settings)
    (same : (config.table rule.name).SameButSeverity (other.table rule.name)) :
    other.reportsOf path tree rule =
      (config.reportsOf path tree rule).map
        (·.withSeverity
          ((other.table rule.name).severity.getD rule.defaultSeverity)) := by
  simp only [reportsOf, settings, same.enabled, same.options]
  split
  · rw [List.map_map]
    rfl
  · rfl

/-- A rule that is turned off reports nothing, so no report bears its name. -/
theorem filter_flatMap_of_disabled
    {name : String}
    {rules : List Rule}
    (disabled : (config.table name).enabled = some false) :
    (rules.flatMap (config.reportsOf path tree)).filter (·.rule ≠ name) =
      rules.flatMap (config.reportsOf path tree) := by
  rw [List.filter_eq_self]
  intro violation reported
  obtain ⟨rule, _, ofRule⟩ := List.mem_flatMap.mp reported
  rw [rule_of_mem_reportsOf ofRule]
  refine decide_eq_true fun named => ?_
  simp [reportsOf, named, disabled] at ofRule

/-- The severity of a report is the one in the table, else that of the rule. -/
theorem severity_of_mem_reportsOf
    {rule : Rule}
    {violation : Violation}
    (reported : violation ∈ config.reportsOf path tree rule) :
    violation.severity =
      (config.table rule.name).severity.getD rule.defaultSeverity := by
  simp only [reportsOf] at reported
  split at reported
  · obtain ⟨found, _, rfl⟩ := List.mem_map.mp reported
    rfl
  · cases reported

end Config

namespace Linter

variable
  {linter : Linter}
  {path : Path}
  {tree : SourceTree}

/-- Linting a tree lists the reports of the rules in the order of the rules. -/
theorem lintTree_eq_flatMap :
    linter.lintTree path tree =
      linter.rules.flatMap (linter.config.reportsOf path tree) := by
  have runRule_eq :
      ∀ rule : Rule,
        linter.config.isEnabled rule.name = true →
        linter.runRule path tree rule = linter.config.reportsOf path tree rule := by
    intro rule enabled
    rw [Config.isEnabled_eq] at enabled
    simp only [runRule, Config.reportsOf, Config.severity?_eq, Config.settingsFor_eq,
      enabled, if_true]
    split
    · next severity given =>
        rw [given]
        rfl
    · next missing =>
        -- The severity of the rule itself is the one its reports have already.
        rw [missing, Option.getD_none, List.map_congr_left (g := id), List.map_id]
        intro violation found
        rw [← ((rule.reportsAs_finish ..).reported violation found).2]
        rfl
  rw [lintTree, enabledRules]
  induction linter.rules with
  | nil =>
      rfl
  | cons rule rest inductionHypothesis =>
      rw [List.flatMap_cons, List.filter_cons, ← inductionHypothesis]
      split
      · next enabled =>
          rw [List.flatMap_cons, runRule_eq rule enabled]
      · next disabled =>
          rw [Config.isEnabled_eq] at disabled
          simp only [Config.reportsOf, disabled, Bool.false_eq_true, if_false,
            List.nil_append]

/-- Two lintings that fail alike, or come to results in a relation. -/
inductive EndsAlike (related : List Violation → List Violation → Prop) :
    Except LintError (List Violation) → Except LintError (List Violation) → Prop where
  | failed (cause : LintError) : EndsAlike related (.error cause) (.error cause)
  | finished {found other : List Violation} (result : related found other) :
      EndsAlike related (.ok found) (.ok other)

/-- What ends like a linting with a result has a result in the relation. -/
theorem EndsAlike.exists_of_ok
    {related : List Violation → List Violation → Prop}
    {found : List Violation}
    {ending : Except LintError (List Violation)}
    (alike : EndsAlike related (.ok found) ending) :
    ∃ other, ending = .ok other ∧ related found other := by
  cases alike with
  | finished result =>
      exact ⟨_, rfl, result⟩

/-- Whether linting fails is no matter of the rules and what is said of them. -/
theorem lintSource_eq_flatMap
    (linter : Linter)
    (grammar : Grammar)
    (path : Path)
    (text : String) :
    linter.lintSource grammar path text =
      let tree := readSource grammar path text
      if linter.failsOnSyntaxError = true ∧ tree.hasErrors = true then
        .error (.syntaxError path (tree.source.position tree.tree.errorStart))
      else
        .ok (linter.rules.flatMap (linter.config.reportsOf path tree)) := by
  simp only [← lintTree_eq_flatMap]
  exact linter.lintSource_eq grammar ⟨path, text⟩

/-- Linters that stop at the same trees end alike if what their rules report is related. -/
theorem endsAlike_lintSource
    {related : List Violation → List Violation → Prop}
    {linter other : Linter}
    (sameMode : other.failsOnSyntaxError = linter.failsOnSyntaxError)
    (grammar : Grammar)
    (path : Path)
    (text : String)
    (result :
      related
        (linter.rules.flatMap
          (linter.config.reportsOf path (readSource grammar path text)))
        (other.rules.flatMap
          (other.config.reportsOf path (readSource grammar path text)))) :
    EndsAlike related (linter.lintSource grammar path text)
      (other.lintSource grammar path text) := by
  rw [lintSource_eq_flatMap, lintSource_eq_flatMap, sameMode]
  dsimp only
  split
  · exact .failed _
  · exact .finished result

/--
Linting a source stops at a syntax error, if it is asked to, and otherwise lists
the reports of the rules one after another, each rule's as its own table has
them. So where two configurations differ in the table of one name, the reports
under other names are the same; the rule that is turned off takes away its own
reports and no other; and where only the severity differs, so do the rule's
reports, which have the one in the table or else the rule's own. Whatever other
rules there are, and whatever is said of them, the reports under a name stay the
same.
-/
theorem rules_report_by_their_own_tables
    (linter : Linter)
    (grammar : Grammar)
    (path : Path)
    (text : String)
    (name : String) :
    let tree := readSource grammar path text
    let ending := fun (linter : Linter) => linter.lintSource grammar path text
    (ending linter =
        if linter.failsOnSyntaxError = true ∧ tree.hasErrors = true then
          .error (.syntaxError path (tree.source.position tree.tree.errorStart))
        else
          .ok (linter.rules.flatMap (linter.config.reportsOf path tree))) ∧
      (∀ config,
        linter.config.AgreesOn (· ≠ name) config →
        EndsAlike
            (fun found other =>
              other.filter (·.rule ≠ name) = found.filter (·.rule ≠ name))
            (ending linter) (ending { linter with config := config }) ∧
          ((config.table name).enabled = some false →
            EndsAlike (fun found other => other = found.filter (·.rule ≠ name))
              (ending linter) (ending { linter with config := config })) ∧
          ((linter.config.table name).SameButSeverity (config.table name) →
            ∀ rule : Rule,
              rule.name = name →
              (∀ violation ∈ linter.config.reportsOf path tree rule,
                  violation.severity =
                    (linter.config.table name).severity.getD rule.defaultSeverity) ∧
                config.reportsOf path tree rule =
                  (linter.config.reportsOf path tree rule).map
                    (·.withSeverity
                      ((config.table name).severity.getD rule.defaultSeverity)))) ∧
      ∀ other : Linter,
        other.failsOnSyntaxError = linter.failsOnSyntaxError →
        linter.config.AgreesOn (· = name) other.config →
        other.rules.filter (·.name = name) = linter.rules.filter (·.name = name) →
        EndsAlike
          (fun found other =>
            other.filter (·.rule = name) = found.filter (·.rule = name))
          (ending linter) (ending other) := by
  intro tree ending
  refine ⟨linter.lintSource_eq_flatMap grammar path text, ?_, ?_⟩
  · intro config agrees
    have othersSame :
        (linter.rules.flatMap (config.reportsOf path tree)).filter (·.rule ≠ name) =
          (linter.rules.flatMap (linter.config.reportsOf path tree)).filter
            (·.rule ≠ name) :=
      agrees.filter_flatMap_eq rfl
    refine ⟨?_, ?_, ?_⟩
    · exact endsAlike_lintSource (by rfl) grammar path text othersSame
    · intro disabled
      refine endsAlike_lintSource (by rfl) grammar path text ?_
      rw [← othersSame, Config.filter_flatMap_of_disabled disabled]
    · rintro same rule rfl
      exact ⟨fun _ => Config.severity_of_mem_reportsOf,
        Config.reportsOf_of_severity agrees.settings same⟩
  · intro other sameMode agrees sameRules
    exact endsAlike_lintSource sameMode grammar path text
      (agrees.filter_flatMap_eq sameRules)

/-- A rule that reports the end of the file. -/
def endRule (name : String) : Rule :=
  { name := name
    code := name
    checks := [⟨.programExit, fun node _ => [⟨node, "end"⟩]⟩] }

/-- A grammar that reads an empty program out of everything. -/
def emptyGrammar : Grammar :=
  ⟨fun _ _ => .node ⟨"program", none, 0, 0, true, false, false, false⟩ []⟩

/-- What that rule reports of an empty file. -/
def endReport (name : String) (severity : Severity) : Violation :=
  ⟨name, name, severity, ⟨⟨"a.js"⟩, 1, 1, 0, 0⟩, "end"⟩

/-- A configuration with a table for one rule. -/
def configOf (name : String) (table : RuleConfig) : Config :=
  { Config.default with rules := .ofList [(name, table)] }

/-- Two rules that report the end of the file, the first of them as a warning. -/
def endLinter : Linter :=
  { root := ⟨"/r"⟩
    rules := [endRule "first", endRule "second"]
    excludes := []
    config := configOf "first" ⟨none, some .warning, .empty⟩
    failsOnSyntaxError := true }

/--
Of two rules the first is turned off, then given another severity, and then left
alone while the second is turned off: its own reports go, change their severity
and stay, and those of the second are there as long as that one is on.
-/
theorem first_rule_is_silenced_raised_and_kept :
    let silenced := configOf "first" ⟨some false, none, .empty⟩
    let raised := configOf "first" ⟨none, some .info, .empty⟩
    let kept : Config :=
      { endLinter.config with
        rules := endLinter.config.rules.insert "second" ⟨some false, none, .empty⟩ }
    let ending := fun (config : Config) =>
      { endLinter with config := config }.lintSource emptyGrammar ⟨"a.js"⟩ ""
    ending endLinter.config =
        .ok [endReport "first" .warning, endReport "second" .error] ∧
      ending silenced = .ok [endReport "second" .error] ∧
      raised.reportsOf ⟨"a.js"⟩ (readSource emptyGrammar ⟨"a.js"⟩ "")
          (endRule "first") =
        [endReport "first" .info] ∧
      ∃ reports,
        ending kept = .ok reports ∧
          reports.filter (·.rule = "first") = [endReport "first" .warning] := by
  intro silenced raised kept ending
  have found :
      endLinter.lintSource emptyGrammar ⟨"a.js"⟩ "" =
        .ok [endReport "first" .warning, endReport "second" .error] := by
    decide +kernel
  obtain ⟨_, ofTables, ofOthers⟩ :=
    rules_report_by_their_own_tables endLinter emptyGrammar ⟨"a.js"⟩ "" "first"
  have differ :
      ∀ table, endLinter.config.AgreesOn (· ≠ "first") (configOf "first" table) := by
    intro table
    refine ⟨rfl, fun name other => ?_⟩
    simp [Config.table, endLinter, configOf, NameTable.ofList, NameTable.find?_insert,
      other]
  refine ⟨found, ?_, ?_, ?_⟩
  · have ended := (ofTables silenced (differ _)).2.1 rfl
    beta_reduce at ended
    rw [found] at ended
    obtain ⟨reports, isEnding, rfl⟩ := ended.exists_of_ok
    exact isEnding
  · have warned :
        endLinter.config.reportsOf ⟨"a.js"⟩ (readSource emptyGrammar ⟨"a.js"⟩ "")
            (endRule "first") =
          [endReport "first" .warning] := by
      decide +kernel
    have reported :=
      ((ofTables raised (differ _)).2.2 ⟨rfl, rfl⟩ (endRule "first") rfl).2
    rw [reported, warned]
    rfl
  · have agrees : endLinter.config.AgreesOn (· = "first") kept := by
      refine ⟨rfl, ?_⟩
      rintro name rfl
      rfl
    have ended := ofOthers { endLinter with config := kept } rfl agrees rfl
    beta_reduce at ended
    rw [found] at ended
    exact ended.exists_of_ok

end Linter

end UsageLint
