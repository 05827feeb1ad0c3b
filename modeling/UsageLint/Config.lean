import UsageLint.Settings
import UsageLint.Severity
import UsageLint.Toml.Document
import UsageLint.Toml.Settled

namespace UsageLint

/-!
# Configuration

A configuration says where to look for sources, which settings all rules
share, and what single rules do differently. It is written as a document with
the tables `analyzer`, `settings` and `rules`; other keys are passed over, and
a value of the wrong type under one of these makes the document no
configuration.

The values of settings and of a rule's options are settled, as nothing
prescribes their kinds.
-/

open Toml (Value Table Entries Surplus)

/-- Where to look for sources. -/
structure AnalyzerConfig where
  root : Path
  /-- Patterns of paths to leave out. -/
  exclude : List String
deriving Repr, DecidableEq

/-- What one rule does differently. -/
structure RuleConfig where
  enabled : Option Bool
  severity : Option Severity
  /-- Everything else that is said of the rule. -/
  options : Table
deriving Repr

/-- A whole configuration. -/
structure Config where
  analyzer : AnalyzerConfig
  settings : Table
  rules : NameTable RuleConfig
deriving Repr

namespace AnalyzerConfig

/-- The root when none is configured. -/
def defaultRoot : Path := ⟨"."⟩

/-- The excluded patterns when none are configured. -/
def defaultExclude : List String :=
  ["**/node_modules/**", "**/dist/**"]

/-- What counts without a configuration. -/
def default : AnalyzerConfig :=
  ⟨defaultRoot, defaultExclude⟩

/-- Read a root. -/
def rootOf? : Option Value → Option Path
  | none => some defaultRoot
  | some value => value.string?.map Path.mk

/-- Read a list of excluded patterns. -/
def excludeOf? : Option Value → Option (List String)
  | none => some defaultExclude
  | some (.array items) => items.mapM Value.string?
  | some _ => none

/-- Read the analyzer table, whose two values may also stand in an array. -/
def ofValue? : Option Value → Option AnalyzerConfig
  | none => some default
  | some (.array items) => do
      let root ← rootOf? items[0]?
      let exclude ← excludeOf? items[1]?
      return ⟨root, exclude⟩
  | some value => do
      let entries ← value.entries?
      let root ← rootOf? (NameTable.lookup? "root" entries)
      let exclude ← excludeOf? (NameTable.lookup? "exclude" entries)
      return ⟨root, exclude⟩

end AnalyzerConfig

/-- Read a severity: its name, alone or as the only key over nothing. -/
def Severity.ofValue? : Value → Option Severity
  | .string text => Severity.ofName? text
  | .table [(name, .table [])] => Severity.ofName? name
  | .table [(name, .array [])] => Severity.ofName? name
  | _ => none

namespace RuleConfig

/-- The key that turns a rule on or off. -/
def enabledKey : String := "enabled"

/-- The key that replaces the severity of a rule. -/
def severityKey : String := "severity"

/-- Read the table of a rule; in its options nothing may follow a moment. -/
def ofEntries? (entries : Entries) : Option RuleConfig := do
  let enabled ←
    match NameTable.lookup? enabledKey entries with
    | none => pure none
    | some value => value.boolean?.map some
  let severity ←
    match NameTable.lookup? severityKey entries with
    | none => pure none
    | some value => (Severity.ofValue? value).map some
  let options ←
    Table.settle? .refused
      (entries.filter fun (key, _) => key ≠ enabledKey && key ≠ severityKey)
  return ⟨enabled, severity, options⟩

/-- The value of an option. -/
def option? (config : RuleConfig) (key : String) : Option Value :=
  config.options.find? key

end RuleConfig

namespace Config

/-- What counts without a configuration. -/
def default : Config :=
  ⟨.default, .empty, .empty⟩

/-- Read the entries of a table, which may be left out. -/
def entriesOf? : Option Value → Option Entries
  | none => some []
  | some value => value.entries?

/-- Read the tables of all rules. -/
def rulesOf? (value : Option Value) : Option (NameTable RuleConfig) := do
  let entries ← entriesOf? value
  let rules ← entries.mapM fun (name, value) => do
    let config ← RuleConfig.ofEntries? (← value.entries?)
    return (name, config)
  return .ofList rules

/-- Read a configuration; what may follow a moment in the settings is given. -/
def ofEntries? (surplus : Surplus) (entries : Entries) : Option Config := do
  let analyzer ← AnalyzerConfig.ofValue? (NameTable.lookup? "analyzer" entries)
  let settings ← entriesOf? (NameTable.lookup? "settings" entries)
  let settings ← Table.settle? surplus settings
  let rules ← rulesOf? (NameTable.lookup? "rules" entries)
  return ⟨analyzer, settings, rules⟩

/-- Read a configuration from the text of a document. -/
def parse? (text : String) : Option Config :=
  (Toml.parse? text).bind (ofEntries? .ignored)

/-- What is configured for a rule. -/
def rule? (config : Config) (name : String) : Option RuleConfig :=
  config.rules.find? name

/-- Whether a rule runs; it does unless it is turned off. -/
def isEnabled (config : Config) (name : String) : Bool :=
  ((config.rule? name).bind RuleConfig.enabled).getD true

/-- The severity that replaces a rule's own. -/
def severity? (config : Config) (name : String) : Option Severity :=
  (config.rule? name).bind RuleConfig.severity

/-- The settings in effect for a rule. -/
def settingsFor (config : Config) (name : String) : Settings :=
  Settings.resolve config.settings ((config.rule? name).map RuleConfig.options)

/-- The warnings that come with the settings of a rule. -/
def warningsFor (config : Config) (name : String) : List Warning :=
  Settings.warnings config.settings ((config.rule? name).map RuleConfig.options)

end Config

end UsageLint
