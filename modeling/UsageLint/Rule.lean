import UsageLint.Report.Violation
import UsageLint.Usage.Tracking

namespace UsageLint

open UsageLint.Syntax
open UsageLint.Report
open UsageLint.Usage
open UsageLint.Walk

/-!
# Rules

A rule is a list of checks. A check is called for the nodes that its selector
picks and answers with findings; it may look at everything the walk knows so
far, but the only thing it changes is the list of violations, to which its
findings are added under the name of the rule.
-/

/-- What a rule knows while one file is walked. -/
structure RuleContext where
  rule : String
  code : String
  severity : Severity
  file : Path
  view : View
  /-- The violations so far, oldest first. -/
  violations : List Violation

/-- Something to report, and where. -/
structure Finding where
  node : Node
  message : String

namespace RuleContext

/-- Report a finding. -/
def report (context : RuleContext) (finding : Finding) : RuleContext :=
  { context with
    violations :=
      context.violations ++
        [{ code := context.code
           rule := context.rule
           severity := context.severity
           location := .ofNode context.file finding.node
           message := finding.message }] }

/-- The same context with another view. -/
def withView (context : RuleContext) (view : View) : RuleContext :=
  { context with view := view }

end RuleContext

/-- What to look for at the nodes that a selector picks. -/
structure Check where
  selector : Selector
  findings : Node → RuleContext → List Finding

/-- The severity of rules that choose none. -/
def Rule.usualSeverity : Severity := .error

/-- A named list of checks. -/
structure Rule where
  name : String
  code : String
  description : String := ""
  defaultSeverity : Severity := Rule.usualSeverity
  checks : List Check

/-- Make a check and report what it finds. -/
def Check.run (check : Check) (node : Node) (context : RuleContext) : RuleContext :=
  (check.findings node context).foldl RuleContext.report context

namespace Rule

/-- The listeners of a rule, one for each check. -/
def listeners (rule : Rule) : Listeners RuleContext :=
  ⟨rule.checks.map fun check => ⟨check.selector, check.run⟩⟩

/-- What a rule knows at the start of a file. -/
def start (rule : Rule) (file : Path) (settings : Settings) : RuleContext :=
  { rule := rule.name
    code := rule.code
    severity := rule.defaultSeverity
    file := file
    view := .initial settings
    violations := [] }

/-- The listeners of a rule after those that keep its view up to date. -/
def trackedListeners (rule : Rule) : Listeners RuleContext :=
  (tracking.within RuleContext.view RuleContext.withView).chain rule.listeners

/-- What a rule knows at the end of a file. -/
def finish (rule : Rule) (file : Path) (settings : Settings) (tree : SourceTree) :
    RuleContext :=
  walk rule.trackedListeners tree (rule.start file settings)

/-- The violations of a rule in a file. -/
def violations (rule : Rule) (file : Path) (settings : Settings) (tree : SourceTree) :
    List Violation :=
  (rule.finish file settings tree).violations

end Rule

end UsageLint
