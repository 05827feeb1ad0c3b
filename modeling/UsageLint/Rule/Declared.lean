import UsageLint.Rule
import UsageLint.Usage.Predicate

namespace UsageLint

open UsageLint.Syntax
open UsageLint.Usage
open UsageLint.Walk

/-!
# Declared rules

A declared rule is written as data: for each of its checks a selector, the
name of a condition, and a text. A condition is a predicate of detection,
which reports the text as it stands, or asks for something that is shown after
the text.
-/

/-- When a declared check reports, and what it shows. -/
inductive Condition where
  /-- Report if the predicate holds. -/
  | holds (question : Predicate)
  /-- Always report, showing the kind of the node. -/
  | always
  /-- Report a waiting function with its name. -/
  | asyncUtilName
  /-- Report a node that has a category with that category. -/
  | category
  /-- Report the last load of the custom module. -/
  | customModuleImport
  /-- Report the last load of the testing library. -/
  | testingLibraryImport
  /-- Report whether the end of the file was reached. -/
  | finished
  /-- Report whether functions of the library may be in use. -/
  | imported
  /-- Report the framework, if it is known. -/
  | framework
  /-- Report what the context holds. -/
  | reported
deriving Repr, DecidableEq

namespace Condition

/-- The condition with a name. -/
def ofName? (name : String) : Option Condition :=
  match name with
  | "always" => some .always
  | "async_util_name" => some .asyncUtilName
  | "category" => some .category
  | "custom_module_import" => some .customModuleImport
  | "testing_library_import" => some .testingLibraryImport
  | "finished" => some .finished
  | "imported" => some .imported
  | "framework" => some .framework
  | "reported" => some .reported
  | _ => (Predicate.ofName? name).map .holds

/-- The name of a custom module, or that there is none. -/
def moduleText : Option String → String
  | some name => "Some(" ++ Text.quote name ++ ")"
  | none => "None"

/-- What a context holds, in one line. -/
def contextText (context : RuleContext) : String :=
  let reported := context.violations.length
  let aliases := context.view.imports.aliases.length
  s!"{reported} in " ++ context.file.text ++
    " module " ++ moduleText context.view.settings.customModule ++
    s!" aliases {aliases}"

/-- The name of a truth value. -/
def truthText (truth : Bool) : String :=
  if truth then "true" else "false"

/-- What a condition reports at a node, shown after a text. -/
def finding?
    (condition : Condition)
    (text : String)
    (node : Node)
    (context : RuleContext) :
    Option Finding :=
  let shown := fun (place : Node) (value : String) =>
    (⟨place, text ++ ":" ++ value⟩ : Finding)
  let view := context.view
  match condition with
  | holds question =>
      if question.holds view node then some ⟨node, text⟩ else none
  | always => some (shown node node.rawKind)
  | asyncUtilName => (view.asyncUtilName? node).map (shown node)
  | category =>
      match view.category node with
      | .unrelated => none
      | found => some (shown node found.label)
  | customModuleImport =>
      view.imports.customModule.map fun record => shown record.node record.name
  | testingLibraryImport =>
      view.imports.testingLibrary.map fun record => shown record.node record.name
  | finished => some (shown node (truthText view.isFinished))
  | imported => some (shown node (truthText view.isLibraryImported))
  | framework => view.framework?.map fun found => shown node found.name
  | reported => some (shown node (contextText context))

end Condition

/-- A check written as data; a condition of an unknown name never holds. -/
structure DeclaredCheck where
  selector : Selector
  conditionName : String
  text : String
deriving Repr, DecidableEq

/-- A rule written as data. -/
structure DeclaredRule where
  name : String
  code : String
  description : String
  /-- The severity of its own; without one, that of any other rule. -/
  severity : Option Severity
  checks : List DeclaredCheck
deriving Repr, DecidableEq

namespace DeclaredCheck

/-- Where a declared check reports what. -/
def findings (check : DeclaredCheck) (node : Node) (context : RuleContext) :
    List Finding :=
  ((Condition.ofName? check.conditionName).bind fun condition =>
    condition.finding? check.text node context).toList

end DeclaredCheck

namespace DeclaredRule

/-- The checks of a declared rule. -/
def toChecks (declared : DeclaredRule) : List Check :=
  declared.checks.map fun check => ⟨check.selector, check.findings⟩

/-- The rule that is declared. -/
def toRule (declared : DeclaredRule) : Rule :=
  { name := declared.name
    code := declared.code
    description := declared.description
    defaultSeverity := declared.severity.getD Rule.usualSeverity
    checks := declared.toChecks }

end DeclaredRule

end UsageLint
