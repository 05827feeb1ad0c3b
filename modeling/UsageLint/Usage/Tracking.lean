import UsageLint.Usage.View
import UsageLint.Walk.Listeners

namespace UsageLint.Usage

open UsageLint.Syntax
open UsageLint.Walk

/-!
# Tracking

These listeners keep the state of a view up to date during a walk. Chained
before others, they make every import at or above a node known by the time the
others see that node, and the end of the file known to those called for it.
-/

namespace View

/-- Take in an import declaration. -/
def observeImport (node : Node) (view : View) : View :=
  { view with
    state :=
      { view.state with
        imports := view.state.imports.observeImport view.settings node } }

/-- Take in a call. -/
def observeRequire (node : Node) (view : View) : View :=
  { view with
    state :=
      { view.state with
        imports := view.state.imports.observeRequire view.settings node } }

/-- Take in the end of the file. -/
def finish (view : View) : View :=
  { view with state := { view.state with finished := true } }

/-- What is known before a walk. -/
def initial (settings : Settings) : View :=
  ⟨settings, .empty⟩

end View

/-- The listeners that keep a view up to date. -/
def tracking : Listeners View :=
  Listeners.empty
    |>.register (.every .importDeclaration) View.observeImport
    |>.register (.every .callExpression) View.observeRequire
    |>.register .programExit fun _ => View.finish

end UsageLint.Usage
