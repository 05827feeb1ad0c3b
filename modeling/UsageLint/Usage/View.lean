import UsageLint.Imports.Tracker

namespace UsageLint.Usage

open UsageLint.Imports

/-!
# Views

A view is all that detection may look at: the settings in effect, the imports
known so far, and whether the end of the file was reached. The questions here
are about the file; those about single nodes are in the modules that follow.
-/

/-- What is known of a file at some point of a walk. -/
structure FileState where
  imports : Tracker
  finished : Bool
deriving Repr

/-- Nothing is known at the start of a file. -/
def FileState.empty : FileState :=
  ⟨.empty, false⟩

/-- What detection may look at. -/
structure View where
  settings : Settings
  state : FileState
deriving Repr

namespace View

/-- The imports known so far. -/
def imports (view : View) : Tracker :=
  view.state.imports

/-- Whether the end of the file was reached. -/
def isFinished (view : View) : Bool :=
  view.state.finished

/-- Whether functions of the library may be in use. -/
def isLibraryImported (view : View) : Bool :=
  view.settings.aggressiveModules ||
    view.imports.testingLibrary.isSome ||
    view.imports.customModule.isSome

/-- The configured framework, else the one that the imports imply. -/
def framework? (view : View) : Option Framework :=
  view.settings.framework.or view.imports.detectedFramework

end View

end UsageLint.Usage
