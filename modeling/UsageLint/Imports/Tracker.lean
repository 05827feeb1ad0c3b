import UsageLint.Imports.ModuleLoad
import UsageLint.Settings

namespace UsageLint.Imports

open UsageLint.Syntax

/-!
# Import tracking

A tracker is what is known of a file's imports at some point. It keeps the local
names last bound to something of the library's family of modules, with what they
stand for, and apart from these the names last bound to something foreign.
Beside that it keeps the name of the user-event object and the last loads of the
custom module and of the testing library.
-/

/-- What a specifier names. -/
inductive ModuleClass where
  | testingLibrary (framework : Option Framework)
  | userEvent
  | custom
  | foreign
deriving Repr, DecidableEq

/-- Whether a specifier names the configured custom module. -/
def isCustomModule (specifier : String) (settings : Settings) : Bool :=
  settings.customModule.any (Vocabulary.matchesCustomModule specifier)

/-- What a specifier names; the library's own modules come first. -/
def ModuleClass.of (specifier : String) (settings : Settings) : ModuleClass :=
  if specifier = Vocabulary.userEventModule then
    .userEvent
  else
    match Vocabulary.testingLibraryModule? specifier with
    | some framework => .testingLibrary framework
    | none =>
        if isCustomModule specifier settings then
          .custom
        else
          .foreign

/-- What a local name of the library's family stands for. -/
structure CanonicalBinding where
  specifier : String
  exported : String
  kind : BindingKind
deriving Repr, DecidableEq

namespace CanonicalBinding

/-- Whether a name stands for a module as a whole. -/
def isNamespace (binding : CanonicalBinding) : Bool :=
  binding.kind == .wholeModule

end CanonicalBinding

/-- A node that loads a module, and the name it is reported under. -/
structure ImportRecord where
  node : Node
  name : String
deriving Repr

/-- What is known of the imports of a file. -/
structure Tracker where
  /-- What the names of the library's family stand for. -/
  familyNames : NameTable CanonicalBinding
  /-- The names last bound by an unrelated module. -/
  foreignNames : NameSet
  userEventName : Option String
  customModule : Option ImportRecord
  testingLibrary : Option ImportRecord
  detectedFramework : Option Framework
deriving Repr

namespace Tracker

/-- Nothing is known before the first load. -/
def empty : Tracker :=
  { familyNames := .empty
    foreignNames := .empty
    userEventName := none
    customModule := none
    testingLibrary := none
    detectedFramework := none }

/-- Bind one name of a load. -/
def bindName
    (specifier : String)
    (moduleClass : ModuleClass)
    (tracker : Tracker)
    (binding : LocalBinding) :
    Tracker :=
  match moduleClass with
  | .foreign =>
      { tracker with
        familyNames := tracker.familyNames.erase binding.localName
        foreignNames := tracker.foreignNames.insert binding.localName
        userEventName :=
          if tracker.userEventName = some binding.localName then
            none
          else
            tracker.userEventName }
  | _ =>
      { tracker with
        foreignNames := tracker.foreignNames.erase binding.localName
        familyNames :=
          tracker.familyNames.insert binding.localName
            ⟨specifier, binding.exported, binding.kind⟩
        userEventName :=
          if moduleClass = .userEvent ∧ binding.kind ≠ .named then
            some binding.localName
          else
            tracker.userEventName }

/-- Remember a load of the testing library. -/
def noteTestingLibrary
    (node : Node)
    (specifier : String)
    (moduleClass : ModuleClass)
    (tracker : Tracker) :
    Tracker :=
  match moduleClass with
  | .testingLibrary framework =>
      { tracker with
        testingLibrary := some ⟨node, specifier⟩
        detectedFramework := framework.or tracker.detectedFramework }
  | _ => tracker

/-- Remember a load of the custom module under the last name it binds. -/
def noteCustomModule
    (settings : Settings)
    (node : Node)
    (load : ModuleLoad)
    (tracker : Tracker) :
    Tracker :=
  if isCustomModule load.specifier settings then
    let name :=
      match load.bindings.getLast? with
      | some binding => binding.localName
      | none => load.specifier
    { tracker with customModule := some ⟨node, name⟩ }
  else
    tracker

/-- Take in a load. -/
def record
    (settings : Settings)
    (node : Node)
    (load : ModuleLoad)
    (tracker : Tracker) :
    Tracker :=
  let moduleClass := ModuleClass.of load.specifier settings
  let bound := load.bindings.foldl (bindName load.specifier moduleClass) tracker
  noteCustomModule settings node load
    (noteTestingLibrary node load.specifier moduleClass bound)

/-- Take in an import declaration. -/
def observeImport (settings : Settings) (tracker : Tracker) (node : Node) : Tracker :=
  match ModuleLoad.ofImport? node with
  | some load => tracker.record settings node load
  | none => tracker

/-- Take in a call; calls other than of `require` say nothing. -/
def observeRequire (settings : Settings) (tracker : Tracker) (node : Node) : Tracker :=
  match ModuleLoad.ofRequire? node with
  | some load => tracker.record settings node load
  | none => tracker

/-- What a name of the library's family stands for. -/
def binding? (tracker : Tracker) (name : String) : Option CanonicalBinding :=
  tracker.familyNames.find? name

/-- Whether a name was last bound by an unrelated module. -/
def isForeign (tracker : Tracker) (name : String) : Bool :=
  tracker.foreignNames.contains name

/-- The names of the library's family with what they stand for, in order. -/
def aliases (tracker : Tracker) : List (String × CanonicalBinding) :=
  tracker.familyNames.entries

end Tracker

end UsageLint.Imports
