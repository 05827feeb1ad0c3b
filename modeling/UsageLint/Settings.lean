import UsageLint.Framework
import UsageLint.Warning

namespace UsageLint

/-!
# Settings

Detection reads a few settings, each from the value of one key. A rule may
give a key a value of its own, which then counts in place of the shared one. A
value that makes no sense is passed over with a warning, as if the key were
not there; only the flags of frameworks are not looked at beside a name that
makes no sense.

Leaving a key out widens detection: without a utils module every unbound name
counts, and without custom renders so does every name that contains `render`.
-/

/-- The settings of one rule in one run. -/
structure Settings where
  /-- The configured framework. -/
  framework : Option Framework
  /-- Names that count as custom queries. -/
  customQueries : NameSet
  /-- Names that count as render functions beside `render`. -/
  customRenders : NameSet
  /-- The module that passes on the functions of the testing library. -/
  customModule : Option String
  /-- Whether names that no import binds count as the library's. -/
  aggressiveModules : Bool
  /-- Whether any name that contains `render` counts as a render function. -/
  aggressiveRenders : Bool
deriving Repr, DecidableEq

namespace Settings

open Toml (Value Table)

/-- The settings without any configuration. -/
def default : Settings :=
  { framework := none
    customQueries := .empty
    customRenders := .empty
    customModule := none
    aggressiveModules := true
    aggressiveRenders := true }

/-- Settings with a custom module, reporting imported names only. -/
def withCustomModule (settings : Settings) (moduleName : String) : Settings :=
  { settings with customModule := some moduleName, aggressiveModules := false }

/-- Settings with custom renders, reporting these and `render` only. -/
def withCustomRenders (settings : Settings) (names : List String) : Settings :=
  { settings with
    customRenders := .ofList names
    aggressiveRenders := false }

/-- Settings with custom queries. -/
def withCustomQueries (settings : Settings) (names : List String) : Settings :=
  { settings with customQueries := .ofList names }

/-- The key of the custom module. -/
def utilsModuleKey : String := "utils-module"

/-- The key of the custom renders. -/
def customRendersKey : String := "custom-renders"

/-- The key of the custom queries. -/
def customQueriesKey : String := "custom-queries"

/-- The key of the framework. -/
def frameworkKey : String := "framework"

/-- The value that turns a setting off. -/
def offValue : String := "off"

/-- What the value of the key for the custom module says. -/
inductive ModuleChoice where
  | unset
  | off
  | named (moduleName : String)
  | malformed (value : Value)

/-- What the value of a key for a list of names says. -/
inductive NamesChoice where
  | unset
  /-- The names given, and the items that are no names. -/
  | listed (names : List String) (malformed : List Value)
  | malformed (value : Value)

/-- What the value of the key for the framework says. -/
inductive FrameworkChoice where
  | unset
  | off
  | named (framework : Framework)
  | unknown (name : String)
  | malformed (value : Value)

/-- Read the value of the key for the custom module. -/
def ModuleChoice.ofValue : Option Value → ModuleChoice
  | none => .unset
  | some (.string text) =>
      if text = offValue then
        .off
      else if text.isEmpty then
        .malformed (.string text)
      else
        .named text
  | some value => .malformed value

/-- Read the value of a key for a list of names. -/
def NamesChoice.ofValue : Option Value → NamesChoice
  | none => .unset
  | some (.string text) =>
      if text = offValue then
        .listed [] []
      else
        .malformed (.string text)
  | some (.array items) =>
      .listed
        (items.filterMap Value.string?)
        (items.filter (·.string?.isNone))
  | some value => .malformed value

/-- Read the value of the key for the framework. -/
def FrameworkChoice.ofValue : Option Value → FrameworkChoice
  | none => .unset
  | some (.string text) =>
      match Framework.ofName? text with
      | some framework => .named framework
      | none => if text = offValue then .off else .unknown text
  | some value => .malformed value

/-- Whether the value of a flag sets it. -/
def isTruthy : Value → Bool
  | .boolean truth => truth
  | .integer number => number == 1
  | .string text =>
      ["true", "yes", "on", "1"].any (foldCase · == foldCase text)
  | _ => false

/-- The value that counts for a key: the rule's own, else the shared one. -/
def lookup? (shared : Table) (rule : Option Table) (key : String) : Option Value :=
  (rule.bind (·.find? key)).or (shared.find? key)

/-- The first framework whose flag is set. -/
def flagged? (lookup : String → Option Value) : Option Framework :=
  Framework.flagPriority.find? fun framework =>
    (lookup framework.name).any isTruthy

/-- The settings that the values of the keys give. -/
def ofLookup (lookup : String → Option Value) : Settings :=
  let choice := ModuleChoice.ofValue (lookup utilsModuleKey)
  let renders := NamesChoice.ofValue (lookup customRendersKey)
  let queries := NamesChoice.ofValue (lookup customQueriesKey)
  { framework :=
      match FrameworkChoice.ofValue (lookup frameworkKey) with
      | .unset => flagged? lookup
      | .named framework => some framework
      | .off | .unknown _ | .malformed _ => none
    customQueries :=
      match queries with
      | .listed names _ => .ofList names
      | .unset | .malformed _ => .empty
    customRenders :=
      match renders with
      | .listed names _ => .ofList names
      | .unset | .malformed _ => .empty
    customModule :=
      match choice with
      | .named moduleName => some moduleName
      | .unset | .off | .malformed _ => none
    aggressiveModules :=
      match choice with
      | .unset | .malformed _ => true
      | .off | .named _ => false
    aggressiveRenders :=
      match renders with
      | .listed _ _ => false
      | .unset | .malformed _ => true }

/-- The warnings for values that make no sense, in the order of the settings. -/
def warningsOfLookup (lookup : String → Option Value) : List Warning :=
  let ofNames := fun (key : String) =>
    match NamesChoice.ofValue (lookup key) with
    | .unset => []
    | .listed _ malformed => malformed.map (Warning.malformedSetting key)
    | .malformed value => [.malformedSetting key value]
  let ofModule :=
    match ModuleChoice.ofValue (lookup utilsModuleKey) with
    | .malformed value => [.malformedSetting utilsModuleKey value]
    | _ => []
  let ofFramework :=
    match FrameworkChoice.ofValue (lookup frameworkKey) with
    | .unknown name => [.unknownFramework name]
    | .malformed value => [.malformedSetting frameworkKey value]
    | _ => []
  ofModule ++ ofNames customRendersKey ++ ofNames customQueriesKey ++ ofFramework

/-- The settings of shared values and the options of a rule. -/
def resolve (shared : Table) (rule : Option Table) : Settings :=
  ofLookup (lookup? shared rule)

/-- The warnings that come with resolving settings. -/
def warnings (shared : Table) (rule : Option Table) : List Warning :=
  warningsOfLookup (lookup? shared rule)

end Settings

end UsageLint
