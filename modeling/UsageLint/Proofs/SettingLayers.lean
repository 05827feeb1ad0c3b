import UsageLint.Config

namespace UsageLint

/-!
# Layers of settings

The settings of a rule are read from two tables: the options of the rule lie
over the settings that all rules share. A key has the value of the upper table,
be it of any use or not, and else that of the lower one. Each setting is read
from the values of a few keys, so that layers in which these agree give the same
setting, whatever else they hold and whichever table it comes from.
-/

namespace NameTable

variable {α : Type}

/-- One table laid over another, which keeps the values of names not found above. -/
def laidOver (upper lower : NameTable α) : NameTable α :=
  upper.entries.foldr (fun (name, value) table => table.insert name value) lower

theorem find?_laidOver
    (upper lower : NameTable α)
    (name : String) :
    (upper.laidOver lower).find? name = (upper.find? name).or (lower.find? name) := by
  rcases upper with ⟨entries⟩
  induction entries with
  | nil =>
      rfl
  | cons entry rest inductionHypothesis =>
      rcases entry with ⟨present, value⟩
      have tail :
          (laidOver ⟨rest⟩ lower).find? name =
            (lookup? name rest).or (lower.find? name) := inductionHypothesis
      have head :
          laidOver ⟨(present, value) :: rest⟩ lower =
            (laidOver ⟨rest⟩ lower).insert present value := rfl
      have found :
          find? ⟨(present, value) :: rest⟩ name =
            if present = name then some value else lookup? name rest := rfl
      rw [head, find?_insert, tail, found]
      grind

end NameTable

namespace Settings

open Toml (Value Table)

/-- The tables that the settings of a rule are read from, one over the other. -/
structure Layers where
  shared : Table
  /-- The options of the rule, if it is configured. -/
  options : Option Table

namespace Layers

/-- The value that counts for a key: the option if the rule has it, else the shared one. -/
def value? (layers : Layers) (key : String) : Option Value :=
  (layers.options.bind (·.find? key)).or (layers.shared.find? key)

/-- The settings that are read from the layers. -/
def settings (layers : Layers) : Settings :=
  resolve layers.shared layers.options

/-- Whether the flag of a framework is set. -/
def Flags (layers : Layers) (framework : Framework) : Prop :=
  ∃ value, layers.value? framework.name = some value ∧ isTruthy value = true

end Layers

/-- The keys of settings that are no flags. -/
def valueKeys : List String :=
  [utilsModuleKey, customRendersKey, customQueriesKey, frameworkKey]

/-- Every key that settings are read from. -/
def settingKeys : List String :=
  valueKeys ++ Framework.flagPriority.map Framework.name

/-- What two layers must agree on for each of their settings to be the same. -/
structure Layers.ReadAlike (first second : Layers) : Prop where
  utilsModule :
    first.value? utilsModuleKey = second.value? utilsModuleKey →
    first.settings.customModule = second.settings.customModule ∧
      first.settings.aggressiveModules = second.settings.aggressiveModules
  customRenders :
    first.value? customRendersKey = second.value? customRendersKey →
    first.settings.customRenders = second.settings.customRenders ∧
      first.settings.aggressiveRenders = second.settings.aggressiveRenders
  customQueries :
    first.value? customQueriesKey = second.value? customQueriesKey →
    first.settings.customQueries = second.settings.customQueries
  framework :
    first.value? frameworkKey = second.value? frameworkKey →
    (∀ framework ∈ Framework.flagPriority,
      first.value? framework.name = second.value? framework.name) →
    first.settings.framework = second.settings.framework
  otherKeys :
    (∀ key ∈ settingKeys, first.value? key = second.value? key) →
    first.settings = second.settings

/--
How layers choose a framework: one that is named is the one, and without a name
in either table it is the first whose flag is set.
-/
structure Layers.ChoosesFramework (layers : Layers) : Prop where
  named :
    ∀ text framework,
      layers.value? frameworkKey = some (.string text) →
      Framework.ofName? text = some framework →
      layers.settings.framework = some framework
  flagged :
    layers.shared.find? frameworkKey = none →
    (∀ options, layers.options = some options → options.find? frameworkKey = none) →
    ∀ framework,
      layers.settings.framework = some framework ↔
        ∃ before after,
          Framework.flagPriority = before ++ framework :: after ∧
            layers.Flags framework ∧
            ∀ earlier ∈ before, ¬ layers.Flags earlier

/-- Settings that go together: where unlisted names count, none are listed. -/
structure Coherent (settings : Settings) : Prop where
  noModule : settings.aggressiveModules = true → settings.customModule = none
  moduleName :
    ∀ moduleName,
      settings.customModule = some moduleName →
      moduleName ≠ "" ∧ moduleName ≠ offValue
  noRenders : settings.aggressiveRenders = true → settings.customRenders = .empty

/-- A module that is named has a name, other than the value that turns it off. -/
theorem ModuleChoice.ne_of_named
    {value : Option Value}
    {moduleName : String}
    (named : ModuleChoice.ofValue value = .named moduleName) :
    moduleName ≠ "" ∧ moduleName ≠ offValue := by
  unfold ofValue at named
  grind [String.isEmpty_iff]

namespace Layers

/-- The settings are read from the values that count. -/
theorem settings_eq (layers : Layers) : layers.settings = ofLookup layers.value? :=
  rfl

/-- Layers in which every key has the same value give the same settings. -/
theorem settings_congr
    {first second : Layers}
    (same : ∀ key, first.value? key = second.value? key) :
    first.settings = second.settings := by
  rw [settings_eq, settings_eq, funext same]

/-- The flags alone decide which framework is flagged. -/
theorem flagged?_congr
    {first second : String → Option Value}
    (same :
      ∀ framework ∈ Framework.flagPriority,
        first framework.name = second framework.name) :
    flagged? first = flagged? second := by
  unfold flagged?
  generalize Framework.flagPriority = frameworks at same
  induction frameworks with
  | nil =>
      rfl
  | cons framework rest inductionHypothesis =>
      rw [List.forall_mem_cons] at same
      rw [List.find?_cons, List.find?_cons, same.1, inductionHypothesis same.2]

theorem readAlike (first second : Layers) : first.ReadAlike second := by
  have framework :
      first.value? frameworkKey = second.value? frameworkKey →
      (∀ framework ∈ Framework.flagPriority,
        first.value? framework.name = second.value? framework.name) →
      first.settings.framework = second.settings.framework := by
    intro sameName sameFlags
    simp only [settings_eq, ofLookup, sameName, flagged?_congr sameFlags]
  constructor
  case utilsModule =>
    intro same
    simp only [settings_eq, ofLookup, same, and_self]
  case customRenders =>
    intro same
    simp only [settings_eq, ofLookup, same, and_self]
  case customQueries =>
    intro same
    simp only [settings_eq, ofLookup, same]
  case framework =>
    exact framework
  case otherKeys =>
    intro same
    simp only [settingKeys, valueKeys, List.forall_mem_append, List.forall_mem_cons,
      List.forall_mem_map] at same
    obtain ⟨⟨utilsModule, customRenders, customQueries, sameName, _⟩, sameFlags⟩ := same
    simp only [settings_eq, ofLookup, utilsModule, customRenders, customQueries, sameName,
      flagged?_congr sameFlags]

theorem choosesFramework (layers : Layers) : layers.ChoosesFramework := by
  constructor
  · intro text framework isText named
    simp only [settings_eq, ofLookup, isText, FrameworkChoice.ofValue, named]
  · intro notShared notOwn framework
    have missing : layers.value? frameworkKey = none := by
      rcases layers with ⟨shared, _ | options⟩
      · simpa [value?] using notShared
      · simpa [value?, notShared] using notOwn options rfl
    simp only [settings_eq, ofLookup, missing, FrameworkChoice.ofValue, flagged?,
      List.find?_eq_some_iff_append, Flags, Option.any_eq_true, Bool.not_eq_true',
      ← Bool.not_eq_true, ← exists_and_left, and_left_comm]

theorem coherent_settings (layers : Layers) : layers.settings.Coherent := by
  constructor
  case noModule =>
    simp only [settings_eq, ofLookup]
    cases ModuleChoice.ofValue (layers.value? utilsModuleKey) <;> simp
  case moduleName =>
    intro moduleName isModule
    simp only [settings_eq, ofLookup] at isModule
    cases choice : ModuleChoice.ofValue (layers.value? utilsModuleKey) with
    | named name =>
        rw [choice, Option.some.injEq] at isModule
        exact isModule ▸ ModuleChoice.ne_of_named choice
    | unset | off | malformed =>
        rw [choice] at isModule
        cases isModule
  case noRenders =>
    simp only [settings_eq, ofLookup]
    cases NamesChoice.ofValue (layers.value? customRendersKey) <;> simp

/-- Layers that say nothing of any setting give the default ones. -/
theorem settings_eq_default
    {layers : Layers}
    (silent : ∀ key ∈ settingKeys, layers.value? key = none) :
    layers.settings = default := by
  have asEmpty : layers.settings = (Layers.mk .empty none).settings :=
    (readAlike layers ⟨.empty, none⟩).otherKeys silent
  rw [asEmpty]
  rfl

end Layers

/--
The options of a rule count in place of the shared settings, key by key: the
settings are those of one table that holds the option where there is one, and
the shared value elsewhere. Each setting is read from the values of its own keys
only, the framework from its name and, without one, from the first flag that is
set, and the settings always go together. Without any key they are the default.
-/
theorem settings_are_read_key_by_key :
    (∀ (shared : Table) (config : RuleConfig),
      (∀ key,
          (config.options.laidOver shared).find? key =
            (config.option? key).or (shared.find? key)) ∧
        ∀ merged : Table,
          (∀ key, merged.find? key = (config.option? key).or (shared.find? key)) →
          resolve shared (some config.options) = resolve merged none) ∧
      (∀ first second : Layers, first.ReadAlike second) ∧
      ∀ layers : Layers,
        layers.ChoosesFramework ∧
          layers.settings.Coherent ∧
          ((∀ key ∈ settingKeys, layers.value? key = none) →
            layers.settings = default) := by
  refine ⟨fun shared config => ⟨config.options.find?_laidOver shared, ?_⟩,
    Layers.readAlike,
    fun layers => ⟨layers.choosesFramework, layers.coherent_settings,
      Layers.settings_eq_default⟩⟩
  intro merged holds
  have same :
      ∀ key,
        (Layers.mk shared (some config.options)).value? key =
          (Layers.mk merged none).value? key :=
    fun key => (holds key).symm
  exact Layers.settings_congr same

/--
A rule that names another module and flags another framework than all rules share.
Its own module counts; the flag that comes first wins, although it is the shared
one; and a framework that is named wins over both flags, and changes no more.
-/
theorem rule_names_own_module :
    let shared : Table :=
      .ofList
        [(utilsModuleKey, .string "shared-utils"), (Framework.react.name, .string "Yes")]
    let options : Table :=
      .ofList
        [(utilsModuleKey, .string "own-utils"), (Framework.vue.name, .boolean true)]
    let flagged : Layers := ⟨shared, some options⟩
    let named : Layers :=
      ⟨shared.insert frameworkKey (.string "Marko"), some options⟩
    flagged.settings = (Layers.mk (options.laidOver shared) none).settings ∧
      flagged.settings.customModule = some "own-utils" ∧
      flagged.settings.framework = some .react ∧
      named.settings.framework = some .marko ∧
      named.settings.customModule = some "own-utils" := by
  intro shared options flagged named
  obtain ⟨mergedAlike, readAlike, onLayers⟩ := settings_are_read_key_by_key
  obtain ⟨laidOver, merged⟩ := mergedAlike shared ⟨none, none, options⟩
  have ownModule : flagged.settings.customModule = some "own-utils" := by
    decide
  have sameModule : named.value? utilsModuleKey = flagged.value? utilsModuleKey :=
    rfl
  have noFlag : flagged.value? Framework.angular.name = none := rfl
  refine ⟨merged _ laidOver, ownModule, ?_, ?_, ?_⟩
  · apply ((onLayers flagged).1.flagged (by decide) (by decide) .react).mpr
    refine
      ⟨[.angular], [.vue, .marko, .dom], rfl, ⟨.string "Yes", rfl, by decide⟩, ?_⟩
    rintro earlier isEarlier ⟨value, held, _⟩
    rw [List.mem_singleton.mp isEarlier, noFlag] at held
    cases held
  · exact (onLayers named).1.named "Marko" .marko rfl (by decide)
  · exact ((readAlike named flagged).utilsModule sameModule).1.trans ownModule

/-- An option that makes no sense hides the shared value, and the default applies. -/
example :
    resolve (.ofList [(utilsModuleKey, .string "test-utils")])
        (some (.ofList [(utilsModuleKey, .integer 42)])) =
      default := by
  decide +kernel

end Settings

end UsageLint
