import UsageLint.Proofs.SettingLayers

namespace UsageLint

/-!
# Refused values

A value that makes no sense under its key is refused with a warning. For the
custom module and for lists of names that is to read the settings as if the key
were in neither table, and of a list that makes sense, to read it without the
items that are no names. A framework that is refused leaves none. As the flags
are looked at only where the key is not there, this is the same as without the
key exactly if no flag is set.
-/

namespace NameTable

variable {α : Type}

/-- Change what is under a name. -/
def adjust (table : NameTable α) (name : String) (change : α → α) : NameTable α :=
  ⟨table.entries.map fun (other, value) =>
    (other, if other = name then change value else value)⟩

/-- A change under one name shows when that name is looked up and under no other. -/
theorem find?_adjust
    (table : NameTable α)
    (name other : String)
    (change : α → α) :
    (table.adjust name change).find? other =
      (table.find? other).map fun value =>
        if other = name then change value else value := by
  rcases table with ⟨entries⟩
  unfold adjust find?
  induction entries with
  | nil =>
      rfl
  | cons entry rest inductionHypothesis =>
      rcases entry with ⟨present, value⟩
      simp only [List.map_cons, lookup?]
      grind

end NameTable

/-- A list without the items that are no names, and any other value as it is. -/
def Toml.Value.namesOnly : Toml.Value → Toml.Value
  | array items => array (items.filter (·.string?.isSome))
  | value => value

namespace Settings

open Toml (Value Table)

/-- The keys of lists of names. -/
def namesKeys : List String :=
  [customRendersKey, customQueriesKey]

/--
Whether a value makes no sense under a key: the custom module is a text that is
not empty, names are in a list or turned off, and a framework is named or turned
off.
-/
def IsRefused (key : String) (value : Value) : Prop :=
  (key = utilsModuleKey ∧ ∀ text, value = .string text → text = "") ∨
    (key ∈ namesKeys ∧ value ≠ .string offValue ∧ ∀ items, value ≠ .array items) ∨
    (key = frameworkKey ∧
      ∀ text, value = .string text → Framework.ofName? text = none ∧ text ≠ offValue)

/-- The keys of lists are neither that of the module nor that of the framework. -/
theorem ne_of_mem_namesKeys
    {key : String}
    (among : key ∈ namesKeys) :
    key ≠ utilsModuleKey ∧ key ≠ frameworkKey := by
  have apart : ∀ key ∈ namesKeys, key ≠ utilsModuleKey ∧ key ≠ frameworkKey := by
    decide
  exact apart key among

/-- The keys under which a value may be refused. -/
theorem IsRefused.kinds
    {key : String}
    {value : Value}
    (refused : IsRefused key value) :
    key = utilsModuleKey ∨ key ∈ namesKeys ∨ key = frameworkKey :=
  refused.imp And.left (Or.imp And.left And.left)

/-- The module key refuses everything but a text that is not empty. -/
theorem isRefused_module_iff {value : Value} :
    IsRefused utilsModuleKey value ↔ ∀ text, value = .string text → text = "" := by
  have noNames : utilsModuleKey ∉ namesKeys := by decide
  have noFramework : utilsModuleKey ≠ frameworkKey := by decide
  simp [IsRefused, noNames, noFramework]

/-- The names keys refuse everything but the word `off` and an array. -/
theorem isRefused_names_iff
    {key : String}
    {value : Value}
    (among : key ∈ namesKeys) :
    IsRefused key value ↔
      value ≠ .string offValue ∧ ∀ items, value ≠ .array items := by
  simp [IsRefused, among, ne_of_mem_namesKeys among]

/-- The framework key refuses everything but the name of a framework and the word `off`. -/
theorem isRefused_framework_iff {value : Value} :
    IsRefused frameworkKey value ↔
      ∀ text, value = .string text →
        Framework.ofName? text = none ∧ text ≠ offValue := by
  have noModule : frameworkKey ≠ utilsModuleKey := by decide
  have noNames : frameworkKey ∉ namesKeys := by decide
  simp [IsRefused, noModule, noNames]

attribute [ext] Settings

namespace ModuleChoice

/-- The module choice is malformed exactly where the key refuses its value. -/
theorem ofValue_eq_malformed_iff (value : Value) :
    ofValue (some value) = .malformed value ↔ IsRefused utilsModuleKey value := by
  rw [isRefused_module_iff]
  cases value with
  | string text =>
      by_cases off : text = offValue
      · simp [ofValue, off, offValue]
      · by_cases empty : text = ""
        · simp [ofValue, empty, offValue]
        · simp [ofValue, off, empty]
  | integer | float | boolean | datetime | array | table =>
      simp [ofValue]

/-- A malformed module choice keeps the value it was read from. -/
theorem eq_of_malformed
    {value other : Value}
    (malformed : ofValue (some value) = .malformed other) :
    other = value := by
  unfold ofValue at malformed
  grind

end ModuleChoice

namespace NamesChoice

/-- The names that are given, if the choice makes sense. -/
def names? : NamesChoice → Option (List String)
  | listed names _ => some names
  | unset | malformed _ => none

/-- The names choice is malformed exactly where the key refuses its value. -/
theorem ofValue_eq_malformed_iff
    {key : String}
    (among : key ∈ namesKeys)
    (value : Value) :
    ofValue (some value) = .malformed value ↔ IsRefused key value := by
  rw [isRefused_names_iff among]
  cases value with
  | string text =>
      by_cases off : text = offValue <;> simp [ofValue, off]
  | integer | float | boolean | datetime | array | table =>
      simp [ofValue]

/-- A malformed names choice keeps the value it was read from. -/
theorem eq_of_malformed
    {value other : Value}
    (malformed : ofValue (some value) = .malformed other) :
    other = value := by
  unfold ofValue at malformed
  grind

/-- A list is none of its own items. -/
theorem not_mem_of_listed
    {value : Value}
    {names : List String}
    {items : List Value}
    (listed : ofValue (some value) = .listed names items) :
    value ∉ items := by
  intro among
  unfold ofValue at listed
  split at listed
  · cases listed
  · split at listed <;> cases listed
    cases among
  · next isArray =>
      cases isArray
      cases listed
      have smaller := List.sizeOf_lt_of_mem (List.mem_filter.mp among).1
      rw [Value.array.sizeOf_spec] at smaller
      omega
  · cases listed

end NamesChoice

/-- A refused framework is neither named nor turned off. -/
theorem FrameworkChoice.ofValue_of_refused
    {value : Value}
    (refused : IsRefused frameworkKey value) :
    ofValue (some value) = .malformed value ∨
      ∃ name, ofValue (some value) = .unknown name := by
  rw [isRefused_framework_iff] at refused
  cases value with
  | string text =>
      have unknown := refused text rfl
      exact .inr ⟨text, by simp [ofValue, unknown]⟩
  | integer | float | boolean | datetime | array | table =>
      exact .inl rfl

/-- The warning about a value as a whole. -/
def refusal (key : String) (value : Value) : Warning :=
  match value with
  | .string text =>
      if key = frameworkKey then
        .unknownFramework text
      else
        .malformedSetting key value
  | _ => .malformedSetting key value

/-- The warnings about the value of one key. -/
def warningsAbout (key : String) (value : Option Value) : List Warning :=
  if key = utilsModuleKey then
    match ModuleChoice.ofValue value with
    | .malformed refused => [.malformedSetting key refused]
    | _ => []
  else if key = frameworkKey then
    match FrameworkChoice.ofValue value with
    | .unknown name => [.unknownFramework name]
    | .malformed refused => [.malformedSetting key refused]
    | _ => []
  else
    match NamesChoice.ofValue value with
    | .unset => []
    | .listed _ malformed => malformed.map (.malformedSetting key)
    | .malformed refused => [.malformedSetting key refused]

/-- The key that a warning is about, if it is about a setting. -/
def keyOfWarning? : Warning → Option String
  | .malformedSetting key _ => some key
  | .unknownFramework _ => some frameworkKey
  | .recoveredSyntaxError .. | .skippedFile _ => none

/-- The refusal of a key's value is a warning about that key. -/
theorem keyOfWarning?_refusal (key : String) (value : Value) :
    keyOfWarning? (refusal key value) = some key := by
  unfold refusal
  grind [keyOfWarning?]

/-- Every warning about a key names that key. -/
theorem keyOfWarning?_of_mem_warningsAbout
    {key : String}
    {value : Option Value}
    {warning : Warning}
    (among : warning ∈ warningsAbout key value) :
    keyOfWarning? warning = some key := by
  unfold warningsAbout at among
  grind [keyOfWarning?]

/-- Every key but the framework's is refused by the same message. -/
theorem refusal_of_ne
    {key : String}
    (notFramework : key ≠ frameworkKey)
    (value : Value) :
    refusal key value = .malformedSetting key value := by
  cases value <;> simp [refusal, notFramework]

/-- A value is refused exactly if there is the warning about it as a whole. -/
theorem refusal_mem_warningsAbout_iff
    {key : String}
    (among : key ∈ valueKeys)
    (value : Value) :
    refusal key value ∈ warningsAbout key (some value) ↔ IsRefused key value := by
  have kinds : key = utilsModuleKey ∨ key = frameworkKey ∨ key ∈ namesKeys := by
    simp only [valueKeys, namesKeys, List.mem_cons] at among ⊢
    grind
  rcases kinds with rfl | rfl | isNames
  · have notFramework : utilsModuleKey ≠ frameworkKey := by decide
    rw [refusal_of_ne notFramework, ← ModuleChoice.ofValue_eq_malformed_iff]
    simp only [warningsAbout, if_true]
    cases choice : ModuleChoice.ofValue (some value) with
    | malformed other =>
        simp [ModuleChoice.eq_of_malformed choice]
    | unset | off | named =>
        simp
  · have notModule : frameworkKey ≠ utilsModuleKey := by decide
    rw [isRefused_framework_iff]
    cases value with
    | string text =>
        simp only [refusal, warningsAbout, notModule, if_true, if_false,
          FrameworkChoice.ofValue]
        cases named : Framework.ofName? text with
        | none =>
            by_cases off : text = offValue <;> simp [named, off]
        | some framework =>
            simp [named]
    | integer | float | boolean | datetime | array | table =>
        simp [refusal, warningsAbout, notModule, FrameworkChoice.ofValue]
  · obtain ⟨notModule, notFramework⟩ := ne_of_mem_namesKeys isNames
    rw [refusal_of_ne notFramework, ← NamesChoice.ofValue_eq_malformed_iff isNames]
    simp only [warningsAbout, notModule, notFramework, if_false]
    cases choice : NamesChoice.ofValue (some value) with
    | malformed other =>
        simp [NamesChoice.eq_of_malformed choice]
    | listed names items =>
        simp [NamesChoice.not_mem_of_listed choice]
    | unset =>
        simp

/-- The warnings of all layers are those about each value key, in the order the keys are read. -/
theorem warnings_eq_flatMap (layers : Layers) :
    warnings layers.shared layers.options =
      valueKeys.flatMap fun key => warningsAbout key (layers.value? key) := by
  have isRenders : customRendersKey ∈ namesKeys := by decide
  have isQueries : customQueriesKey ∈ namesKeys := by decide
  have renders := ne_of_mem_namesKeys isRenders
  have queries := ne_of_mem_namesKeys isQueries
  have framework : frameworkKey ≠ utilsModuleKey := by decide
  simp only [valueKeys, List.flatMap_cons, List.flatMap_nil, List.append_nil, warningsAbout,
    renders, queries, framework, if_true, if_false, ← List.append_assoc]
  rfl

namespace Layers

/-- The layers without a key. -/
def without (layers : Layers) (key : String) : Layers :=
  ⟨layers.shared.erase key, layers.options.map (·.erase key)⟩

/-- The layers with names only in the lists under a key. -/
def namesOnly (layers : Layers) (key : String) : Layers :=
  ⟨layers.shared.adjust key Value.namesOnly,
    layers.options.map (·.adjust key Value.namesOnly)⟩

/-- A key left out has no value; the other keys keep theirs. -/
theorem value?_without (layers : Layers) (key other : String) :
    (layers.without key).value? other =
      if other = key then none else layers.value? other := by
  rcases layers with ⟨shared, _ | options⟩ <;>
    simp only [without, value?, Option.map_none, Option.map_some, Option.bind_none,
      Option.bind_some, NameTable.find?_erase] <;>
    split <;> rfl

/-- Dropping what is no name from one key's value changes that value only. -/
theorem value?_namesOnly (layers : Layers) (key other : String) :
    (layers.namesOnly key).value? other =
      (layers.value? other).map fun value =>
        if other = key then value.namesOnly else value := by
  rcases layers with ⟨shared, _ | options⟩ <;>
    simp [namesOnly, value?, NameTable.find?_adjust, Option.map_or]

/--
Layers that agree on every key but one give the same settings if those that are
read from this key are the same.
-/
theorem settings_eq_of_agree_but
    {first second : Layers}
    {key : String}
    (notFlag : ∀ framework : Framework, framework.name ≠ key)
    (agree : ∀ other, other ≠ key → first.value? other = second.value? other)
    (modules :
      key = utilsModuleKey →
      first.settings.customModule = second.settings.customModule ∧
        first.settings.aggressiveModules = second.settings.aggressiveModules)
    (renders :
      key = customRendersKey →
      first.settings.customRenders = second.settings.customRenders ∧
        first.settings.aggressiveRenders = second.settings.aggressiveRenders)
    (queries :
      key = customQueriesKey →
      first.settings.customQueries = second.settings.customQueries)
    (framework :
      key = frameworkKey →
      first.settings.framework = second.settings.framework) :
    first.settings = second.settings := by
  have alike := readAlike first second
  have sameModules :
      first.settings.customModule = second.settings.customModule ∧
        first.settings.aggressiveModules = second.settings.aggressiveModules := by
    by_cases same : key = utilsModuleKey
    · exact modules same
    · exact alike.utilsModule (agree _ (Ne.symm same))
  have sameRenders :
      first.settings.customRenders = second.settings.customRenders ∧
        first.settings.aggressiveRenders = second.settings.aggressiveRenders := by
    by_cases same : key = customRendersKey
    · exact renders same
    · exact alike.customRenders (agree _ (Ne.symm same))
  have sameQueries :
      first.settings.customQueries = second.settings.customQueries := by
    by_cases same : key = customQueriesKey
    · exact queries same
    · exact alike.customQueries (agree _ (Ne.symm same))
  have sameFramework : first.settings.framework = second.settings.framework := by
    by_cases same : key = frameworkKey
    · exact framework same
    · exact alike.framework (agree _ (Ne.symm same)) fun framework _ =>
        agree _ (notFlag framework)
  exact Settings.ext sameFramework sameQueries sameRenders.1 sameModules.1 sameModules.2
    sameRenders.2

variable
  {layers : Layers}
  {key : String}
  {value : Value}
  {items : List Value}

theorem value?_without_self : (layers.without key).value? key = none := by
  simp [value?_without]

theorem value?_without_of_ne
    {other : String}
    (different : other ≠ key) :
    layers.value? other = (layers.without key).value? other := by
  simp [value?_without, different]

/-- No framework's flag is one of the keys whose values are read. -/
theorem name_ne_of_mem_valueKeys
    {key : String}
    (among : key ∈ valueKeys)
    (framework : Framework) :
    framework.name ≠ key := by
  have apart :
      ∀ key ∈ valueKeys, ∀ framework ∈ Framework.flagPriority, framework.name ≠ key := by
    decide
  exact apart key among framework (by cases framework <;> decide)

/-- A refused module counts as left out. -/
theorem settings_of_refused_module
    (held : layers.value? utilsModuleKey = some value)
    (refused : IsRefused utilsModuleKey value) :
    layers.settings = (layers.without utilsModuleKey).settings := by
  have malformed := (ModuleChoice.ofValue_eq_malformed_iff value).mpr refused
  have isKey : utilsModuleKey ∈ valueKeys := by decide
  apply settings_eq_of_agree_but (name_ne_of_mem_valueKeys isKey)
    fun _ => value?_without_of_ne
  case modules =>
    intro _
    have unset : ModuleChoice.ofValue none = .unset := rfl
    simp only [settings_eq, ofLookup, held, malformed, value?_without_self, unset, and_self]
  all_goals
    intro other
    exact absurd other (by decide)

/-- The renders and the search for more of them are read off the renders key alone. -/
theorem customRenders_eq (layers : Layers) :
    layers.settings.customRenders =
        ((NamesChoice.ofValue (layers.value? customRendersKey)).names?.map
          NameSet.ofList).getD .empty ∧
      layers.settings.aggressiveRenders =
        (NamesChoice.ofValue (layers.value? customRendersKey)).names?.isNone := by
  simp only [settings_eq, ofLookup]
  cases NamesChoice.ofValue (layers.value? customRendersKey) <;> exact ⟨rfl, rfl⟩

theorem customQueries_eq (layers : Layers) :
    layers.settings.customQueries =
      ((NamesChoice.ofValue (layers.value? customQueriesKey)).names?.map
        NameSet.ofList).getD .empty := by
  simp only [settings_eq, ofLookup]
  cases NamesChoice.ofValue (layers.value? customQueriesKey) <;> rfl

/-- Layers that agree but for a list give the same settings if its names are the same. -/
theorem settings_eq_of_names
    {first second : Layers}
    (among : key ∈ namesKeys)
    (agree : ∀ other, other ≠ key → first.value? other = second.value? other)
    (names :
      (NamesChoice.ofValue (first.value? key)).names? =
        (NamesChoice.ofValue (second.value? key)).names?) :
    first.settings = second.settings := by
  have isKey : key ∈ valueKeys := by
    have within : namesKeys ⊆ valueKeys := by decide
    exact within among
  obtain ⟨notModule, notFramework⟩ := ne_of_mem_namesKeys among
  apply settings_eq_of_agree_but (name_ne_of_mem_valueKeys isKey) agree
  case modules =>
    exact fun same => absurd same notModule
  case framework =>
    exact fun same => absurd same notFramework
  case renders =>
    rintro rfl
    simp only [customRenders_eq, names, and_self]
  case queries =>
    rintro rfl
    simp only [customQueries_eq, names]

/-- A refused value for a list of names counts as left out. -/
theorem settings_of_refused_names
    (among : key ∈ namesKeys)
    (held : layers.value? key = some value)
    (refused : IsRefused key value) :
    layers.settings = (layers.without key).settings := by
  have malformed := (NamesChoice.ofValue_eq_malformed_iff among value).mpr refused
  apply settings_eq_of_names among fun _ => value?_without_of_ne
  rw [held, malformed, value?_without_self]
  rfl

/-- Items of a list that are no names count as left out. -/
theorem settings_namesOnly
    (among : key ∈ namesKeys)
    (held : layers.value? key = some (.array items)) :
    layers.settings = (layers.namesOnly key).settings := by
  have stripped :
      (layers.namesOnly key).value? key =
        some (.array (items.filter (·.string?.isSome))) := by
    simp [value?_namesOnly, held, Value.namesOnly]
  have agree :
      ∀ other, other ≠ key → layers.value? other = (layers.namesOnly key).value? other := by
    intro other different
    simp [value?_namesOnly, different]
  apply settings_eq_of_names among agree
  have namesOnly :
      (fun item : Value => if item.string?.isSome then item.string? else none) =
        Value.string? := by
    funext item
    cases item.string? <;> rfl
  rw [held, stripped]
  simp only [NamesChoice.ofValue, NamesChoice.names?, List.filterMap_filter, namesOnly]

/-- A refused framework leaves none; all else is as if it were left out. -/
theorem settings_of_refused_framework
    (held : layers.value? frameworkKey = some value)
    (refused : IsRefused frameworkKey value) :
    layers.settings =
      { (layers.without frameworkKey).settings with framework := none } := by
  have alike := readAlike layers (layers.without frameworkKey)
  ext1
  case framework =>
    simp only [settings_eq, ofLookup, held]
    rcases FrameworkChoice.ofValue_of_refused refused with malformed | ⟨name, unknown⟩
    · rw [malformed]
    · rw [unknown]
  case customQueries =>
    exact alike.customQueries (value?_without_of_ne (by decide))
  case customRenders =>
    exact (alike.customRenders (value?_without_of_ne (by decide))).1
  case customModule =>
    exact (alike.utilsModule (value?_without_of_ne (by decide))).1
  case aggressiveModules =>
    exact (alike.utilsModule (value?_without_of_ne (by decide))).2
  case aggressiveRenders =>
    exact (alike.customRenders (value?_without_of_ne (by decide))).2

/-- Without its key a framework is left out exactly if no flag is set. -/
theorem framework_without_eq_none_iff (layers : Layers) :
    (layers.without frameworkKey).settings.framework = none ↔
      ∀ framework, ¬ layers.Flags framework := by
  have isKey : frameworkKey ∈ valueKeys := by decide
  have unset : FrameworkChoice.ofValue none = .unset := rfl
  have every : ∀ framework : Framework, framework ∈ Framework.flagPriority := by
    intro framework
    cases framework <;> decide
  have sameFlag :
      ∀ framework : Framework,
        (layers.without frameworkKey).value? framework.name =
          layers.value? framework.name :=
    fun framework =>
      (value?_without_of_ne (name_ne_of_mem_valueKeys isKey framework)).symm
  simp only [settings_eq, ofLookup, value?_without_self, unset, flagged?, sameFlag,
    List.find?_eq_none, every, true_implies, Flags, Option.any_eq_true]

/-- A value is refused exactly if a run warns about it as a whole. -/
theorem refusal_mem_warnings_iff
    (among : key ∈ valueKeys)
    (held : layers.value? key = some value) :
    refusal key value ∈ warnings layers.shared layers.options ↔
      IsRefused key value := by
  rw [warnings_eq_flatMap, ← refusal_mem_warningsAbout_iff among, List.mem_flatMap]
  constructor
  · rintro ⟨other, _, warned⟩
    have sameKey := keyOfWarning?_of_mem_warningsAbout warned
    rw [keyOfWarning?_refusal, Option.some.injEq] at sameKey
    rw [← held, sameKey]
    exact sameKey ▸ warned
  · intro warned
    exact ⟨key, among, held ▸ warned⟩

end Layers

/--
A value that is warned about as a whole counts as left out, and of a list the
items that are no names do. Only a refused framework does not count as left out
where a flag is set: it leaves no framework, although without the key the flag
would choose one.
-/
theorem refused_values_count_as_left_out (layers : Layers) :
    (∀ key ∈ valueKeys, ∀ value,
        layers.value? key = some value →
        (refusal key value ∈ warnings layers.shared layers.options ↔
          IsRefused key value)) ∧
      (∀ key value,
        layers.value? key = some value →
        IsRefused key value →
        (layers.settings = (layers.without key).settings ↔
            (key = frameworkKey → ∀ framework, ¬ layers.Flags framework)) ∧
          (key = frameworkKey →
            layers.settings = { (layers.without key).settings with framework := none })) ∧
      ∀ key ∈ namesKeys, ∀ items,
        layers.value? key = some (.array items) →
        layers.settings = (layers.namesOnly key).settings := by
  refine ⟨fun key among value held => Layers.refusal_mem_warnings_iff among held, ?_,
    fun key among items held => Layers.settings_namesOnly among held⟩
  intro key value held refused
  by_cases isFramework : key = frameworkKey
  · subst isFramework
    have withoutOne := Layers.settings_of_refused_framework held refused
    have noFramework : layers.settings.framework = none := by
      rw [withoutOne]
    refine ⟨?_, fun _ => withoutOne⟩
    rw [forall_prop_of_true rfl, ← layers.framework_without_eq_none_iff]
    constructor
    · intro same
      rw [← same]
      exact noFramework
    · intro noneLeft
      rw [withoutOne, ← noneLeft]
  · have leftOut : layers.settings = (layers.without key).settings := by
      rcases refused.kinds with rfl | isNames | framework
      · exact Layers.settings_of_refused_module held refused
      · exact Layers.settings_of_refused_names isNames held refused
      · exact absurd framework isFramework
    simp only [leftOut, isFramework, false_implies, and_true]

/-- A refused framework keeps a flag from choosing one, as it would without the key. -/
theorem refused_framework_hides_flag :
    let layers : Layers :=
      { shared :=
          .ofList
            [(frameworkKey, .integer 42), (Framework.react.name, .boolean true)]
        options := none }
    layers.value? frameworkKey = some (.integer 42) ∧
      IsRefused frameworkKey (.integer 42) ∧
      layers.settings.framework = none ∧
      (layers.without frameworkKey).settings.framework = some .react ∧
      layers.settings ≠ (layers.without frameworkKey).settings := by
  intro layers
  have refused : IsRefused frameworkKey (.integer 42) :=
    isRefused_framework_iff.mpr (by simp)
  have frameworks :
      layers.settings.framework = none ∧
        (layers.without frameworkKey).settings.framework = some .react := by
    decide
  refine ⟨rfl, refused, frameworks.1, frameworks.2, fun same => ?_⟩
  have chosen := frameworks.2
  rw [← same, frameworks.1] at chosen
  cases chosen

end Settings

end UsageLint
