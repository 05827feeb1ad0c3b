import UsageLint.Imports.Tracker

namespace UsageLint.Imports

open UsageLint.Syntax

/-!
# What a history of loads leaves behind

A tracker keeps the names of the library's family and the foreign names in two
tables, which are changed binding by binding. Here a tracker is compared with
the history it has seen: `boundBy` lists every binding of a run of
observations, and the last one of a name alone tells what both tables say of
that name.
-/

/-- One thing a tracker is shown: a declaration or a call. -/
inductive Observation where
  | declaration (node : Node)
  | call (node : Node)

/-- A binding together with the specifier of its module. -/
structure SourcedBinding where
  specifier : String
  binding : LocalBinding

/-- The bindings of a load, each with the specifier. -/
def ModuleLoad.sourcedBindings (load : ModuleLoad) : List SourcedBinding :=
  load.bindings.map (⟨load.specifier, ·⟩)

namespace SourcedBinding

/-- The name by which the file knows the binding. -/
def localName (sourced : SourcedBinding) : String :=
  sourced.binding.localName

/-- What the local name stands for, if the module is of the library's family. -/
def canonical (sourced : SourcedBinding) : CanonicalBinding :=
  ⟨sourced.specifier, sourced.binding.exported, sourced.binding.kind⟩

end SourcedBinding

namespace Observation

/-- The node the observation was made at. -/
def node : Observation → Node
  | declaration node => node
  | call node => node

/-- What a node of a tree shows: named nodes are declarations, calls or neither. -/
def ofNode? (node : Node) : Option Observation :=
  if node.label.named then
    match node.kind with
    | .importDeclaration => some (declaration node)
    | .callExpression => some (call node)
    | _ => none
  else
    none

/-- The load that is seen in what is shown, if there is one. -/
def load? : Observation → Option ModuleLoad
  | declaration node => ModuleLoad.ofImport? node
  | call node => ModuleLoad.ofRequire? node

/-- The names an observation binds, each with the module it came from. -/
def bound (observation : Observation) : List SourcedBinding :=
  (observation.load?.map ModuleLoad.sourcedBindings).getD []

end Observation

/-- All bindings of a run of observations, in order. -/
def boundBy (observations : List Observation) : List SourcedBinding :=
  observations.flatMap Observation.bound

/-- The last binding of a name. -/
def lastBinding? (bound : List SourcedBinding) (name : String) : Option SourcedBinding :=
  (bound.filter (·.localName == name)).getLast?

/-- A binding added at the end is the last one of its own name and of no other. -/
theorem lastBinding?_concat
    (bound : List SourcedBinding)
    (sourced : SourcedBinding)
    (name : String) :
    lastBinding? (bound ++ [sourced]) name =
      if name = sourced.localName then
        some sourced
      else
        lastBinding? bound name := by
  by_cases same : name = sourced.localName
  · simp [lastBinding?, same]
  · simp [lastBinding?, same, Ne.symm same]

/-- A name without a last binding is bound nowhere. -/
theorem lastBinding?_eq_none_iff
    {bound : List SourcedBinding}
    {name : String} :
    lastBinding? bound name = none ↔
      ∀ sourced ∈ bound, sourced.localName ≠ name := by
  simp [lastBinding?]

/--
Whether a module is of the library's family: it is that of user events, one of
the testing library under a present or earlier name, or the custom module.
-/
def IsFamilyModule (settings : Settings) (specifier : String) : Prop :=
  specifier = Vocabulary.userEventModule ∨
    specifier ∈ (Vocabulary.modules ++ Vocabulary.legacyModules).map Prod.fst ∨
    ∃ custom,
      settings.customModule = some custom ∧
        Vocabulary.matchesCustomModule specifier custom = true

/-- A module is a custom one exactly when the setting is there and matches it. -/
theorem isCustomModule_iff
    (specifier : String)
    (settings : Settings) :
    isCustomModule specifier settings = true ↔
      ∃ custom,
        settings.customModule = some custom ∧
          Vocabulary.matchesCustomModule specifier custom = true := by
  unfold isCustomModule
  cases settings.customModule <;> simp

/-- A specifier that names no module of the testing library is not listed. -/
theorem testingLibraryModule?_eq_none_iff (specifier : String) :
    Vocabulary.testingLibraryModule? specifier = none ↔
      specifier ∉ (Vocabulary.modules ++ Vocabulary.legacyModules).map Prod.fst := by
  generalize listed : Vocabulary.modules ++ Vocabulary.legacyModules = modules
  simp only [Vocabulary.testingLibraryModule?, listed, Option.map_eq_none_iff,
    List.find?_eq_none, beq_iff_eq, List.mem_map, not_exists, not_and]

/-- A module is foreign exactly if it is not of the library's family. -/
theorem ModuleClass.of_eq_foreign_iff
    (specifier : String)
    (settings : Settings) :
    ModuleClass.of specifier settings = .foreign ↔
      ¬ IsFamilyModule settings specifier := by
  unfold IsFamilyModule
  rw [← isCustomModule_iff, not_or, not_or, ← testingLibraryModule?_eq_none_iff]
  unfold ModuleClass.of
  split
  · simp_all
  · split
    · simp_all
    · split <;> simp_all

namespace Tracker

/-- Show one thing to a tracker. -/
def observe (settings : Settings) (tracker : Tracker) : Observation → Tracker
  | .declaration node => tracker.observeImport settings node
  | .call node => tracker.observeRequire settings node

/-- The tracker of a run of observations. -/
def after (settings : Settings) (observations : List Observation) : Tracker :=
  observations.foldl (observe settings) .empty

/-- Bind one name as a load of its module does. -/
def bindSourced
    (settings : Settings)
    (tracker : Tracker)
    (sourced : SourcedBinding) :
    Tracker :=
  bindName sourced.specifier (.of sourced.specifier settings) tracker
    sourced.binding

/-- Whether two trackers say the same of all names. -/
structure SameNames (first second : Tracker) : Prop where
  family : second.familyNames = first.familyNames
  foreign : second.foreignNames = first.foreignNames
  userEvent : second.userEventName = first.userEventName

/-- Remembering a load of the testing library changes what is said of no name. -/
theorem sameNames_noteTestingLibrary
    (node : Node)
    (specifier : String)
    (moduleClass : ModuleClass)
    (tracker : Tracker) :
    SameNames tracker (noteTestingLibrary node specifier moduleClass tracker) := by
  cases moduleClass <;> exact ⟨rfl, rfl, rfl⟩

/-- Noting a custom module changes no name. -/
theorem sameNames_noteCustomModule
    (settings : Settings)
    (node : Node)
    (load : ModuleLoad)
    (tracker : Tracker) :
    SameNames tracker (noteCustomModule settings node load tracker) := by
  unfold noteCustomModule
  split <;> exact ⟨rfl, rfl, rfl⟩

/-- To take in a load is to bind its names and then to remember the load. -/
theorem record_eq_notes
    (settings : Settings)
    (node : Node)
    (load : ModuleLoad)
    (tracker : Tracker) :
    tracker.record settings node load =
      noteCustomModule settings node load
        (noteTestingLibrary node load.specifier
          (.of load.specifier settings)
          (load.sourcedBindings.foldl (bindSourced settings) tracker)) := by
  rw [ModuleLoad.sourcedBindings, List.foldl_map]
  rfl

/-- Observing more starts from what the earlier observations left. -/
theorem after_append
    (settings : Settings)
    (earlier later : List Observation) :
    after settings (earlier ++ later) =
      later.foldl (observe settings) (after settings earlier) :=
  List.foldl_append

/-- An observation with a load is recorded, one without changes nothing. -/
theorem observe_eq
    (settings : Settings)
    (tracker : Tracker)
    (observation : Observation) :
    tracker.observe settings observation =
      match observation.load? with
      | some load => tracker.record settings observation.node load
      | none => tracker := by
  cases observation <;> rfl

section Invariant

variable
  {settings : Settings}
  {motive : List SourcedBinding → Tracker → Prop}
  (ofBinding :
    ∀ bound tracker sourced,
      motive bound tracker →
      motive (bound ++ [sourced]) (tracker.bindSourced settings sourced))
  (ofSameNames :
    ∀ bound first second,
      SameNames first second → motive bound first → motive bound second)

include ofBinding

/-- What each binding keeps, a run of bindings keeps. -/
theorem holds_foldl_bindSourced
    {bound : List SourcedBinding}
    {tracker : Tracker}
    (run : List SourcedBinding)
    (holds : motive bound tracker) :
    motive (bound ++ run) (run.foldl (bindSourced settings) tracker) := by
  induction run generalizing bound tracker with
  | nil =>
      simpa using holds
  | cons sourced rest inductionHypothesis =>
      simpa using
        inductionHypothesis (ofBinding bound tracker sourced holds)

include ofSameNames

/-- What holds along the bindings of a history still holds after one more observation. -/
theorem holds_observe
    {bound : List SourcedBinding}
    {tracker : Tracker}
    (observation : Observation)
    (holds : motive bound tracker) :
    motive (bound ++ observation.bound) (tracker.observe settings observation) := by
  rw [observe_eq, Observation.bound]
  cases observation.load? with
  | none =>
      simpa using holds
  | some load =>
      simp only [Option.map_some, Option.getD_some, record_eq_notes]
      have allBound := holds_foldl_bindSourced ofBinding load.sourcedBindings holds
      exact ofSameNames _ _ _ (sameNames_noteCustomModule ..)
        (ofSameNames _ _ _ (sameNames_noteTestingLibrary ..) allBound)

/--
What holds before the first observation and is kept by each binding holds after
every run of observations.
-/
theorem holds_after
    (atStart : motive [] .empty)
    (observations : List Observation) :
    motive (boundBy observations) (after settings observations) := by
  -- The run may begin anywhere, so that the induction can take its first step.
  suffices run :
      ∀ {bound tracker},
        motive bound tracker →
        motive (bound ++ boundBy observations)
          (observations.foldl (observe settings) tracker) from
    run atStart
  induction observations with
  | nil =>
      intro bound tracker holds
      simpa [boundBy] using holds
  | cons observation rest inductionHypothesis =>
      intro bound tracker holds
      have observed :=
        inductionHypothesis (holds_observe ofBinding ofSameNames observation holds)
      simpa [boundBy] using observed

end Invariant

/-- Binding a name changes what that name stands for, and no other. -/
theorem binding?_bindSourced
    (settings : Settings)
    (tracker : Tracker)
    (sourced : SourcedBinding)
    (name : String) :
    (tracker.bindSourced settings sourced).binding? name =
      if name = sourced.localName then
        if ModuleClass.of sourced.specifier settings = .foreign then
          none
        else
          some sourced.canonical
      else
        tracker.binding? name := by
  unfold bindSourced
  cases ModuleClass.of sourced.specifier settings <;>
    simp [bindName, binding?, NameTable.find?_insert, NameTable.find?_erase,
      SourcedBinding.localName, SourcedBinding.canonical]

/--
After a binding, its own name is foreign exactly when the module is; other names are as before.
-/
theorem isForeign_bindSourced
    (settings : Settings)
    (tracker : Tracker)
    (sourced : SourcedBinding)
    (name : String) :
    (tracker.bindSourced settings sourced).isForeign name =
      if name = sourced.localName then
        decide (ModuleClass.of sourced.specifier settings = .foreign)
      else
        tracker.isForeign name := by
  unfold bindSourced
  by_cases same : name = sourced.localName
  · cases ModuleClass.of sourced.specifier settings <;>
      simp [bindName, isForeign, NameSet.contains_insert,
        NameSet.contains_erase, same, SourcedBinding.localName]
  · have different : name ≠ sourced.binding.localName := same
    cases ModuleClass.of sourced.specifier settings <;>
      simp [bindName, isForeign, NameSet.contains_insert,
        NameSet.contains_erase, same, different]

/-- Binding a name makes it the user-event object, or takes that away from it. -/
theorem userEventName_bindSourced
    (settings : Settings)
    (tracker : Tracker)
    (sourced : SourcedBinding) :
    (tracker.bindSourced settings sourced).userEventName =
      if ModuleClass.of sourced.specifier settings = .foreign then
        if tracker.userEventName = some sourced.localName then
          none
        else
          tracker.userEventName
      else if ModuleClass.of sourced.specifier settings = .userEvent ∧
          sourced.binding.kind ≠ .named then
        some sourced.localName
      else
        tracker.userEventName := by
  unfold bindSourced
  cases ModuleClass.of sourced.specifier settings <;>
    grind [bindName, SourcedBinding.localName]

/-- The user-event object is always a name that stands for something. -/
theorem isSome_binding?_of_userEventName
    (settings : Settings)
    (observations : List Observation)
    {name : String}
    (userEvent : (after settings observations).userEventName = some name) :
    ((after settings observations).binding? name).isSome = true := by
  refine holds_after
    (motive := fun _ tracker =>
      ∀ name, tracker.userEventName = some name → (tracker.binding? name).isSome = true)
    ?_ ?_ ?_ observations name userEvent
  · -- Only a foreign binding unbinds a name, and it takes the object away too.
    intro _ tracker sourced bound name userEvent
    rw [userEventName_bindSourced] at userEvent
    rw [binding?_bindSourced]
    have stays := bound name
    grind
  · intro _ first second same bound name userEvent
    rw [binding?, same.family]
    exact bound name (same.userEvent ▸ userEvent)
  · intro name userEvent
    cases userEvent

/-- What a tracker must say of a name that was last bound like this. -/
structure Reflects
    (settings : Settings)
    (bound : List SourcedBinding)
    (tracker : Tracker) : Prop where
  binding :
    ∀ name,
      tracker.binding? name =
        (lastBinding? bound name).bind fun last =>
          if ModuleClass.of last.specifier settings = .foreign then
            none
          else
            some last.canonical
  foreign :
    ∀ name,
      tracker.isForeign name =
        (lastBinding? bound name).any fun last =>
          decide (ModuleClass.of last.specifier settings = .foreign)

/-- A tracker reflects what it was shown. -/
theorem reflects_after
    (settings : Settings)
    (observations : List Observation) :
    Reflects settings (boundBy observations) (after settings observations) := by
  refine holds_after ?_ ?_ ?_ observations
  · intro bound tracker sourced reflects
    constructor
    · intro name
      rw [binding?_bindSourced, lastBinding?_concat]
      split
      · rfl
      · exact reflects.binding name
    · intro name
      rw [isForeign_bindSourced, lastBinding?_concat]
      split
      · rfl
      · exact reflects.foreign name
  · intro bound first second same reflects
    refine ⟨fun name => ?_, fun name => ?_⟩
    · rw [binding?, same.family]
      exact reflects.binding name
    · rw [isForeign, same.foreign]
      exact reflects.foreign name
  · exact ⟨fun _ => rfl, fun _ => rfl⟩

namespace Reflects

variable
  {settings : Settings}
  {bound : List SourcedBinding}
  {tracker : Tracker}
  {name : String}

/-- A name never bound is neither bound nor foreign. -/
theorem of_unbound
    (reflects : Reflects settings bound tracker)
    (unbound : lastBinding? bound name = none) :
    tracker.binding? name = none ∧ tracker.isForeign name = false := by
  simp [reflects.binding, reflects.foreign, unbound]

/-- A name last bound by a foreign module is foreign and not bound. -/
theorem of_foreign
    {last : SourcedBinding}
    (reflects : Reflects settings bound tracker)
    (lastBound : lastBinding? bound name = some last)
    (foreign : ¬ IsFamilyModule settings last.specifier) :
    tracker.binding? name = none ∧ tracker.isForeign name = true := by
  rw [← ModuleClass.of_eq_foreign_iff] at foreign
  simp [reflects.binding, reflects.foreign, lastBound, foreign]

/-- A name last bound by the family is bound to what that binding stands for, and is not foreign. -/
theorem of_family
    {last : SourcedBinding}
    (reflects : Reflects settings bound tracker)
    (lastBound : lastBinding? bound name = some last)
    (family : IsFamilyModule settings last.specifier) :
    tracker.isForeign name = false ∧
      tracker.binding? name = some last.canonical := by
  have known : ModuleClass.of last.specifier settings ≠ .foreign := by
    rw [Ne, ModuleClass.of_eq_foreign_iff]
    exact not_not_intro family
  simp [reflects.binding, reflects.foreign, lastBound, known]

/-- No name is both bound and foreign. -/
theorem not_both
    (reflects : Reflects settings bound tracker) :
    ¬ ((tracker.binding? name).isSome = true ∧ tracker.isForeign name = true) := by
  rintro ⟨standing, foreign⟩
  cases lastBound : lastBinding? bound name with
  | none =>
      simp [(reflects.of_unbound lastBound).2] at foreign
  | some last =>
      by_cases family : IsFamilyModule settings last.specifier
      · simp [(reflects.of_family lastBound family).1] at foreign
      · simp [(reflects.of_foreign lastBound family).1] at standing

/-- A name that is not foreign was not last bound by a foreign module. -/
theorem family_of_not_foreign
    {last : SourcedBinding}
    (reflects : Reflects settings bound tracker)
    (notForeign : tracker.isForeign name = false)
    (lastBound : lastBinding? bound name = some last) :
    IsFamilyModule settings last.specifier := by
  apply Classical.byContradiction
  intro foreign
  simp [(reflects.of_foreign lastBound foreign).2] at notForeign

/-- A name that stands for something was last bound by a module of the family. -/
theorem exists_last_of_bound
    (reflects : Reflects settings bound tracker)
    (isBound : (tracker.binding? name).isSome = true) :
    ∃ last,
      lastBinding? bound name = some last ∧
        IsFamilyModule settings last.specifier := by
  have notForeign : tracker.isForeign name = false :=
    Bool.eq_false_iff.mpr fun foreign => reflects.not_both ⟨isBound, foreign⟩
  cases lastBound : lastBinding? bound name with
  | none =>
      simp [(reflects.of_unbound lastBound).1] at isBound
  | some last =>
      exact ⟨last, rfl, reflects.family_of_not_foreign notForeign lastBound⟩

end Reflects

/--
Of a name that no observation binds, a tracker says nothing. Of any other name
the last binding alone decides: bound by a module of the library's family, the
name stands for just that binding and is not foreign; bound by any other
module, it is foreign and stands for nothing. No name is both.
-/
theorem last_binding_decides
    (settings : Settings)
    (observations : List Observation)
    (name : String) :
    (lastBinding? (boundBy observations) name = none ↔
        ∀ sourced ∈ boundBy observations, sourced.localName ≠ name) ∧
      (lastBinding? (boundBy observations) name = none →
        (after settings observations).binding? name = none ∧
          (after settings observations).isForeign name = false) ∧
      (∀ last,
        lastBinding? (boundBy observations) name = some last →
        ¬ IsFamilyModule settings last.specifier →
        (after settings observations).binding? name = none ∧
          (after settings observations).isForeign name = true) ∧
      (∀ last,
        lastBinding? (boundBy observations) name = some last →
        IsFamilyModule settings last.specifier →
        (after settings observations).isForeign name = false ∧
          (after settings observations).binding? name =
            some ⟨last.specifier, last.binding.exported, last.binding.kind⟩) ∧
      ¬ (((after settings observations).binding? name).isSome = true ∧
          (after settings observations).isForeign name = true) := by
  have reflects := reflects_after settings observations
  exact ⟨lastBinding?_eq_none_iff, reflects.of_unbound,
    fun _ => reflects.of_foreign, fun _ => reflects.of_family,
    reflects.not_both⟩

end Tracker

end UsageLint.Imports
