import Mathlib.Data.List.Induction
import UsageLint.Proofs.ImportHistory
import UsageLint.Usage.View

namespace UsageLint.Imports

open UsageLint.Syntax
open UsageLint.Usage

/-!
# The last loads of a history

Beside its names a tracker keeps three things of the loads it has seen: the last
one of the custom module, the last one of the testing library, and the framework
that was implied last. Each has a test of its own, so one load may count for
several. Here the three are read off the list of all loads: of those that pass
the test, the last one decides.
-/

/-- A load together with the node that loads. -/
structure SeenLoad where
  node : Node
  load : ModuleLoad

/-- The load that an observation shows, with its node. -/
def Observation.seenLoad? (observation : Observation) : Option SeenLoad :=
  observation.load?.map (⟨observation.node, ·⟩)

/-- All loads of a run of observations, in order. -/
def loadedBy (observations : List Observation) : List SeenLoad :=
  observations.filterMap Observation.seenLoad?

/-- The last load whose specifier passes a test. -/
def lastLoad? (test : String → Bool) (loads : List SeenLoad) : Option SeenLoad :=
  (loads.filter (test ·.load.specifier)).getLast?

/-- Whether a specifier names the testing library, under a present or earlier name. -/
def isLibraryModule (specifier : String) : Bool :=
  ((Vocabulary.modules ++ Vocabulary.legacyModules).map Prod.fst).contains specifier

/-- The framework that a module implies, if it is one of the library that does. -/
def impliedFramework? (specifier : String) : Option Framework :=
  (Vocabulary.testingLibraryModule? specifier).join

/-- The name of a load of the custom module: the last it binds, else the specifier. -/
def ModuleLoad.lastName (load : ModuleLoad) : String :=
  (load.bindings.getLast?.map LocalBinding.localName).getD load.specifier

theorem lastLoad?_concat
    (test : String → Bool)
    (loads : List SeenLoad)
    (seen : SeenLoad) :
    lastLoad? test (loads ++ [seen]) =
      if test seen.load.specifier then
        some seen
      else
        lastLoad? test loads := by
  by_cases passes : test seen.load.specifier = true
  · simp [lastLoad?, passes]
  · simp [lastLoad?, passes]

theorem lastLoad?_eq_none_iff
    {test : String → Bool}
    {loads : List SeenLoad} :
    lastLoad? test loads = none ↔
      ∀ seen ∈ loads, test seen.load.specifier = false := by
  simp [lastLoad?]

/-- A test that a load has passed is passed in every longer history. -/
theorem isSome_lastLoad?_append
    {test : String → Bool}
    {earlier : List SeenLoad}
    (later : List SeenLoad)
    (found : (lastLoad? test earlier).isSome = true) :
    (lastLoad? test (earlier ++ later)).isSome = true := by
  rw [Option.isSome_iff_ne_none, Ne, lastLoad?_eq_none_iff] at found ⊢
  intro none
  exact found fun seen among => none seen (List.mem_append_left _ among)

theorem loadedBy_append (earlier later : List Observation) :
    loadedBy (earlier ++ later) = loadedBy earlier ++ loadedBy later :=
  List.filterMap_append

/-- The modules of the testing library are those listed with what they imply. -/
theorem isSome_testingLibraryModule? (specifier : String) :
    (Vocabulary.testingLibraryModule? specifier).isSome =
      isLibraryModule specifier := by
  rw [Bool.eq_iff_iff, Option.isSome_iff_ne_none, Ne,
    testingLibraryModule?_eq_none_iff, not_not, isLibraryModule,
    List.contains_iff_mem]

/-- The class of a specifier tells whether it is of the testing library. -/
theorem ModuleClass.of_eq_testingLibrary_iff
    (specifier : String)
    (settings : Settings)
    (framework : Option Framework) :
    ModuleClass.of specifier settings = .testingLibrary framework ↔
      Vocabulary.testingLibraryModule? specifier = some framework := by
  unfold ModuleClass.of
  split
  · next userEvent =>
      -- The module of user events is not listed among those of the library.
      subst userEvent
      simp [show Vocabulary.testingLibraryModule? Vocabulary.userEventModule = none
        by decide]
  · split
    · simp_all
    · split <;> simp_all

namespace Tracker

/-- Whether two trackers have the same loads in mind. -/
structure SameLoads (first second : Tracker) : Prop where
  custom : second.customModule = first.customModule
  library : second.testingLibrary = first.testingLibrary
  framework : second.detectedFramework = first.detectedFramework

/-- Binding names changes no load in mind. -/
theorem sameLoads_foldl_bindSourced
    (settings : Settings)
    (run : List SourcedBinding)
    (tracker : Tracker) :
    SameLoads tracker (run.foldl (bindSourced settings) tracker) := by
  induction run generalizing tracker with
  | nil =>
      exact ⟨rfl, rfl, rfl⟩
  | cons sourced rest inductionHypothesis =>
      have first : SameLoads tracker (tracker.bindSourced settings sourced) := by
        unfold bindSourced bindName
        split <;> exact ⟨rfl, rfl, rfl⟩
      have later := inductionHypothesis (tracker.bindSourced settings sourced)
      exact ⟨later.custom.trans first.custom, later.library.trans first.library,
        later.framework.trans first.framework⟩

/-- To remember a load of the custom module is to leave the other loads in mind. -/
theorem testingLibrary_noteCustomModule
    (settings : Settings)
    (node : Node)
    (load : ModuleLoad)
    (tracker : Tracker) :
    (noteCustomModule settings node load tracker).testingLibrary =
      tracker.testingLibrary := by
  unfold noteCustomModule
  split <;> rfl

theorem detectedFramework_noteCustomModule
    (settings : Settings)
    (node : Node)
    (load : ModuleLoad)
    (tracker : Tracker) :
    (noteCustomModule settings node load tracker).detectedFramework =
      tracker.detectedFramework := by
  unfold noteCustomModule
  split <;> rfl

/-- A load of a module that is not listed is no load of the testing library. -/
theorem noteTestingLibrary_of_unlisted
    {settings : Settings}
    {node : Node}
    {specifier : String}
    {tracker : Tracker}
    (unlisted : Vocabulary.testingLibraryModule? specifier = none) :
    noteTestingLibrary node specifier (.of specifier settings) tracker =
      tracker := by
  unfold noteTestingLibrary
  split
  · next framework known =>
      simp [ModuleClass.of_eq_testingLibrary_iff, unlisted] at known
  · rfl

section Record

variable
  (settings : Settings)
  (node : Node)
  (load : ModuleLoad)
  (tracker : Tracker)

theorem customModule_record :
    (tracker.record settings node load).customModule =
      if isCustomModule load.specifier settings then
        some ⟨node, load.lastName⟩
      else
        tracker.customModule := by
  have bound := sameLoads_foldl_bindSourced settings load.sourcedBindings tracker
  rw [record_eq_notes, noteCustomModule]
  split
  · cases last : load.bindings.getLast? <;>
      simp [ModuleLoad.lastName, last]
  · unfold noteTestingLibrary
    split <;> exact bound.custom

theorem testingLibrary_record :
    (tracker.record settings node load).testingLibrary =
      if isLibraryModule load.specifier then
        some ⟨node, load.specifier⟩
      else
        tracker.testingLibrary := by
  have bound := sameLoads_foldl_bindSourced settings load.sourcedBindings tracker
  rw [record_eq_notes, testingLibrary_noteCustomModule,
    ← isSome_testingLibraryModule?]
  cases listed : Vocabulary.testingLibraryModule? load.specifier with
  | some framework =>
      rw [(ModuleClass.of_eq_testingLibrary_iff ..).mpr listed]
      rfl
  | none =>
      rw [noteTestingLibrary_of_unlisted listed]
      exact bound.library

theorem detectedFramework_record :
    (tracker.record settings node load).detectedFramework =
      (impliedFramework? load.specifier).or tracker.detectedFramework := by
  have bound := sameLoads_foldl_bindSourced settings load.sourcedBindings tracker
  rw [record_eq_notes, detectedFramework_noteCustomModule, impliedFramework?]
  cases listed : Vocabulary.testingLibraryModule? load.specifier with
  | some framework =>
      rw [(ModuleClass.of_eq_testingLibrary_iff ..).mpr listed]
      exact congrArg (framework.or ·) bound.framework
  | none =>
      rw [noteTestingLibrary_of_unlisted listed]
      exact bound.framework

end Record

/--
What a tracker must have in mind after these loads: of the custom module and of
the testing library the last load, and the framework of the last load that
implies one.
-/
structure Remembers
    (settings : Settings)
    (loads : List SeenLoad)
    (tracker : Tracker) : Prop where
  custom :
    tracker.customModule =
      (lastLoad? (isCustomModule · settings) loads).map fun last =>
        ⟨last.node, last.load.lastName⟩
  library :
    tracker.testingLibrary =
      (lastLoad? isLibraryModule loads).map fun last =>
        ⟨last.node, last.load.specifier⟩
  framework :
    tracker.detectedFramework =
      (lastLoad? (impliedFramework? · |>.isSome) loads).bind fun last =>
        impliedFramework? last.load.specifier

/-- One more load is remembered if it is of the kind that counts. -/
theorem Remembers.record
    {settings : Settings}
    {loads : List SeenLoad}
    {tracker : Tracker}
    (remembers : Remembers settings loads tracker)
    (seen : SeenLoad) :
    Remembers settings (loads ++ [seen])
      (tracker.record settings seen.node seen.load) := by
  constructor
  · rw [customModule_record, lastLoad?_concat, remembers.custom]
    split <;> rfl
  · rw [testingLibrary_record, lastLoad?_concat, remembers.library]
    split <;> rfl
  · rw [detectedFramework_record, lastLoad?_concat, remembers.framework]
    cases implied : impliedFramework? seen.load.specifier <;> simp [implied]

/-- A tracker remembers what it was shown. -/
theorem remembers_after
    (settings : Settings)
    (observations : List Observation) :
    Remembers settings (loadedBy observations) (after settings observations) := by
  induction observations using List.reverseRecOn with
  | nil =>
      exact ⟨rfl, rfl, rfl⟩
  | append_singleton earlier observation remembers =>
      rw [after_append, List.foldl_cons, List.foldl_nil, observe_eq,
        loadedBy_append]
      cases seen : observation.load? with
      | none =>
          simpa [loadedBy, Observation.seenLoad?, seen] using remembers
      | some load =>
          simpa [loadedBy, Observation.seenLoad?, seen] using
            remembers.record ⟨observation.node, load⟩

/-- A load of the custom module stays in mind, or a later one takes its place. -/
theorem customModule_stays
    (settings : Settings)
    (earlier later : List Observation)
    (remembered : (after settings earlier).customModule.isSome = true) :
    (after settings (earlier ++ later)).customModule.isSome = true := by
  rw [(remembers_after ..).custom, Option.isSome_map] at remembered ⊢
  rw [loadedBy_append]
  exact isSome_lastLoad?_append (loadedBy later) remembered

theorem testingLibrary_stays
    (settings : Settings)
    (earlier later : List Observation)
    (remembered : (after settings earlier).testingLibrary.isSome = true) :
    (after settings (earlier ++ later)).testingLibrary.isSome = true := by
  rw [(remembers_after ..).library, Option.isSome_map] at remembered ⊢
  rw [loadedBy_append]
  exact isSome_lastLoad?_append (loadedBy later) remembered

/--
Of the custom module and of the testing library a tracker has the last load in
mind, and none only if there was none, whatever else the specifier of that load
names; of frameworks it has in mind the one that the last load to imply any
implied. What is in mind at all stays so, and the library stays imported,
however the history goes on.
-/
theorem records_keep_last_loads
    (settings : Settings)
    (observations : List Observation) :
    ((after settings observations).customModule = none ↔
        ∀ seen ∈ loadedBy observations,
          isCustomModule seen.load.specifier settings = false) ∧
      (after settings observations).customModule =
        (lastLoad? (isCustomModule · settings) (loadedBy observations)).map
          (fun last =>
            ⟨last.node,
              (last.load.bindings.getLast?.map LocalBinding.localName).getD
                last.load.specifier⟩) ∧
      ((after settings observations).testingLibrary = none ↔
        ∀ seen ∈ loadedBy observations,
          isLibraryModule seen.load.specifier = false) ∧
      (after settings observations).testingLibrary =
        (lastLoad? isLibraryModule (loadedBy observations)).map
          (fun last => ⟨last.node, last.load.specifier⟩) ∧
      (after settings observations).detectedFramework =
        (lastLoad? (impliedFramework? · |>.isSome) (loadedBy observations)).bind
          (fun last => impliedFramework? last.load.specifier) ∧
      ∀ later finished,
        ((after settings observations).customModule.isSome = true →
          (after settings (observations ++ later)).customModule.isSome = true) ∧
        ((after settings observations).testingLibrary.isSome = true →
          (after settings (observations ++ later)).testingLibrary.isSome = true) ∧
        (View.isLibraryImported
            ⟨settings, after settings observations, finished⟩ = true →
          ∀ finishedLater,
            View.isLibraryImported
              ⟨settings, after settings (observations ++ later), finishedLater⟩ =
                true) := by
  have now := remembers_after settings observations
  refine ⟨?_, now.custom, ?_, now.library, now.framework, ?_⟩
  · rw [now.custom, Option.map_eq_none_iff, lastLoad?_eq_none_iff]
  · rw [now.library, Option.map_eq_none_iff, lastLoad?_eq_none_iff]
  · intro later finished
    have customStays := customModule_stays settings observations later
    have libraryStays := testingLibrary_stays settings observations later
    refine ⟨customStays, libraryStays, ?_⟩
    intro imported finishedLater
    simp only [View.isLibraryImported, View.imports, Bool.or_eq_true] at imported ⊢
    exact imported.imp (Or.imp_right libraryStays) customStays

end Tracker

end UsageLint.Imports
