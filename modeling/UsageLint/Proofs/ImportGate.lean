import UsageLint.Proofs.CommentedLoads
import UsageLint.Proofs.LiveRoot
import UsageLint.Proofs.UserEventObject

namespace UsageLint

open UsageLint.Syntax
open UsageLint.Imports
open UsageLint.Usage
open UsageLint.Walk

/-!
# The gate before a file

A rule may leave a file alone as long as the library is not known to be
imported. That gate looks at the last loads of the testing library and of the
custom module, while a use is recognised by the names that are bound. The module
of user events binds names as well, but the gate does not look at it. So
whatever is recognised passes the gate, unless it is rooted in a name of that
module and nothing else of the library's family was loaded so far.
-/

/-- A view that a walk comes to: it has the imports of the nodes visited so far. -/
structure Usage.View.ReachedAfter
    (settings : Settings)
    (tree : SourceTree)
    (visited : List Node)
    (view : View) : Prop where
  begun : visited <+: tree.root.preorder
  underSettings : view.settings = settings
  imports : view.imports = importsOf settings visited

/-- The loads that nodes declare or call for. -/
def loadsOf (nodes : List Node) : List SeenLoad :=
  loadedBy (nodes.filterMap Observation.ofNode?)

/-- What last bound a name, of the loads that nodes declare or call for. -/
def lastBindingIn? (nodes : List Node) (name : String) : Option SourcedBinding :=
  lastBinding? (boundBy (nodes.filterMap Observation.ofNode?)) name

theorem reachedAfter_walk (settings : Settings) (tree : SourceTree) :
    (walk tracking tree (.initial settings)).ReachedAfter settings tree
      tree.root.preorder := by
  rw [walk_tracking]
  exact ⟨List.prefix_rfl, rfl, rfl⟩

/-- Whatever a handler sees during a walk, the walk has come to. -/
theorem exists_reachedAfter_of_mem_calls
    {M : Type}
    {rule : Rule}
    {reporters : List (Reporter M)}
    {memory : M}
    {file : Path}
    {settings : Settings}
    {tree : SourceTree}
    {call : RuleCall}
    (made : call ∈ (Watch.finish rule reporters memory file settings tree).calls) :
    ∃ visited, call.seen.view.ReachedAfter settings tree visited := by
  obtain ⟨atEnd, grown, _, seenAtEnd⟩ :=
    Watch.exists_calls_finish rule reporters memory file settings tree
  rw [grown] at made
  rcases List.mem_append.mp made with onTheWay | last
  · obtain ⟨_, earlier, begun, seen⟩ :=
      (Watch.follows_onTheWay rule reporters memory file settings tree).seen call
        onTheWay
    exact ⟨earlier ++ [call.node], begun, by rw [seen]; rfl, by rw [seen]; rfl⟩
  · obtain ⟨_, _, seen⟩ := seenAtEnd call last
    exact ⟨tree.root.preorder, List.prefix_rfl, by rw [seen]; rfl, by rw [seen]; rfl⟩

/-- Every binding comes from a load of its module. -/
theorem Imports.exists_load_of_mem_boundBy
    {observations : List Observation}
    {sourced : SourcedBinding}
    (among : sourced ∈ boundBy observations) :
    ∃ seen ∈ loadedBy observations, seen.load.specifier = sourced.specifier := by
  obtain ⟨observation, shown, bound⟩ := List.mem_flatMap.mp among
  cases loads : observation.load? with
  | none =>
      simp [Observation.bound, loads] at bound
  | some load =>
      have ofLoad : sourced ∈ load.sourcedBindings := by
        simpa [Observation.bound, loads] using bound
      obtain ⟨binding, _, rfl⟩ := List.mem_map.mp ofLoad
      exact ⟨⟨observation.node, load⟩,
        List.mem_filterMap.mpr
          ⟨observation, shown, by simp [Observation.seenLoad?, loads]⟩,
        rfl⟩

/-- A module of the family that the gate does not look at is that of user events. -/
theorem Imports.eq_userEventModule_of_isFamilyModule
    {settings : Settings}
    {specifier : String}
    (family : IsFamilyModule settings specifier)
    (notLibrary : isLibraryModule specifier = false)
    (notCustom : isCustomModule specifier settings = false) :
    specifier = Vocabulary.userEventModule := by
  rcases family with userEvents | library | custom
  · exact userEvents
  · rw [← List.contains_iff_mem] at library
    cases library.symm.trans notLibrary
  · rw [(isCustomModule_iff ..).mpr custom] at notCustom
    cases notCustom

namespace Usage.View.ReachedAfter

variable
  {settings : Settings}
  {tree : SourceTree}
  {visited : List Node}
  {view : View}
  (reached : view.ReachedAfter settings tree visited)

include reached

/-- The gate is shut until the testing library or the custom module was loaded. -/
theorem isLibraryImported_eq_false_iff :
    view.isLibraryImported = false ↔
      settings.aggressiveModules = false ∧
        ∀ seen ∈ loadsOf visited,
          isLibraryModule seen.load.specifier = false ∧
            isCustomModule seen.load.specifier settings = false := by
  have remembers :=
    Tracker.remembers_after settings (visited.filterMap Observation.ofNode?)
  have libraryUnseen :
      view.imports.testingLibrary.isSome = false ↔
        ∀ seen ∈ loadsOf visited, isLibraryModule seen.load.specifier = false := by
    rw [reached.imports, importsOf, remembers.library, Option.isSome_map,
      Option.isSome_eq_false_iff, Option.isNone_iff_eq_none, lastLoad?_eq_none_iff,
      loadsOf]
  have customUnseen :
      view.imports.customModule.isSome = false ↔
        ∀ seen ∈ loadsOf visited,
          isCustomModule seen.load.specifier settings = false := by
    rw [reached.imports, importsOf, remembers.custom, Option.isSome_map,
      Option.isSome_eq_false_iff, Option.isNone_iff_eq_none, lastLoad?_eq_none_iff,
      loadsOf]
  rw [isLibraryImported, reached.underSettings, Bool.or_eq_false_iff, Bool.or_eq_false_iff,
    libraryUnseen, customUnseen, and_assoc, forall₂_and]

/-- In strict settings a recognised use has a root that was bound by the family. -/
theorem exists_root_of_isLibraryUse
    {node : Node}
    (recognised : (view.category node).IsLibraryUse)
    (strict : settings.aggressiveModules = false) :
    ∃ root last,
      useRoot? node = some root ∧
        lastBindingIn? visited root.text = some last ∧
        IsFamilyModule settings last.specifier := by
  rcases view with ⟨given, ⟨imports, finished⟩⟩
  cases reached.underSettings
  have consistent :=
    View.consistent_after given (visited.filterMap Observation.ofNode?) finished
  cases (show imports = importsOf given visited from reached.imports)
  obtain ⟨root, rooted, isBound⟩ :=
    (View.allows_of_recognises consistent (Or.inl recognised)).bound strict
  obtain ⟨last, lastBound, family⟩ :=
    (Tracker.reflects_after given
      (visited.filterMap Observation.ofNode?)).exists_last_of_bound isBound
  exact ⟨root, last, rooted, lastBound, family⟩

end Usage.View.ReachedAfter

namespace Usage

/--
The gate is shut as long as settings are strict and neither the testing library
nor the custom module was loaded. A recognised use passes it, except for one
that is rooted in a name last bound by the module of user events, where that is
not the custom module.
-/
theorem shut_gate_hides_user_events_only
    {settings : Settings}
    {tree : SourceTree}
    {visited : List Node}
    {view : View}
    {node : Node}
    (reached : view.ReachedAfter settings tree visited)
    (recognised : (view.category node).IsLibraryUse) :
    (view.isLibraryImported = false ↔
        settings.aggressiveModules = false ∧
          ∀ seen ∈ loadsOf visited,
            isLibraryModule seen.load.specifier = false ∧
              isCustomModule seen.load.specifier settings = false) ∧
      (view.isLibraryImported = true ∨
        ∃ root last,
          useRoot? node = some root ∧
            lastBindingIn? visited root.text = some last ∧
            last.specifier = Vocabulary.userEventModule ∧
            isCustomModule last.specifier settings = false) := by
  have shutIff := reached.isLibraryImported_eq_false_iff
  refine ⟨shutIff, ?_⟩
  cases gate : view.isLibraryImported with
  | true =>
      exact Or.inl rfl
  | false =>
      obtain ⟨strict, unseen⟩ := shutIff.mp gate
      obtain ⟨root, last, rooted, lastBound, family⟩ :=
        reached.exists_root_of_isLibraryUse recognised strict
      obtain ⟨seen, loaded, sameModule⟩ :=
        exists_load_of_mem_boundBy (mem_of_lastBinding? lastBound).1
      obtain ⟨notLibrary, notCustom⟩ := unseen seen loaded
      rw [sameModule] at notLibrary notCustom
      exact Or.inr ⟨root, last, rooted, lastBound,
        eq_userEventModule_of_isFamilyModule family notLibrary notCustom, notCustom⟩

/-- A file that imports the user-event object and calls a method of it. -/
def userEventTree : SourceTree where
  source := .ofString "import ue from '@testing-library/user-event';\nue.click(x);\n"
  dialect := .tsx
  tree :=
    .node (View.namedLabel "program" none 0 59)
      [.node (View.namedLabel "import_statement" none 0 45)
          [.node (View.namedLabel "import_clause" none 7 9)
              [.node (View.namedLabel "identifier" none 7 9) []],
            .node (View.namedLabel "string" (some "source") 15 44) []],
        .node (View.namedLabel "expression_statement" none 46 58)
          [.node (View.namedLabel "call_expression" none 46 57)
            [.node (View.namedLabel "member_expression" (some "function") 46 54)
                [.node (View.namedLabel "identifier" (some "object") 46 48) [],
                  .node
                    (View.namedLabel "property_identifier" (some "property") 49 54)
                    []],
              .node (View.namedLabel "arguments" (some "arguments") 54 57)
                [.node (View.namedLabel "identifier" none 55 56) []]]]]

/-- Where the module of user events is the custom module, its uses pass the gate. -/
theorem user_events_of_custom_module_pass_gate :
    let view :=
      walk tracking userEventTree
        (.initial (Settings.default.withCustomModule "user-event"))
    ∃ node ∈ userEventTree.root.preorder,
      (view.category node).IsLibraryUse ∧ view.isLibraryImported = true := by
  have method :
      ∃ node ∈ userEventTree.root.preorder,
        (walk tracking userEventTree
          (.initial (Settings.default.withCustomModule "user-event"))).category
            node = .userEventMethod := by
    rw [walk_tracking]
    decide +kernel
  obtain ⟨node, among, isMethod⟩ := method
  have recognised :
      ((walk tracking userEventTree
        (.initial (Settings.default.withCustomModule "user-event"))).category
          node).IsLibraryUse := by
    rw [isMethod]
    trivial
  refine ⟨node, among, recognised, ?_⟩
  apply (shut_gate_hides_user_events_only (reachedAfter_walk ..) recognised).2.resolve_right
  rintro ⟨_, last, _, _, ofModule, notCustom⟩
  rw [ofModule] at notCustom
  revert notCustom
  decide

/--
A method of the user-event object is recognised in a file in which the library
does not count as imported.
-/
theorem user_events_are_hidden_by_gate :
    let view :=
      walk tracking userEventTree
        (.initial (Settings.default.withCustomModule "test-utils"))
    (∃ node ∈ userEventTree.root.preorder, view.category node = .userEventMethod) ∧
      view.isLibraryImported = false := by
  rw [walk_tracking]
  decide +kernel

end Usage

end UsageLint
