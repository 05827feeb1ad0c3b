import UsageLint.Proofs.ImportForms
import UsageLint.Proofs.UserEventObject
import UsageLint.Proofs.Widening

namespace UsageLint.Imports

/-!
# Methods of the user-event object

Several names may stand for the user-event object at a time, as the module or
its default export, but a tracker remembers one of them only: the one that the
last binding of the object gave, and none once a foreign module has taken that
name over. Methods are recognised on the remembered name, and without one on
`userEvent` where unbound names count. So of all the names that stand for the
object, at most one is found by its methods.
-/

/-- Whether a binding is of the user-event object: the module or its default export. -/
def CanonicalBinding.IsUserEventObject (binding : CanonicalBinding) : Prop :=
  binding.specifier = Vocabulary.userEventModule ∧ binding.kind ≠ .named

/-- Where the object was last bound in a history. -/
structure LastObject
    (bound earlier later : List SourcedBinding)
    (object : SourcedBinding) : Prop where
  shape : bound = earlier ++ object :: later
  isObject : object.IsUserEventObject
  isLast : ∀ sourced ∈ later, ¬ sourced.IsUserEventObject

/-- Whether a foreign module has taken over the name of an object. -/
def IsTakenOver
    (settings : Settings)
    (object : SourcedBinding)
    (later : List SourcedBinding) : Prop :=
  ∃ sourced ∈ later,
    sourced.localName = object.localName ∧
      ¬ IsFamilyModule settings sourced.specifier

/--
Whether methods are found on a name that stands for the object: the last binding
of the object gave that very name, or it gave one that was taken over, and the
name is the one that is assumed without imports.
-/
def FindsMethodsOn
    (settings : Settings)
    (bound : List SourcedBinding)
    (name : String) : Prop :=
  ∃ earlier object later,
    LastObject bound earlier later object ∧
      (object.localName = name ∨
        (settings.aggressiveModules = true ∧
          name = Vocabulary.userEventName ∧
          IsTakenOver settings object later))

section LastObject

variable
  {settings : Settings}
  {bound earlier later : List SourcedBinding}
  {object : SourcedBinding}

/-- A history that binds the object binds it a last time. -/
theorem exists_lastObject
    (binds : ∃ sourced ∈ bound, sourced.IsUserEventObject) :
    ∃ earlier object later, LastObject bound earlier later object := by
  induction bound with
  | nil =>
      simp at binds
  | cons first rest inductionHypothesis =>
      by_cases again : ∃ sourced ∈ rest, sourced.IsUserEventObject
      · obtain ⟨earlier, object, later, last⟩ := inductionHypothesis again
        exact ⟨first :: earlier, object, later, by rw [last.shape]; rfl, last.isObject,
          last.isLast⟩
      · have isObject : first.IsUserEventObject := by
          simpa [again] using binds
        exact ⟨[], first, rest, rfl, isObject,
          fun sourced among isAgain => again ⟨sourced, among, isAgain⟩⟩

/-- What follows a last binding of the object cannot hold another one. -/
theorem LastObject.unique
    {otherEarlier otherLater : List SourcedBinding}
    {other : SourcedBinding}
    (last : LastObject bound earlier later object)
    (otherLast : LastObject bound otherEarlier otherLater other) :
    other = object ∧ otherLater = later := by
  have same := last.shape.symm.trans otherLast.shape
  rcases List.append_eq_append_iff.mp same with
    ⟨between, _, split⟩ | ⟨between, _, split⟩
  · rcases between with _ | ⟨first, rest⟩
    · simpa [eq_comm] using split
    · simp only [List.cons_append, List.cons.injEq] at split
      exact (last.isLast other (by simp [split.2]) otherLast.isObject).elim
  · rcases between with _ | ⟨first, rest⟩
    · simpa using split
    · simp only [List.cons_append, List.cons.injEq] at split
      exact (otherLast.isLast object (by simp [split.2]) last.isObject).elim

theorem NamesObject.lastObject
    {name : String}
    (names : NamesObject settings name bound earlier later object) :
    LastObject bound earlier later object :=
  ⟨names.shape, names.isObject, names.isLast⟩

/-- The last object keeps its name unless a foreign module takes it over. -/
theorem LastObject.namesObject
    (last : LastObject bound earlier later object)
    (kept : ¬ IsTakenOver settings object later) :
    NamesObject settings object.localName bound earlier later object where
  shape := last.shape
  isObject := last.isObject
  named := rfl
  isLast := last.isLast
  kept sourced among again :=
    Classical.byContradiction fun foreign => kept ⟨sourced, among, again, foreign⟩

end LastObject

namespace Tracker

variable
  {settings : Settings}
  {observations : List Observation}
  {earlier later : List SourcedBinding}
  {object : SourcedBinding}
  {name : String}
  {binding : CanonicalBinding}

/-- The last object is remembered, under its name. -/
theorem userEventName_of_lastObject
    (last : LastObject (boundBy observations) earlier later object)
    (kept : ¬ IsTakenOver settings object later) :
    (after settings observations).userEventName = some object.localName :=
  (userEventName_eq_some_iff ..).mpr ⟨earlier, object, later, last.namesObject kept⟩

/-- Without its name no object is remembered, whatever else stands for one. -/
theorem userEventName_of_takenOver
    (last : LastObject (boundBy observations) earlier later object)
    (taken : IsTakenOver settings object later) :
    (after settings observations).userEventName = none := by
  rw [Option.eq_none_iff_forall_ne_some]
  intro name remembered
  obtain ⟨_, _, _, names⟩ := (userEventName_eq_some_iff ..).mp remembered
  obtain ⟨rfl, rfl⟩ := last.unique names.lastObject
  obtain ⟨sourced, among, again, foreign⟩ := taken
  exact foreign (names.kept sourced among (again.trans names.named))

/-- What a name stands for is what last bound it. -/
theorem exists_lastBinding?_of_stands
    (stands : (after settings observations).binding? name = some binding) :
    ∃ last,
      lastBinding? (boundBy observations) name = some last ∧
        last.canonical = binding := by
  rw [(reflects_after settings observations).binding] at stands
  obtain ⟨last, lastBound, isFamily⟩ := Option.bind_eq_some_iff.mp stands
  simp only [Option.ite_none_left_eq_some, Option.some.injEq] at isFamily
  exact ⟨last, lastBound, isFamily.2⟩

/-- A name that stands for the object has not been taken over. -/
theorem not_isTakenOver_of_stands
    (last : LastObject (boundBy observations) earlier later object)
    (stands : (after settings observations).binding? object.localName = some binding)
    (isObject : binding.IsUserEventObject) :
    ¬ IsTakenOver settings object later := by
  rintro ⟨sourced, among, again, _⟩
  obtain ⟨lastBound, isLastBound, rfl⟩ := exists_lastBinding?_of_stands stands
  rw [last.shape, lastBinding?_append_cons] at isLastBound
  cases rebound : lastBinding? later object.localName with
  | none =>
      exact lastBinding?_eq_none_iff.mp rebound sourced among again
  | some other =>
      rw [rebound, Option.some_or, Option.some.injEq] at isLastBound
      subst isLastBound
      exact last.isLast other (mem_of_lastBinding? rebound).1 isObject

end Tracker

end UsageLint.Imports

namespace UsageLint.Usage

open UsageLint.Syntax
open UsageLint.Imports

section Methods

variable
  {settings : Settings}
  {observations : List Observation}
  {finished : Bool}
  {node : Node}
  {name method : String}
  {binding : CanonicalBinding}

/-- Of the names that stand for the object, methods are looked for on one. -/
theorem userEventName?_eq_some_iff
    (stands : (Tracker.after settings observations).binding? name = some binding)
    (isObject : binding.IsUserEventObject) :
    (View.after settings observations finished).userEventName? = some name ↔
      FindsMethodsOn settings (boundBy observations) name := by
  obtain ⟨lastBound, isLastBound, rfl⟩ := Tracker.exists_lastBinding?_of_stands stands
  obtain ⟨earlier, object, later, last⟩ :=
    exists_lastObject ⟨lastBound, (mem_of_lastBinding? isLastBound).1, isObject⟩
  have effective :
      (View.after settings observations finished).userEventName? =
        (Tracker.after settings observations).userEventName.or
          (if settings.aggressiveModules then some Vocabulary.userEventName else none) :=
    rfl
  have finds :
      FindsMethodsOn settings (boundBy observations) name ↔
        object.localName = name ∨
          (settings.aggressiveModules = true ∧
            name = Vocabulary.userEventName ∧
            IsTakenOver settings object later) := by
    constructor
    · rintro ⟨_, _, _, otherLast, found⟩
      obtain ⟨rfl, rfl⟩ := last.unique otherLast
      exact found
    · exact fun found => ⟨earlier, object, later, last, found⟩
  rw [effective, finds]
  by_cases taken : IsTakenOver settings object later
  · have other : object.localName ≠ name := by
      rintro rfl
      exact Tracker.not_isTakenOver_of_stands last stands isObject taken
    rw [Tracker.userEventName_of_takenOver last taken, Option.none_or]
    grind
  · rw [Tracker.userEventName_of_lastObject last taken, Option.some_or]
    grind

/-- A property of the object, other than its own names, is a method of it. -/
theorem isMethodOfUserEvent_of_found
    {view : View}
    (found : view.userEventName? = some name)
    (notForeign : view.imports.isForeign name = false)
    (used : IsPropertyUse node name method)
    (notItself : method ≠ name)
    (notDefault : method ≠ Vocabulary.userEventName) :
    view.isMethodOfUserEvent node = true := by
  obtain ⟨member, object, isMember, held, plain⟩ := used.onObject
  simp [View.isMethodOfUserEvent, found, isMember, used.text, held, plain, notItself,
    notDefault, notForeign]

/-- What is a method of the object is claimed by the checks for it and before it. -/
theorem category_of_isMethodOfUserEvent
    {view : View}
    {resolved : Resolved}
    (isResolved : view.resolve? node = some resolved)
    (isMethod : view.isMethodOfUserEvent node = true) :
    view.category node = .userEventMethod ∨
      view.category node = .render ∨
      ∃ waits, view.category node = .asyncUtil waits := by
  have rounds :
      CallCheck.precedence =
        libraryChecks ++ [.customQuery, .getQuery, .queryQuery, .findQuery] := rfl
  have claimed :
      (firstCategory? libraryChecks view node resolved).isSome = true := by
    refine List.findSome?_isSome_iff.mpr ⟨.userEventMethod, by decide, ?_⟩
    simp [CallCheck.category?, isMethod]
  obtain ⟨category, given⟩ := Option.isSome_iff_exists.mp claimed
  obtain ⟨check, among, gives⟩ := exists_gives_of_firstCategory? given
  rw [View.category_of_resolve? rounds isResolved, given, Option.some_or,
    Option.getD_some]
  simp only [libraryChecks, List.mem_cons, List.not_mem_nil, or_false] at among
  rcases among with rfl | rfl | rfl
  · exact .inr (.inl gives)
  · exact .inr (.inr gives)
  · exact .inl gives

/-- Nothing but a method of the object gets the category of one. -/
theorem isMethodOfUserEvent_of_category
    {view : View}
    (identifier : node.isKind .identifier = true)
    (given : view.category node = .userEventMethod) :
    view.isMethodOfUserEvent node = true := by
  have kind : node.kind = .identifier := beq_iff_eq.mp identifier
  simp only [View.category, kind] at given
  obtain ⟨check, resolved, _, succeeds⟩ :=
    View.exists_check_of_callCategory given (by decide)
  have gives := CallCheck.gives_of_category? succeeds
  cases check with
  | userEventMethod =>
      simpa [CallCheck.category?] using succeeds
  | asyncUtil =>
      obtain ⟨_, wrong⟩ := gives
      cases wrong
  | render | customQuery | getQuery | queryQuery | findQuery =>
      cases gives

/--
Of the names that stand for the user-event object, one at most is found by its
methods: that of the last binding of the object or, where a foreign module has
taken that over, the name assumed without imports. Properties of this name,
other than the object's own names, are methods unless they are render functions
or functions that wait; no property of any other such name is a method.
-/
theorem methods_are_found_on_one_name
    (settings : Settings)
    (observations : List Observation)
    (finished : Bool)
    (stands : (Tracker.after settings observations).binding? name = some binding)
    (isObject : binding.IsUserEventObject)
    (used : IsPropertyUse node name method)
    (notItself : method ≠ name)
    (notDefault : method ≠ Vocabulary.userEventName) :
    let view := View.after settings observations finished
    (FindsMethodsOn settings (boundBy observations) name →
        view.category node = .userEventMethod ∨
          view.category node = .render ∨
          ∃ waits, view.category node = .asyncUtil waits) ∧
      (¬ FindsMethodsOn settings (boundBy observations) name →
        view.category node ≠ .userEventMethod) := by
  intro view
  have found :
      view.userEventName? = some name ↔
        FindsMethodsOn settings (boundBy observations) name :=
    userEventName?_eq_some_iff stands isObject
  have isBound : (view.imports.binding? name).isSome = true :=
    Option.isSome_of_eq_some stands
  constructor
  · intro finds
    have notForeign : view.imports.isForeign name = false :=
      Bool.eq_false_iff.mpr fun foreign =>
        (Tracker.reflects_after settings observations).not_both ⟨isBound, foreign⟩
    exact category_of_isMethodOfUserEvent (resolve?_of_property isBound used)
      (isMethodOfUserEvent_of_found (found.mpr finds) notForeign used notItself
        notDefault)
  · intro notFound isMethod
    have notMethod : view.isMethodOfUserEvent node = false :=
      isMethodOfUserEvent_of_property used fun named => notFound (found.mp named)
    rw [isMethodOfUserEvent_of_category used.identifier isMethod] at notMethod
    cases notMethod

end Methods

section Example

open View (namedLabel)

/-- The default import of a module under a name, as a file of its own. -/
def defaultImport (name specifier : String) : Observation :=
  let text := "import " ++ name ++ " from '" ++ specifier ++ "'"
  let nameEnd := 7 + name.length
  .declaration
    (.root (.ofString text)
      (.node (namedLabel "import_statement" none 0 text.length)
        [.node (namedLabel "import_clause" none 7 nameEnd)
            [.node (namedLabel "identifier" none 7 nameEnd) []],
          .node (namedLabel "string" (some "source") (nameEnd + 6) text.length) []]))

/-- The name at the start of `x.click`. -/
def clickedObject (name : String) : Node where
  source := .ofString (name ++ ".click")
  focus := .node (namedLabel "identifier" (some "object") 0 name.length) []
  above :=
    [{ label := namedLabel "member_expression" none 0 (name.length + 6)
       before := []
       after :=
        [.node
          (namedLabel "property_identifier" (some "property") (name.length + 1)
            (name.length + 6))
          []] }]

/-- The property of `x.click`. -/
def clickOn (name : String) : Node where
  source := .ofString (name ++ ".click")
  focus :=
    .node
      (namedLabel "property_identifier" (some "property") (name.length + 1)
        (name.length + 6))
      []
  above :=
    [{ label := namedLabel "member_expression" none 0 (name.length + 6)
       before := [.node (namedLabel "identifier" (some "object") 0 name.length) []]
       after := [] }]

/-- Two imports of the user-event object, under different names. -/
def twoObjects : List Observation :=
  [defaultImport "first" Vocabulary.userEventModule,
    defaultImport "second" Vocabulary.userEventModule]

/-- Of two names of the object, the second is found by its methods and the first is not. -/
theorem second_object_is_found :
    let view := View.after Settings.default twoObjects false
    (∀ name ∈ ["first", "second"],
        view.imports.binding? name =
            some ⟨Vocabulary.userEventModule, "default", .default⟩ ∧
          IsPropertyUse (clickOn name) name "click") ∧
      FindsMethodsOn Settings.default (boundBy twoObjects) "second" ∧
      (view.category (clickOn "second") = .userEventMethod ∨
        view.category (clickOn "second") = .render ∨
        ∃ waits, view.category (clickOn "second") = .asyncUtil waits) ∧
      ¬ FindsMethodsOn Settings.default (boundBy twoObjects) "first" ∧
      view.category (clickOn "first") ≠ .userEventMethod := by
  intro view
  have stands :
      ∀ name ∈ ["first", "second"],
        view.imports.binding? name =
          some ⟨Vocabulary.userEventModule, "default", .default⟩ := by
    decide +kernel
  have isObject :
      CanonicalBinding.IsUserEventObject
        ⟨Vocabulary.userEventModule, "default", .default⟩ :=
    ⟨rfl, by decide⟩
  have remembered : view.userEventName? = some "second" := by
    decide +kernel
  have firstUsed : IsPropertyUse (clickOn "first") "first" "click" :=
    ⟨rfl, ⟨_, clickedObject "first", rfl, rfl, by decide +kernel⟩, by decide +kernel⟩
  have secondUsed : IsPropertyUse (clickOn "second") "second" "click" :=
    ⟨rfl, ⟨_, clickedObject "second", rfl, rfl, by decide +kernel⟩, by decide +kernel⟩
  have firstStands := stands "first" (by simp)
  have secondStands := stands "second" (by simp)
  have secondFound : FindsMethodsOn Settings.default (boundBy twoObjects) "second" :=
    (userEventName?_eq_some_iff secondStands isObject).mp remembered
  have firstNotFound : ¬ FindsMethodsOn Settings.default (boundBy twoObjects) "first" := by
    intro found
    have other : view.userEventName? = some "first" :=
      (userEventName?_eq_some_iff firstStands isObject).mpr found
    have same : some "second" = some "first" := remembered.symm.trans other
    revert same
    decide
  refine ⟨by simpa using ⟨⟨firstStands, firstUsed⟩, secondStands, secondUsed⟩,
    secondFound, ?_, firstNotFound, ?_⟩
  · exact (methods_are_found_on_one_name Settings.default twoObjects false secondStands
      isObject secondUsed (by decide) (by decide)).1 secondFound
  · exact (methods_are_found_on_one_name Settings.default twoObjects false firstStands
      isObject firstUsed (by decide) (by decide)).2 firstNotFound

/--
An import of the object under a second name stops the methods of the first from
being recognised, though that name still stands for the object; and so it stays
when a foreign module takes the second name.
-/
theorem second_object_hides_first :
    let overtaken := View.after Settings.default twoObjects false
    let takenOver :=
      View.after Settings.default (twoObjects ++ [defaultImport "second" "lodash"]) false
    IsPropertyUse (clickOn "first") "first" "click" ∧
      overtaken.imports.binding? "first" =
        some ⟨Vocabulary.userEventModule, "default", .default⟩ ∧
      overtaken.category (clickOn "first") = .unrelated ∧
      takenOver.imports.binding? "first" =
        some ⟨Vocabulary.userEventModule, "default", .default⟩ ∧
      takenOver.category (clickOn "first") = .unrelated := by
  refine ⟨?_, by decide +kernel⟩
  exact ⟨rfl, ⟨_, clickedObject "first", rfl, rfl, by decide +kernel⟩, by decide +kernel⟩

end Example

end UsageLint.Usage
