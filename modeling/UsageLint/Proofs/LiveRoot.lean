import UsageLint.Proofs.DocumentOrder
import UsageLint.Proofs.ImportHistory
import UsageLint.Usage.Predicate

namespace UsageLint.Usage

open UsageLint.Syntax
open UsageLint.Imports

/-!
# What a recognised use is rooted in

Detection comes to the imports on several ways: by the name of an identifier,
by the start of the chain that a property hangs on, by the name of the
user-event object, and by the nodes around a dispatched event. All of them end
at one identifier, the root of the use, and a use is recognised only if the
last binding of that identifier allows it.
-/

/--
The identifier that a use is rooted in: where the chain of a property starts,
and any other identifier itself.
-/
def useRoot? (node : Node) : Option Node :=
  match memberOf? node with
  | some member => (member.field? "object").bind chainStart?
  | none => some node

/-- Whether a category stands for a function of the library or a user event. -/
def Category.IsLibraryUse : Category → Prop
  | render | asyncUtil _ | userEventMethod => True
  | _ => False

/-- Where a root comes from; a use without one is unbound. -/
def rootStanding (imports : Tracker) (root : Option Node) : Standing :=
  match root with
  | some root => standingOf imports root.text
  | none => .unbound

namespace View

/--
Whether a node is recognised as a function of the library or as what is called
of one.
-/
def Recognises (view : View) (node : Node) : Prop :=
  (view.category node).IsLibraryUse ∨
    view.isFireEventUtil node = true ∨
    view.isFireEventMethod node = true ∨
    view.isDebugUtil node = true ∨
    view.isActUtil node = true

/--
Whether the imports allow a use: its root is not foreign and, unless unbound
names count as the library's, there is a root and it is bound.
-/
structure Allows (view : View) (node : Node) : Prop where
  notForeign :
    ∀ root,
      useRoot? node = some root →
      view.imports.isForeign root.text = false
  bound :
    view.settings.aggressiveModules = false →
    ∃ root,
      useRoot? node = some root ∧
        (view.imports.binding? root.text).isSome = true

/-- A root allows a use if it is not foreign and, where it must be, bound. -/
theorem Allows.of_root
    {view : View}
    {node root : Node}
    (rooted : useRoot? node = some root)
    (notForeign : view.imports.isForeign root.text = false)
    (bound :
      view.settings.aggressiveModules = false →
      (view.imports.binding? root.text).isSome = true) :
    view.Allows node where
  notForeign other same := by
    cases rooted.symm.trans same
    exact notForeign
  bound strict :=
    ⟨root, rooted, bound strict⟩

/-- Uses of the same root are allowed together. -/
theorem Allows.of_same_root
    {view : View}
    {first second : Node}
    (allowed : view.Allows first)
    (same : useRoot? second = useRoot? first) :
    view.Allows second where
  notForeign root rooted :=
    allowed.notForeign root (same ▸ rooted)
  bound strict := by
    rw [same]
    exact allowed.bound strict

/-- What reachable imports say of names: none is both, and user events are bound. -/
structure Consistent (view : View) : Prop where
  exclusive :
    ∀ name,
      ¬ ((view.imports.binding? name).isSome = true ∧
          view.imports.isForeign name = true)
  userEvent :
    ∀ name,
      view.imports.userEventName = some name →
      (view.imports.binding? name).isSome = true

end View

/-- The start of a chain is found step by step. -/
theorem chainStart?_eq (node : Node) :
    chainStart? node =
      if node.rawKind = "identifier" then
        some node
      else
        (towardStart? node).bind chainStart? := by
  rw [chainStart?]
  split
  · rfl
  · split
    · next next stepped =>
        simp [stepped]
    · next ended =>
        simp [ended]

theorem chainStart?_of_identifier
    {node : Node}
    (identifier : node.rawKind = "identifier") :
    chainStart? node = some node := by
  rw [chainStart?_eq, if_pos identifier]

theorem chainStart?_of_member
    {node : Node}
    (member : node.rawKind = "member_expression") :
    chainStart? node = (node.field? "object").bind chainStart? := by
  rw [chainStart?_eq, member]
  simp [towardStart?, member]

/-- An object is not the property of the access it is the object of. -/
theorem memberOf?_of_object
    {member object : Node}
    (held : member.field? "object" = some object) :
    memberOf? object = none := by
  have field := Node.label_field_of_field? held
  have notProperty : object.isFieldOfParent "property" = false := by
    unfold Node.isFieldOfParent
    split
    · rfl
    · simp [field]
  simp [memberOf?, notProperty]

theorem memberOf?_of_property
    {member property : Node}
    (isMember : member.isKind .memberExpression = true)
    (held : member.field? "property" = some property) :
    memberOf? property = some member := by
  simp [memberOf?, Node.parent?_of_field? held, isMember,
    Node.isFieldOfParent_of_field? held]

section Roots

variable {node member object property : Node}

/-- A property of a plain name is rooted in that name, as the name itself is. -/
theorem useRoot?_of_object
    (isMember : memberOf? node = some member)
    (held : member.field? "object" = some object)
    (identifier : object.rawKind = "identifier") :
    useRoot? node = some object ∧ useRoot? object = some object := by
  constructor
  · simp [useRoot?, isMember, held, chainStart?_of_identifier identifier]
  · simp [useRoot?, memberOf?_of_object held]

/-- A property of an access is rooted where the property of that access is. -/
theorem useRoot?_of_inner_property
    (isMember : memberOf? node = some member)
    (held : member.field? "object" = some object)
    (isAccess : object.rawKind = "member_expression")
    (inner : object.field? "property" = some property) :
    useRoot? property = useRoot? node := by
  have isMemberKind : object.isKind .memberExpression = true := by
    simp [Node.isKind, Node.kind, isAccess, Kind.ofGrammar]
  simp [useRoot?, isMember, held, chainStart?_of_member isAccess,
    memberOf?_of_property isMemberKind inner]

end Roots

namespace View

variable
  {view : View}
  {node : Node}
  {resolved : Resolved}

/-- An identifier that is resolved stands as its root does. -/
theorem standing_of_resolve?
    (found : view.resolve? node = some resolved) :
    resolved.standing = rootStanding view.imports (useRoot? node) := by
  unfold resolve? at found
  unfold useRoot?
  cases isMember : memberOf? node with
  | some member =>
      simp only [isMember] at found
      split at found
      · cases found
        rfl
      · cases found
  | none =>
      simp only [isMember] at found
      split at found
      · split at found
        · cases found
        · cases found
          rfl
      · cases found

/-- What may be the library's is allowed by its root. -/
theorem allows_of_isPotential
    (consistent : view.Consistent)
    (found : view.resolve? node = some resolved)
    (potential : view.isPotential resolved = true) :
    view.Allows node := by
  have standing := standing_of_resolve? found
  cases rooted : useRoot? node with
  | none =>
      -- Nothing is known of a chain without a start.
      rw [rooted] at standing
      have aggressive : view.settings.aggressiveModules = true := by
        simpa [isPotential, standing, rootStanding] using potential
      exact {
        notForeign := by simp [rooted]
        bound := by simp [aggressive] }
  | some root =>
      rw [rooted] at standing
      by_cases isBound : (view.imports.binding? root.text).isSome = true
      · have notForeign : view.imports.isForeign root.text = false :=
          Bool.eq_false_iff.mpr fun foreign =>
            consistent.exclusive root.text ⟨isBound, foreign⟩
        exact .of_root rooted notForeign fun _ => isBound
      · have notForeign : view.imports.isForeign root.text = false := by
          refine Bool.eq_false_iff.mpr fun foreign => ?_
          simp [isPotential, standing, rootStanding, standingOf, isBound,
            foreign] at potential
        have aggressive : view.settings.aggressiveModules = true := by
          simpa [isPotential, standing, rootStanding, standingOf, isBound,
            notForeign] using potential
        exact .of_root rooted notForeign fun strict => by
          simp [aggressive] at strict

theorem allows_of_isFunction
    {names : List String}
    (consistent : view.Consistent)
    (function : view.isFunction node names = true) :
    view.Allows node := by
  obtain ⟨resolved, found, named⟩ := (Option.any_eq_true _ _).mp function
  simp only [Bool.and_eq_true] at named
  exact allows_of_isPotential consistent found named.2

/-- A method of the user-event object is allowed by that object. -/
theorem allows_of_isMethodOfUserEvent
    (consistent : view.Consistent)
    (method : view.isMethodOfUserEvent node = true) :
    view.Allows node := by
  unfold isMethodOfUserEvent at method
  split at method
  · next userEvent member named isMember =>
      simp only [Bool.and_eq_true, Bool.not_eq_true', bne_iff_ne] at method
      obtain ⟨⟨_, onObject⟩, notForeign⟩ := method
      obtain ⟨object, held, plain⟩ := (Option.any_eq_true _ _).mp onObject
      simp only [isPlainIdentifier, Bool.and_eq_true, beq_iff_eq] at plain
      have rooted : useRoot? node = some object := by
        simp [useRoot?, isMember, held, chainStart?_of_identifier plain.1]
      apply Allows.of_root rooted
      · rw [plain.2]
        exact notForeign
      · intro strict
        rw [plain.2]
        apply consistent.userEvent
        simpa [userEventName?, strict] using named
  · cases method

/-- What a dispatched event is called of allows it. -/
theorem allows_of_isFireEventMethod
    (consistent : view.Consistent)
    (dispatched : view.isFireEventMethod node = true) :
    view.Allows node := by
  unfold isFireEventMethod at dispatched
  split at dispatched
  case isFalse =>
    cases dispatched
  split at dispatched
  · -- The function is called directly.
    simp only [Bool.and_eq_true] at dispatched
    exact allows_of_isFunction consistent dispatched.2
  · next member isMember =>
      split at dispatched
      case isFalse =>
        cases dispatched
      split at dispatched
      · cases dispatched
      · next object held =>
          split at dispatched
          · next identifier =>
              -- The object is the function, under whatever name.
              obtain ⟨ofNode, ofObject⟩ := useRoot?_of_object isMember held identifier
              exact
                (allows_of_isFunction consistent dispatched).of_same_root
                  (ofNode.trans ofObject.symm)
          · next isAccess =>
              -- The function is itself a property, of a chain with the same start.
              obtain ⟨property, heldProperty, function⟩ :=
                (Option.any_eq_true _ _).mp dispatched
              exact
                (allows_of_isFunction consistent function).of_same_root
                  (useRoot?_of_inner_property isMember held isAccess heldProperty).symm
          · cases dispatched

/-- The category of an identifier is given by a check that succeeds. -/
theorem exists_check_of_callCategory
    {category : Category}
    (given : view.callCategory node = category)
    (related : category ≠ .unrelated) :
    ∃ check resolved,
      view.resolve? node = some resolved ∧
        CallCheck.category? check view node resolved = some category := by
  unfold callCategory at given
  split at given
  · exact (related given.symm).elim
  · next resolved found =>
      cases first :
          CallCheck.precedence.findSome? fun check =>
            check.category? view node resolved with
      | none =>
          rw [first] at given
          exact (related given.symm).elim
      | some decided =>
          rw [first] at given
          obtain ⟨check, _, succeeds⟩ := List.exists_of_findSome?_eq_some first
          exact ⟨check, resolved, found, given ▸ succeeds⟩

/-- The checks for functions and methods of the library look at the root. -/
theorem allows_of_category?
    {check : CallCheck}
    {category : Category}
    (consistent : view.Consistent)
    (found : view.resolve? node = some resolved)
    (succeeds : check.category? view node resolved = some category)
    (ofLibrary : category.IsLibraryUse) :
    view.Allows node := by
  cases check with
  | render =>
      have potential : view.isPotential resolved = true := by
        simp only [CallCheck.category?] at succeeds
        grind
      exact allows_of_isPotential consistent found potential
  | asyncUtil =>
      have potential : view.isPotential resolved = true := by
        simp only [CallCheck.category?] at succeeds
        grind
      exact allows_of_isPotential consistent found potential
  | userEventMethod =>
      have method : view.isMethodOfUserEvent node = true := by
        simp only [CallCheck.category?] at succeeds
        grind
      exact allows_of_isMethodOfUserEvent consistent method
  | customQuery | getQuery | queryQuery | findQuery =>
      -- The other checks give other categories.
      simp only [CallCheck.category?] at succeeds
      grind [Category.IsLibraryUse]

theorem not_isLibraryUse_assertion (node : Node) :
    ¬ (assertion node).IsLibraryUse := by
  unfold assertion assertionOf
  grind [Category.IsLibraryUse]

/-- What is recognised is allowed by its root. -/
theorem allows_of_recognises
    (consistent : view.Consistent)
    (recognised : view.Recognises node) :
    view.Allows node := by
  rcases recognised with
    ofLibrary | fireEvent | dispatched | debugs | acts
  · unfold category at ofLibrary
    split at ofLibrary
    · have related : view.callCategory node ≠ .unrelated := by
        intro unrelated
        rw [unrelated] at ofLibrary
        exact ofLibrary
      obtain ⟨check, resolved, found, succeeds⟩ :=
        exists_check_of_callCategory rfl related
      exact allows_of_category? consistent found succeeds ofLibrary
    · exact (not_isLibraryUse_assertion node ofLibrary).elim
    · exact ofLibrary.elim
  · exact allows_of_isFunction consistent fireEvent
  · exact allows_of_isFireEventMethod consistent dispatched
  · simp only [isDebugUtil, Bool.and_eq_true] at debugs
    exact allows_of_isFunction consistent debugs.2
  · exact allows_of_isFunction consistent acts

/-- What is reached by showing loads to a tracker is consistent. -/
theorem consistent_after
    (settings : Settings)
    (observations : List Observation)
    (finished : Bool) :
    Consistent ⟨settings, Tracker.after settings observations, finished⟩ where
  exclusive _ :=
    (Tracker.reflects_after settings observations).not_both
  userEvent _ :=
    Tracker.isSome_binding?_of_userEventName settings observations

/--
Whatever was loaded before, the root of a recognised use was not last bound by
a foreign module. Unless unbound names count as the library's, the use has a
root, the root is bound, and what bound it last was a module of the library's
family.
-/
theorem recognised_use_has_live_root
    (settings : Settings)
    (observations : List Observation)
    (finished : Bool)
    {node : Node}
    (recognised :
      Recognises ⟨settings, Tracker.after settings observations, finished⟩ node) :
    (∀ root last,
        useRoot? node = some root →
        lastBinding? (boundBy observations) root.text = some last →
        IsFamilyModule settings last.specifier) ∧
      (settings.aggressiveModules = false →
        ∃ root last,
          useRoot? node = some root ∧
            ((Tracker.after settings observations).binding? root.text).isSome =
              true ∧
            lastBinding? (boundBy observations) root.text = some last ∧
            IsFamilyModule settings last.specifier) := by
  have reflects := Tracker.reflects_after settings observations
  have allowed :=
    allows_of_recognises (consistent_after settings observations finished)
      recognised
  constructor
  · intro root last rooted lastBound
    exact reflects.family_of_not_foreign (allowed.notForeign root rooted)
      lastBound
  · intro strict
    obtain ⟨root, rooted, isBound⟩ := allowed.bound strict
    obtain ⟨last, lastBound, family⟩ := reflects.exists_last_of_bound isBound
    exact ⟨root, last, rooted, isBound, lastBound, family⟩

/-- A file that imports a whole module and dispatches an event through it. -/
def dispatchSource : Source :=
  .ofString "import * as rtl from '@testing-library/react';rtl.fireEvent.click(x)"

/-- The label of a named node of a tree without errors. -/
def namedLabel (kind : String) (field : Option String) (start stop : Nat) : Label :=
  { kind, field, start, stop
    named := true, isError := false, isMissing := false, hasError := false }

/-- The import of the whole module under the name `rtl`. -/
def dispatchImport : Node :=
  .root dispatchSource
    (.node (namedLabel "import_statement" none 0 46)
      [.node (namedLabel "import_clause" none 7 15)
          [.node (namedLabel "namespace_import" none 7 15)
            [.node (namedLabel "identifier" none 12 15) []]],
        .node (namedLabel "string" (some "source") 21 45) []])

/-- The name of the event, at the end of the chain that is called. -/
def dispatchedEvent : Node where
  source := dispatchSource
  focus := .node (namedLabel "property_identifier" (some "property") 60 65) []
  above :=
    [{ label := namedLabel "member_expression" (some "function") 46 65
       before :=
        [.node (namedLabel "member_expression" (some "object") 46 59)
          [.node (namedLabel "identifier" (some "object") 46 49) [],
            .node (namedLabel "property_identifier" (some "property") 50 59) []]]
       after := [] },
      { label := namedLabel "call_expression" none 46 68
        before := []
        after := [.node (namedLabel "arguments" (some "arguments") 65 68) []] }]

/-- An event dispatched through a module is recognised by the module's name. -/
theorem dispatch_through_module_has_live_root :
    Recognises
        ⟨Settings.default.withCustomModule "test-utils",
          Tracker.after (Settings.default.withCustomModule "test-utils")
            [.declaration dispatchImport],
          false⟩
        dispatchedEvent ∧
      ∃ root last,
        useRoot? dispatchedEvent = some root ∧
          ((Tracker.after (Settings.default.withCustomModule "test-utils")
              [.declaration dispatchImport]).binding? root.text).isSome =
            true ∧
          lastBinding? (boundBy [.declaration dispatchImport]) root.text =
            some last ∧
          IsFamilyModule (Settings.default.withCustomModule "test-utils")
            last.specifier := by
  have recognised :
      Recognises
        ⟨Settings.default.withCustomModule "test-utils",
          Tracker.after (Settings.default.withCustomModule "test-utils")
            [.declaration dispatchImport],
          false⟩
        dispatchedEvent :=
    Or.inr (Or.inr (Or.inl (by decide +kernel)))
  exact ⟨recognised, (recognised_use_has_live_root _ _ _ recognised).2 rfl⟩

end View

end UsageLint.Usage
