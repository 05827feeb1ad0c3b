import UsageLint.Proofs.LiveRoot
import UsageLint.Proofs.SameAnswers

namespace UsageLint.Imports

/-- Settings with the same custom module track imports alike. -/
theorem Tracker.after_congr
    {first second : Settings}
    (same : second.customModule = first.customModule)
    (observations : List Observation) :
    after second observations = after first observations := by
  have customs :
      ∀ specifier,
        isCustomModule specifier second = isCustomModule specifier first := by
    intro specifier
    simp only [isCustomModule, same]
  have classes :
      ∀ specifier, ModuleClass.of specifier second = .of specifier first := by
    intro specifier
    simp only [ModuleClass.of, customs]
  have steps : observe second = observe first := by
    funext tracker observation
    simp only [observe_eq, record, noteCustomModule, customs, classes]
  simp only [after, steps]

end UsageLint.Imports

namespace UsageLint.Usage

open UsageLint.Syntax
open UsageLint.Imports

/-!
# What leaving a key out widens

Without a utils module every unbound name counts, and without custom renders so
does every name that contains `render`. Both make some checks succeed where they
failed before, and as the first check that succeeds decides, an earlier success
could hide what a later check used to say. It does so only in the intended way:
what was recognised stays what it was, and whatever changes becomes one of the
categories that the key is about.
-/

/--
Whether a node that has one of some categories keeps it, and any other either
keeps its category as well or gets one of these.
-/
structure View.Widens
    (isAdded : Category → Prop)
    (strict wide : View)
    (node : Node) : Prop where
  keeps :
    isAdded (strict.category node) →
    wide.category node = strict.category node
  adds :
    wide.category node ≠ strict.category node →
    isAdded (wide.category node)

/-- The category of the first of some checks that succeeds. -/
def firstCategory?
    (checks : List CallCheck)
    (view : View)
    (node : Node)
    (resolved : Resolved) :
    Option Category :=
  checks.findSome? fun check => check.category? view node resolved

/-- The categories that a check may give. -/
def CallCheck.Gives : CallCheck → Category → Prop
  | render, category => category = .render
  | asyncUtil, category => ∃ name, category = .asyncUtil name
  | userEventMethod, category => category = .userEventMethod
  | customQuery, category => category = .customQuery
  | getQuery, category => category = .getQuery
  | queryQuery, category => category = .queryQuery
  | findQuery, category => category = .findQuery

theorem CallCheck.gives_of_category?
    {check : CallCheck}
    {view : View}
    {node : Node}
    {resolved : Resolved}
    {category : Category}
    (succeeds : check.category? view node resolved = some category) :
    check.Gives category := by
  cases check with
  | asyncUtil =>
      simp only [category?, Option.ite_none_right_eq_some,
        Option.map_eq_some_iff] at succeeds
      obtain ⟨_, name, _, rfl⟩ := succeeds
      exact ⟨name, rfl⟩
  | render | userEventMethod | customQuery | getQuery | queryQuery | findQuery =>
      simp only [category?, Option.ite_none_right_eq_some] at succeeds
      exact (Option.some.inj succeeds.2).symm

theorem exists_gives_of_firstCategory?
    {checks : List CallCheck}
    {view : View}
    {node : Node}
    {resolved : Resolved}
    {category : Category}
    (given : firstCategory? checks view node resolved = some category) :
    ∃ check ∈ checks, check.Gives category := by
  obtain ⟨check, among, succeeds⟩ := List.exists_of_findSome?_eq_some given
  exact ⟨check, among, CallCheck.gives_of_category? succeeds⟩

namespace View

/-- The checks may be made in two rounds. -/
theorem category_of_resolve?
    {view : View}
    {node : Node}
    {resolved : Resolved}
    {early late : List CallCheck}
    (rounds : CallCheck.precedence = early ++ late)
    (found : view.resolve? node = some resolved) :
    view.category node =
      ((firstCategory? early view node resolved).or
        (firstCategory? late view node resolved)).getD .unrelated := by
  have isIdentifier : node.kind = .identifier := kind_of_resolve? found
  simp only [category, isIdentifier, callCategory, found, rounds, firstCategory?,
    List.findSome?_append]

/-- A category that the late round does not give comes from the early one. -/
theorem exists_early_of_isAdded
    {isAdded : Category → Prop}
    {view : View}
    {node : Node}
    {resolved : Resolved}
    {early? : Option Category}
    {late : List CallCheck}
    (late_notAdded :
      ∀ check ∈ late, ∀ category, check.Gives category → ¬ isAdded category)
    (unrelated_notAdded : ¬ isAdded .unrelated)
    (added :
      isAdded ((early?.or (firstCategory? late view node resolved)).getD .unrelated)) :
    ∃ given, early? = some given := by
  cases early? with
  | some given =>
      exact ⟨given, rfl⟩
  | none =>
      rw [Option.none_or] at added
      cases lateGiven : firstCategory? late view node resolved with
      | none =>
          rw [lateGiven] at added
          exact (unrelated_notAdded added).elim
      | some given =>
          rw [lateGiven] at added
          obtain ⟨check, among, gives⟩ := exists_gives_of_firstCategory? lateGiven
          exact (late_notAdded check among given gives added).elim

/--
If the categories in question are those of an early round, in which the wide
view succeeds where the strict one does, and a late round is the same in both
views, then the wide view widens these categories and no others.
-/
theorem Widens.of_rounds
    {isAdded : Category → Prop}
    {strict wide : View}
    {node : Node}
    (early late : List CallCheck)
    (rounds : CallCheck.precedence = early ++ late)
    (resolvedAlike : wide.resolve? node = strict.resolve? node)
    (early_isAdded :
      ∀ check ∈ early, ∀ category, check.Gives category → isAdded category)
    (late_notAdded :
      ∀ check ∈ late, ∀ category, check.Gives category → ¬ isAdded category)
    (unrelated_notAdded : ¬ isAdded .unrelated)
    (early_widens :
      ∀ resolved category,
        strict.resolve? node = some resolved →
        firstCategory? early strict node resolved = some category →
        firstCategory? early wide node resolved = some category)
    (late_same :
      ∀ resolved,
        firstCategory? late wide node resolved =
          firstCategory? late strict node resolved) :
    Widens isAdded strict wide node := by
  cases found : strict.resolve? node with
  | none =>
      have same : wide.category node = strict.category node := by
        simp only [category, callCategory, resolvedAlike, found]
      exact ⟨fun _ => same, fun changed => (changed same).elim⟩
  | some resolved =>
      have strictCategory := category_of_resolve? rounds found
      have wideCategory := category_of_resolve? rounds (resolvedAlike.trans found)
      rw [late_same] at wideCategory
      constructor
      · intro added
        rw [strictCategory] at added
        obtain ⟨given, strictEarly⟩ :=
          exists_early_of_isAdded late_notAdded unrelated_notAdded added
        have wideEarly := early_widens resolved given found strictEarly
        rw [strictCategory, wideCategory, strictEarly, wideEarly]
      · intro changed
        cases wideEarly : firstCategory? early wide node resolved with
        | some given =>
            obtain ⟨check, among, gives⟩ := exists_gives_of_firstCategory? wideEarly
            rw [wideCategory, wideEarly]
            exact early_isAdded check among given gives
        | none =>
            -- What fails in the wide view fails in the strict one.
            have strictEarly : firstCategory? early strict node resolved = none := by
              rw [Option.eq_none_iff_forall_ne_some]
              intro given strictEarly
              rw [early_widens resolved given found strictEarly] at wideEarly
              cases wideEarly
            apply (changed _).elim
            rw [strictCategory, wideCategory, strictEarly, wideEarly]

end View

section ModuleKey

variable
  {settings : Settings}
  {state : FileState}
  {node : Node}
  {resolved : Resolved}

/-- A view in which only bound names count. -/
def boundOnly (settings : Settings) (state : FileState) : View :=
  ⟨{ settings with aggressiveModules := false }, state⟩

/-- The same view in which unbound names count as well. -/
def unboundToo (settings : Settings) (state : FileState) : View :=
  ⟨{ settings with aggressiveModules := true }, state⟩

theorem isPotential_unboundToo
    (potential : (boundOnly settings state).isPotential resolved = true) :
    (unboundToo settings state).isPotential resolved = true := by
  unfold View.isPotential at potential ⊢
  cases standing : resolved.standing with
  | family =>
      rfl
  | foreign =>
      simp [standing] at potential
  | unbound =>
      rfl

/-- Only what is unbound counts in one view and not in the other. -/
theorem isPotential_eq_of_bound
    (bound : resolved.standing ≠ .unbound) :
    (unboundToo settings state).isPotential resolved =
      (boundOnly settings state).isPotential resolved := by
  unfold View.isPotential
  cases standing : resolved.standing with
  | family =>
      rfl
  | foreign =>
      rfl
  | unbound =>
      exact (bound standing).elim

theorem isFunction_unboundToo
    {names : List String}
    (function : (boundOnly settings state).isFunction node names = true) :
    (unboundToo settings state).isFunction node names = true := by
  obtain ⟨resolved, found, named⟩ := (Option.any_eq_true _ _).mp function
  simp only [Bool.and_eq_true] at named
  refine (Option.any_eq_true _ _).mpr ⟨resolved, found, ?_⟩
  simp only [Bool.and_eq_true]
  exact ⟨named.1, isPotential_unboundToo named.2⟩

/-- A name that an import gave the user-event object is its name in both views. -/
theorem isMethodOfUserEvent_unboundToo
    (method : (boundOnly settings state).isMethodOfUserEvent node = true) :
    (unboundToo settings state).isMethodOfUserEvent node = true := by
  have sameName :
      ∀ name,
        (boundOnly settings state).userEventName? = some name →
        (unboundToo settings state).userEventName? = some name := by
    intro name given
    have imported : state.imports.userEventName = some name := by
      simpa [View.userEventName?, boundOnly, View.imports] using given
    simp [View.userEventName?, unboundToo, View.imports, imported]
  unfold View.isMethodOfUserEvent at method ⊢
  split at method
  · next userEvent member named isMember =>
      rw [sameName userEvent named, isMember]
      exact method
  · cases method

theorem isFireEventMethod_unboundToo
    (dispatched : (boundOnly settings state).isFireEventMethod node = true) :
    (unboundToo settings state).isFireEventMethod node = true := by
  have widened :
      ∀ other : Node,
        (boundOnly settings state).isFireEventUtil other = true →
        (unboundToo settings state).isFireEventUtil other = true :=
    fun _ => isFunction_unboundToo
  unfold View.isFireEventMethod at dispatched ⊢
  split at dispatched
  case isFalse =>
    cases dispatched
  next identifier =>
    rw [if_pos identifier]
    split at dispatched
    · simp only [Bool.and_eq_true] at dispatched ⊢
      exact ⟨dispatched.1, widened node dispatched.2⟩
    · split at dispatched
      case isFalse =>
        cases dispatched
      next called =>
        simp only [called, if_true]
        split at dispatched
        · cases dispatched
        · next object held =>
            split at dispatched
            · exact widened object dispatched
            · obtain ⟨property, heldProperty, function⟩ :=
                (Option.any_eq_true _ _).mp dispatched
              exact (Option.any_eq_true _ _).mpr
                ⟨property, heldProperty, widened property function⟩
            · cases dispatched

/-- The checks for functions of the library and user events, which come first. -/
def libraryChecks : List CallCheck :=
  [.render, .asyncUtil, .userEventMethod]

theorem isLibraryUse_of_gives
    {check : CallCheck}
    {category : Category}
    (among : check ∈ libraryChecks)
    (gives : check.Gives category) :
    category.IsLibraryUse := by
  simp only [libraryChecks, List.mem_cons, List.not_mem_nil, or_false] at among
  rcases among with rfl | rfl | rfl
  · cases gives
    trivial
  · obtain ⟨name, rfl⟩ := gives
    trivial
  · cases gives
    trivial

/-- What the early checks make of a bound name does not change. -/
theorem firstCategory?_unboundToo
    {category : Category}
    (consistent : (boundOnly settings state).Consistent)
    (found : (boundOnly settings state).resolve? node = some resolved)
    (given :
      firstCategory? libraryChecks (boundOnly settings state) node resolved =
        some category) :
    firstCategory? libraryChecks (unboundToo settings state) node resolved =
      some category := by
  -- A use that is recognised has a bound root, whatever check recognised it.
  have bound : resolved.standing ≠ .unbound := by
    obtain ⟨check, among, succeeds⟩ := List.exists_of_findSome?_eq_some given
    have ofLibrary : category.IsLibraryUse :=
      isLibraryUse_of_gives among (CallCheck.gives_of_category? succeeds)
    have allowed := View.allows_of_category? consistent found succeeds ofLibrary
    obtain ⟨root, rooted, isBound⟩ := allowed.bound rfl
    rw [View.standing_of_resolve? found, rooted, rootStanding, standingOf,
      if_pos isBound]
    simp
  have potential :
      (unboundToo settings state).isPotential resolved =
        (boundOnly settings state).isPotential resolved :=
    isPotential_eq_of_bound bound
  have sameRender :
      CallCheck.render.category? (unboundToo settings state) node resolved =
        CallCheck.render.category? (boundOnly settings state) node resolved := by
    simp only [CallCheck.category?, potential]
    rfl
  have sameAsync :
      CallCheck.asyncUtil.category? (unboundToo settings state) node resolved =
        CallCheck.asyncUtil.category? (boundOnly settings state) node resolved := by
    simp only [CallCheck.category?, potential]
  simp only [firstCategory?, libraryChecks, List.findSome?_cons, sameRender, sameAsync,
    List.findSome?_nil] at given ⊢
  split at given
  · exact given
  · split at given
    · exact given
    · split at given
      · next byUserEvent =>
          simp only [CallCheck.category?, Option.ite_none_right_eq_some] at byUserEvent
          simp only [CallCheck.category?,
            isMethodOfUserEvent_unboundToo byUserEvent.1, if_true]
          rw [← given]
          exact byUserEvent.2
      · cases given

/-- Letting unbound names count adds functions of the library and user events. -/
theorem widens_unboundToo (consistent : (boundOnly settings state).Consistent) :
    View.Widens Category.IsLibraryUse (boundOnly settings state)
      (unboundToo settings state) node := by
  apply View.Widens.of_rounds libraryChecks
    [.customQuery, .getQuery, .queryQuery, .findQuery]
  case rounds =>
    rfl
  case resolvedAlike =>
    rfl
  case early_isAdded =>
    exact fun _ among _ => isLibraryUse_of_gives among
  case late_notAdded =>
    intro check among category gives
    simp only [List.mem_cons, List.not_mem_nil, or_false] at among
    rcases among with rfl | rfl | rfl | rfl <;> cases gives <;> exact not_false
  case unrelated_notAdded =>
    exact not_false
  case early_widens =>
    exact fun _ _ => firstCategory?_unboundToo consistent
  case late_same =>
    intro resolved
    rfl

end ModuleKey

section RenderKey

variable
  {settings : Settings}
  {state : FileState}
  {node : Node}
  {resolved : Resolved}

/-- A view in which `render` alone is a render function. -/
def renderOnly (settings : Settings) (state : FileState) : View :=
  ⟨{ settings with customRenders := .empty, aggressiveRenders := false }, state⟩

/-- The same view in which whatever mentions `render` is one as well. -/
def renderLike (settings : Settings) (state : FileState) : View :=
  ⟨{ settings with customRenders := .empty, aggressiveRenders := true }, state⟩

/-- The name `render` mentions itself. -/
theorem isNamedLikeRender_renderLike
    (named : (renderOnly settings state).isNamedLikeRender resolved = true) :
    (renderLike settings state).isNamedLikeRender resolved = true := by
  have mentions : Vocabulary.mentionsRender Vocabulary.renderName = true := by
    decide +kernel
  have isRender : resolved.isNamed Vocabulary.renderName = true := by
    simpa [View.isNamedLikeRender, renderOnly, NameSet.empty] using named
  simp only [Resolved.isNamed, Bool.or_eq_true, beq_iff_eq] at isRender
  simp only [View.isNamedLikeRender, renderLike, if_true, Bool.or_eq_true, beq_iff_eq]
  rcases isRender with written | exported
  · left
    rw [written]
    exact mentions
  · exact .inr exported

/-- Matching render functions by likeness adds render functions only. -/
theorem widens_renderLike :
    View.Widens (· = .render) (renderOnly settings state) (renderLike settings state)
      node := by
  apply View.Widens.of_rounds [.render]
    [.asyncUtil, .userEventMethod, .customQuery, .getQuery, .queryQuery, .findQuery]
  case rounds =>
    rfl
  case resolvedAlike =>
    rfl
  case early_isAdded =>
    intro check among category gives
    cases List.mem_singleton.mp among
    exact gives
  case late_notAdded =>
    intro check among category gives isRender
    simp only [List.mem_cons, List.not_mem_nil, or_false] at among
    subst isRender
    rcases among with rfl | rfl | rfl | rfl | rfl | rfl <;>
      simp [CallCheck.Gives] at gives
  case unrelated_notAdded =>
    simp
  case early_widens =>
    intro resolved category found given
    obtain ⟨check, among, succeeds⟩ := List.exists_of_findSome?_eq_some given
    cases List.mem_singleton.mp among
    simp only [CallCheck.category?, Option.ite_none_right_eq_some,
      Bool.and_eq_true] at succeeds
    obtain ⟨⟨named, potential⟩, isRender⟩ := succeeds
    have stillNamed := isNamedLikeRender_renderLike named
    have stillPotential :
        (renderLike settings state).isPotential resolved = true := potential
    simp only [firstCategory?, List.findSome?_cons, CallCheck.category?, stillNamed,
      stillPotential, Bool.and_self, if_true]
    exact isRender
  case late_same =>
    intro resolved
    rfl

end RenderKey

namespace View

/-- What is known after a run of observations. -/
def after (settings : Settings) (observations : List Observation) (finished : Bool) :
    View :=
  ⟨settings, Tracker.after settings observations, finished⟩

/--
What counting unbound names does to a node: functions of the library and user
events stay what they are and some are added, functions that were recognised
still are, and nothing changes for queries.
-/
structure WidensModules (strict wide : View) (node : Node) : Prop where
  category : Widens Category.IsLibraryUse strict wide node
  fireEventUtil :
    strict.isFireEventUtil node = true → wide.isFireEventUtil node = true
  fireEventMethod :
    strict.isFireEventMethod node = true → wide.isFireEventMethod node = true
  debugUtil : strict.isDebugUtil node = true → wide.isDebugUtil node = true
  actUtil : strict.isActUtil node = true → wide.isActUtil node = true
  builtInQuery : wide.isBuiltInQuery node = strict.isBuiltInQuery node
  syncQuery : wide.isSyncQuery node = strict.isSyncQuery node
  asyncQuery : wide.isAsyncQuery node = strict.isAsyncQuery node

/--
What matching render functions by likeness does to a node: it may become a
render function, and no other answer changes.
-/
structure WidensRenders (strict wide : View) (node : Node) : Prop where
  category : Widens (· = .render) strict wide node
  answers :
    wide.answers node = { strict.answers node with category := wide.category node }
  fireEventMethod : wide.isFireEventMethod node = strict.isFireEventMethod node

end View

/--
Settings that differ in one key see the same imports. Where the key of the utils
module is left out, unbound names count and detection is widened by functions of
the library and user events; where the key of custom renders is left out instead
of being empty, it is widened by render functions alone.
-/
theorem leaving_keys_out_widens
    (settings : Settings)
    (observations : List Observation)
    (finished : Bool)
    (node : Node) :
    View.WidensModules
        (.after { settings with aggressiveModules := false } observations finished)
        (.after { settings with aggressiveModules := true } observations finished)
        node ∧
      View.WidensRenders
        (.after { settings with customRenders := .empty, aggressiveRenders := false }
          observations finished)
        (.after { settings with customRenders := .empty, aggressiveRenders := true }
          observations finished)
        node := by
  let state : FileState := ⟨.after settings observations, finished⟩
  have afterOther :
      ∀ other : Settings,
        other.customModule = settings.customModule →
        View.after other observations finished = ⟨other, state⟩ := by
    intro other same
    rw [View.after, Tracker.after_congr same observations]
  constructor
  · have strictView :
        View.after { settings with aggressiveModules := false } observations finished =
          boundOnly settings state := afterOther _ rfl
    have wideView :
        View.after { settings with aggressiveModules := true } observations finished =
          unboundToo settings state := afterOther _ rfl
    have consistent : (boundOnly settings state).Consistent :=
      strictView ▸ View.consistent_after _ observations finished
    rw [strictView, wideView]
    constructor
    case category =>
      exact widens_unboundToo consistent
    case fireEventUtil =>
      exact isFunction_unboundToo
    case fireEventMethod =>
      exact isFireEventMethod_unboundToo
    case debugUtil =>
      intro debugs
      rw [View.isDebugUtil_eq, Bool.and_eq_true] at debugs ⊢
      exact ⟨debugs.1, isFunction_unboundToo debugs.2⟩
    case actUtil =>
      exact isFunction_unboundToo
    case builtInQuery | syncQuery | asyncQuery =>
      rfl
  · have strictView :
        View.after
            { settings with customRenders := .empty, aggressiveRenders := false }
            observations finished =
          renderOnly settings state := afterOther _ rfl
    have wideView :
        View.after
            { settings with customRenders := .empty, aggressiveRenders := true }
            observations finished =
          renderLike settings state := afterOther _ rfl
    rw [strictView, wideView]
    constructor
    case category =>
      exact widens_renderLike
    case answers | fireEventMethod =>
      rfl

end UsageLint.Usage
