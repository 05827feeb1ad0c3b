import UsageLint.Proofs.Counterparts
import UsageLint.Usage.Predicate

namespace UsageLint.Usage

open UsageLint.Syntax
open UsageLint.Imports

/-!
# When all answers are the same

Whatever is asked of an identifier is answered from little: the settings, the
names it is resolved to, whether it is a method of the user-event object, and
whether it hangs on the console. Here two identifiers, each in a view of its
own, are compared: where the little agrees, so do all the answers.
-/

/-- The functions of the library that an identifier is compared with. -/
def functionNames : List (List String) :=
  [Vocabulary.asyncUtils, [Vocabulary.fireEventName], Vocabulary.debugUtils,
    [Vocabulary.actName]]

/-- The tests that either name of an identifier may pass. -/
def nameTests (settings : Settings) : List (String → Bool) :=
  [settings.customQueries.contains,
    Vocabulary.continuesOne Vocabulary.getPrefixes,
    Vocabulary.continuesOne Vocabulary.queryPrefixes,
    Vocabulary.continuesOne Vocabulary.asyncPrefixes,
    Vocabulary.isBuiltInQueryName,
    Vocabulary.isSyncQueryName,
    Vocabulary.isAsyncQueryName]

/-- Whether an identifier is a property of the console. -/
def onConsole (node : Node) : Bool :=
  ((memberOf? node).bind (·.field? "object")).any
    (isPlainIdentifier · Vocabulary.consoleName)

/-- Whether two identifiers are known by the same names, as far as is asked. -/
structure Resolved.Agree (settings : Settings) (first second : Resolved) : Prop where
  standing : second.standing = first.standing
  render :
    ∀ state,
      View.isNamedLikeRender ⟨settings, state⟩ second =
        View.isNamedLikeRender ⟨settings, state⟩ first
  functions :
    ∀ names ∈ functionNames, second.namedIn? names = first.namedIn? names
  tests :
    ∀ test ∈ nameTests settings, second.either test = first.either test

/-- A resolved name agrees with itself. -/
theorem Resolved.Agree.refl (settings : Settings) (resolved : Resolved) :
    resolved.Agree settings resolved :=
  ⟨rfl, fun _ => rfl, fun _ _ => rfl, fun _ _ => rfl⟩

/-- All that is answered from the names of an identifier. -/
structure Answers where
  category : Category
  isFireEventUtil : Bool
  isDebugUtil : Bool
  isActUtil : Bool
  isBuiltInQuery : Bool
  isSyncQuery : Bool
  isAsyncQuery : Bool
deriving Repr, DecidableEq

/-- The answers for a node. -/
def View.answers (view : View) (node : Node) : Answers :=
  { category := view.category node
    isFireEventUtil := view.isFireEventUtil node
    isDebugUtil := view.isDebugUtil node
    isActUtil := view.isActUtil node
    isBuiltInQuery := view.isBuiltInQuery node
    isSyncQuery := view.isSyncQuery node
    isAsyncQuery := view.isAsyncQuery node }

namespace View

theorem isDebugUtil_eq (view : View) (node : Node) :
    view.isDebugUtil node =
      (!onConsole node && view.isFunction node Vocabulary.debugUtils) :=
  rfl

/-- Only identifiers are resolved. -/
theorem kind_of_resolve?
    {view : View}
    {node : Node}
    {resolved : Resolved}
    (found : view.resolve? node = some resolved) :
    node.kind = .identifier := by
  unfold resolve? at found
  split at found
  · next identifier =>
      exact beq_iff_eq.mp identifier
  · cases found

section Congruence

variable
  {settings : Settings}
  {firstState secondState : FileState}
  {firstNode secondNode : Node}

/-- Names that agree are both potential uses or both not. -/
theorem isPotential_congr
    {first second : Resolved}
    (agree : first.Agree settings second) :
    isPotential ⟨settings, secondState⟩ second =
      isPotential ⟨settings, firstState⟩ first := by
  simp only [isPotential, agree.standing]

/-- Identifiers known by the same names pass the same checks. -/
theorem category?_congr
    {first second : Resolved}
    (agree : first.Agree settings second)
    (userEvent :
      isMethodOfUserEvent ⟨settings, secondState⟩ secondNode =
        isMethodOfUserEvent ⟨settings, firstState⟩ firstNode)
    (check : CallCheck) :
    check.category? ⟨settings, secondState⟩ secondNode second =
      check.category? ⟨settings, firstState⟩ firstNode first := by
  have potential :
      isPotential ⟨settings, secondState⟩ second =
        isPotential ⟨settings, firstState⟩ first := isPotential_congr agree
  have tests := agree.tests
  simp only [nameTests, List.forall_mem_cons] at tests
  cases check with
  | render =>
      have named :
          isNamedLikeRender ⟨settings, secondState⟩ second =
            isNamedLikeRender ⟨settings, firstState⟩ first :=
        agree.render secondState
      simp only [CallCheck.category?, named, potential]
  | asyncUtil =>
      have named := agree.functions Vocabulary.asyncUtils (by simp [functionNames])
      simp only [CallCheck.category?, named, potential]
  | userEventMethod =>
      simp only [CallCheck.category?, userEvent]
  | customQuery | getQuery | queryQuery | findQuery =>
      simp only [CallCheck.category?, tests]

variable
  (agree :
    Option.Rel (Resolved.Agree settings)
      (resolve? ⟨settings, firstState⟩ firstNode)
      (resolve? ⟨settings, secondState⟩ secondNode))

include agree

theorem isFunction_congr
    {names : List String}
    (asked : names ∈ functionNames) :
    isFunction ⟨settings, secondState⟩ secondNode names =
      isFunction ⟨settings, firstState⟩ firstNode names := by
  refine any_eq_of_rel agree ?_
  intro first second same
  have potential :
      isPotential ⟨settings, secondState⟩ second =
        isPotential ⟨settings, firstState⟩ first := isPotential_congr same
  rw [same.functions names asked, potential]

theorem isNamedBy_congr
    {test : String → Bool}
    (asked : test ∈ nameTests settings) :
    isNamedBy ⟨settings, secondState⟩ secondNode test =
      isNamedBy ⟨settings, firstState⟩ firstNode test :=
  any_eq_of_rel agree fun _ _ same => same.tests test asked

/--
A call has the same category where the same names are asked for and the user-event object is
alike.
-/
theorem callCategory_congr
    (userEvent :
      isMethodOfUserEvent ⟨settings, secondState⟩ secondNode =
        isMethodOfUserEvent ⟨settings, firstState⟩ firstNode) :
    callCategory ⟨settings, secondState⟩ secondNode =
      callCategory ⟨settings, firstState⟩ firstNode := by
  unfold callCategory
  rcases rel_cases agree with
    ⟨missing, otherMissing⟩ | ⟨first, second, found, otherFound, same⟩
  · rw [missing, otherMissing]
  · simp only [found, otherFound, category?_congr same userEvent]

/--
Nodes of one kind, resolved to names that agree, get the same answers; of those
that are no identifiers the assertions must agree.
-/
theorem answers_congr
    (kinds : secondNode.kind = firstNode.kind)
    (assertions :
      firstNode.kind = .memberExpression →
      assertion secondNode = assertion firstNode)
    (userEvent :
      isMethodOfUserEvent ⟨settings, secondState⟩ secondNode =
        isMethodOfUserEvent ⟨settings, firstState⟩ firstNode)
    (console : onConsole secondNode = onConsole firstNode) :
    answers ⟨settings, secondState⟩ secondNode =
      answers ⟨settings, firstState⟩ firstNode := by
  have function :
      ∀ names ∈ functionNames,
        isFunction ⟨settings, secondState⟩ secondNode names =
          isFunction ⟨settings, firstState⟩ firstNode names :=
    fun _ => isFunction_congr agree
  have named :
      ∀ test ∈ nameTests settings,
        isNamedBy ⟨settings, secondState⟩ secondNode test =
          isNamedBy ⟨settings, firstState⟩ firstNode test :=
    fun _ => isNamedBy_congr agree
  have sameCategory :
      category ⟨settings, secondState⟩ secondNode =
        category ⟨settings, firstState⟩ firstNode := by
    unfold category
    rw [kinds]
    split
    · exact callCategory_congr agree userEvent
    · next isMember =>
        exact assertions isMember
    · rfl
  simp only [functionNames, nameTests, List.forall_mem_cons] at function named
  simp only [answers, sameCategory, isDebugUtil_eq, console, isFireEventUtil,
    isActUtil, isBuiltInQuery, isSyncQuery, isAsyncQuery, function, named]

end Congruence

/-- Identifiers known by the same names get the same answers. -/
theorem answers_congr_of_resolve?
    {settings : Settings}
    {firstState secondState : FileState}
    {firstNode secondNode : Node}
    {first second : Resolved}
    (firstFound : resolve? ⟨settings, firstState⟩ firstNode = some first)
    (secondFound : resolve? ⟨settings, secondState⟩ secondNode = some second)
    (agree : first.Agree settings second)
    (userEvent :
      isMethodOfUserEvent ⟨settings, secondState⟩ secondNode =
        isMethodOfUserEvent ⟨settings, firstState⟩ firstNode)
    (console : onConsole secondNode = onConsole firstNode) :
    answers ⟨settings, secondState⟩ secondNode =
      answers ⟨settings, firstState⟩ firstNode := by
  have firstKind := kind_of_resolve? firstFound
  have secondKind := kind_of_resolve? secondFound
  refine answers_congr ?_ (secondKind.trans firstKind.symm) ?_ userEvent console
  · rw [firstFound, secondFound]
    exact .some agree
  · intro isMember
    rw [firstKind] at isMember
    cases isMember

end View

/-- Every question is answered from the answers, or is about dispatched events. -/
theorem Predicate.holds_congr
    {first second : View}
    {firstNode secondNode : Node}
    (same : second.answers secondNode = first.answers firstNode)
    (dispatched :
      second.isFireEventMethod secondNode = first.isFireEventMethod firstNode)
    (predicate : Predicate) :
    predicate.holds second secondNode = predicate.holds first firstNode := by
  simp only [View.answers, Answers.mk.injEq] at same
  cases predicate <;> simp only [holds, View.asyncUtilName?, same, dispatched]

end UsageLint.Usage
