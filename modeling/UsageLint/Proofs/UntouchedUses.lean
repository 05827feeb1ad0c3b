import UsageLint.Proofs.EventDispatch

namespace UsageLint

open UsageLint.Syntax
open UsageLint.Imports
open UsageLint.Usage

/-!
# Uses that a load does not touch

Detection looks names up at several nodes around an identifier: at itself, at the
object it hangs on, at the function that a dispatched event is called of. All these
nodes share one root, and of the imports nothing is asked but what they say of the
root's name and which name stands for the user-event object. So a load that binds
other names leaves a use as it was.
-/

namespace Imports.Tracker

/-- Whether two trackers say the same of a name. -/
structure AgreeOn (name : String) (first second : Tracker) : Prop where
  binding : second.binding? name = first.binding? name
  foreign : second.isForeign name = first.isForeign name

theorem AgreeOn.refl (name : String) (tracker : Tracker) : AgreeOn name tracker tracker :=
  ⟨rfl, rfl⟩

/-- Binding one name leaves what is said of another. -/
theorem AgreeOn.bindSourced
    {settings : Settings}
    {name : String}
    {first second : Tracker}
    (agree : AgreeOn name first second)
    {sourced : SourcedBinding}
    (other : sourced.localName ≠ name) :
    AgreeOn name first (second.bindSourced settings sourced) where
  binding := by
    rw [binding?_bindSourced, if_neg other.symm, agree.binding]
  foreign := by
    rw [isForeign_bindSourced, if_neg other.symm, agree.foreign]

/-- What is shown to a tracker changes what it says of the names bound by that only. -/
theorem agreeOn_observe
    (settings : Settings)
    (tracker : Tracker)
    {observation : Observation}
    {name : String}
    (unbound : ∀ sourced ∈ observation.bound, sourced.localName ≠ name) :
    AgreeOn name tracker (tracker.observe settings observation) := by
  have atStart :
      (∀ sourced ∈ ([] : List SourcedBinding), sourced.localName ≠ name) →
        AgreeOn name tracker tracker :=
    fun _ => .refl name tracker
  refine holds_observe
    (motive := fun bound later =>
      (∀ sourced ∈ bound, sourced.localName ≠ name) → AgreeOn name tracker later)
    ?_ ?_ observation atStart unbound
  · intro bound later sourced agree unbound
    simp only [List.forall_mem_append, List.forall_mem_singleton] at unbound
    exact (agree unbound.1).bindSourced unbound.2
  · intro bound first second same agree unbound
    constructor
    · rw [binding?, same.family]
      exact (agree unbound).binding
    · rw [isForeign, same.foreign]
      exact (agree unbound).foreign

end Imports.Tracker

namespace Usage

/--
Whether imports say the same of a use: of the name that it is rooted in, and of
the name that stands for the user-event object.
-/
structure SameFor (node : Node) (first second : Tracker) : Prop where
  onRoot : ∀ root, useRoot? node = some root → first.AgreeOn root.text second
  userEvent : second.userEventName = first.userEventName

/-- What is said of one use is said of all uses with its root. -/
theorem SameFor.of_same_root
    {node other : Node}
    {first second : Tracker}
    (same : SameFor node first second)
    (sameRoot : useRoot? other = useRoot? node) :
    SameFor other first second :=
  ⟨fun root rooted => same.onRoot root (sameRoot ▸ rooted), same.userEvent⟩

/-- A load that binds another name than the root's says nothing else of a use. -/
theorem sameFor_observe
    (settings : Settings)
    (tracker : Tracker)
    {observation : Observation}
    {node : Node}
    (unbound :
      ∀ root,
        useRoot? node = some root →
        ∀ sourced ∈ observation.bound, sourced.localName ≠ root.text)
    (sameObject :
      (tracker.observe settings observation).userEventName = tracker.userEventName) :
    SameFor node tracker (tracker.observe settings observation) :=
  ⟨fun root rooted => Tracker.agreeOn_observe settings tracker (unbound root rooted),
    sameObject⟩

section Names

variable
  {name : String}
  {first second : Tracker}
  (agree : first.AgreeOn name second)

include agree

theorem standingOf_of_agreeOn : standingOf second name = standingOf first name := by
  rw [standingOf, standingOf, agree.binding, agree.foreign]

theorem canonicalName_of_agreeOn :
    canonicalName second name = canonicalName first name := by
  rw [canonicalName, canonicalName, agree.binding]

theorem isModuleName_of_agreeOn : isModuleName second name = isModuleName first name := by
  rw [isModuleName, isModuleName, agree.binding]

end Names

namespace View

variable
  {settings : Settings}
  {state otherState : FileState}
  {node : Node}
  (same : SameFor node state.imports otherState.imports)

include same

/-- An identifier is resolved by what is said of its root. -/
theorem resolve?_of_sameFor :
    resolve? ⟨settings, otherState⟩ node = resolve? ⟨settings, state⟩ node := by
  have onRoot := same.onRoot
  unfold useRoot? at onRoot
  unfold resolve? imports
  cases isMember : memberOf? node with
  | none =>
      have agree := onRoot node (by rw [isMember])
      simp only [isModuleName_of_agreeOn agree, canonicalName_of_agreeOn agree,
        standingOf_of_agreeOn agree]
  | some member =>
      have standing :
          chainStanding otherState.imports (member.field? "object") =
            chainStanding state.imports (member.field? "object") := by
        unfold chainStanding
        cases start : (member.field? "object").bind chainStart? with
        | none =>
            rfl
        | some root =>
            exact standingOf_of_agreeOn (onRoot root (by simp only [isMember, start]))
      simp only [standing]

/-- A method of the user-event object hangs on its root. -/
theorem isMethodOfUserEvent_of_sameFor :
    isMethodOfUserEvent ⟨settings, otherState⟩ node =
      isMethodOfUserEvent ⟨settings, state⟩ node := by
  have sameName :
      userEventName? ⟨settings, otherState⟩ = userEventName? ⟨settings, state⟩ := by
    unfold userEventName? imports
    rw [same.userEvent]
  unfold isMethodOfUserEvent
  rw [sameName]
  split
  · next userEvent member _ isMember =>
      cases held : member.field? "object" with
      | none =>
          simp
      | some object =>
          by_cases plain : isPlainIdentifier object userEvent = true
          · have isPlain := plain
            simp only [isPlainIdentifier, Bool.and_eq_true, beq_iff_eq] at isPlain
            have rooted := (useRoot?_of_object isMember held isPlain.1).1
            have foreign := (same.onRoot object rooted).foreign
            rw [isPlain.2] at foreign
            simp only [imports, foreign]
          · rw [Bool.not_eq_true] at plain
            simp [plain]
  · rfl

theorem isFunction_of_sameFor (names : List String) :
    isFunction ⟨settings, otherState⟩ node names =
      isFunction ⟨settings, state⟩ node names := by
  unfold isFunction
  rw [resolve?_of_sameFor same]
  rfl

/-- A dispatched event is called of a function with the same root. -/
theorem isFireEventMethod_of_sameFor :
    isFireEventMethod ⟨settings, otherState⟩ node =
      isFireEventMethod ⟨settings, state⟩ node := by
  have byRoot :
      ∀ other,
        useRoot? other = useRoot? node →
        isFireEventUtil ⟨settings, otherState⟩ other =
          isFireEventUtil ⟨settings, state⟩ other :=
    fun _ sameRoot => isFunction_of_sameFor (same.of_same_root sameRoot) _
  unfold isFireEventMethod
  rw [byRoot node rfl]
  cases isMember : memberOf? node with
  | none =>
      rfl
  | some member =>
      cases held : member.field? "object" with
      | none =>
          simp only [held]
      | some object =>
          simp only [held]
          congr 2
          split
          · next identifier =>
              obtain ⟨ofNode, ofObject⟩ := useRoot?_of_object isMember held identifier
              exact byRoot object (ofObject.trans ofNode.symm)
          · next isAccess =>
              cases inner : object.field? "property" with
              | none =>
                  rfl
              | some property =>
                  exact byRoot property
                    (useRoot?_of_inner_property isMember held isAccess inner)
          · rfl

/-- All that is answered from names is answered alike. -/
theorem answers_of_sameFor :
    answers ⟨settings, otherState⟩ node = answers ⟨settings, state⟩ node := by
  refine answers_congr ?_ rfl (fun _ => rfl) (isMethodOfUserEvent_of_sameFor same) rfl
  rw [resolve?_of_sameFor same]
  cases resolve? ⟨settings, state⟩ node with
  | none =>
      exact .none
  | some resolved =>
      exact .some (Resolved.Agree.refl settings resolved)

end View

/--
Whatever was loaded before, a load changes no answer about a use unless it binds
the name that the use is rooted in: of a property that is the identifier its chain
starts from, of any other identifier its own text. It must leave the user-event
object its name too, because uses of the old and of the new name both change with
that.
-/
theorem uses_of_other_names_are_untouched
    (settings : Settings)
    (tracker : Tracker)
    (observation : Observation)
    (finished : Bool)
    {node : Node}
    (unbound :
      ∀ root,
        useRoot? node = some root →
        ∀ sourced ∈ observation.bound, sourced.localName ≠ root.text)
    (sameObject :
      (tracker.observe settings observation).userEventName = tracker.userEventName) :
    let before : View := ⟨settings, tracker, finished⟩
    let after : View := ⟨settings, tracker.observe settings observation, finished⟩
    after.category node = before.category node ∧
      ∀ predicate : Predicate,
        predicate.holds after node = predicate.holds before node := by
  intro before after
  have same : SameFor node before.state.imports after.state.imports :=
    sameFor_observe settings tracker unbound sameObject
  have answers : after.answers node = before.answers node :=
    View.answers_of_sameFor same
  constructor
  · exact congrArg Answers.category answers
  · exact Predicate.holds_congr answers (View.isFireEventMethod_of_sameFor same)

/-- An event of a renamed function stays one when a module is loaded as a whole. -/
theorem renamed_dispatch_is_untouched :
    let tracker := Tracker.after .default [.declaration View.renamedFunctionImport]
    let observation := Observation.declaration View.dispatchImport
    ∃ event,
      (View.calledChain "fe" ["click"]).field? "property" = some event ∧
        (∀ root,
          useRoot? event = some root →
          ∀ sourced ∈ observation.bound, sourced.localName ≠ root.text) ∧
        (tracker.observe .default observation).userEventName = tracker.userEventName ∧
        View.isFireEventMethod ⟨.default, tracker, false⟩ event = true ∧
        View.isFireEventMethod
            ⟨.default, tracker.observe .default observation, false⟩ event =
          true := by
  intro tracker observation
  obtain ⟨event, isEvent, unbound, sameObject, found⟩ :
      ∃ event,
        (View.calledChain "fe" ["click"]).field? "property" = some event ∧
          (∀ root,
            useRoot? event = some root →
            ∀ sourced ∈ observation.bound, sourced.localName ≠ root.text) ∧
          (tracker.observe .default observation).userEventName =
            tracker.userEventName ∧
          View.isFireEventMethod ⟨.default, tracker, false⟩ event = true := by
    refine ⟨_, rfl, ?_, by decide +kernel, by decide +kernel⟩
    change ∀ root ∈ useRoot? _, ∀ sourced ∈ observation.bound, _
    decide +kernel
  have untouched :=
    uses_of_other_names_are_untouched .default tracker observation false unbound
      sameObject
  exact ⟨event, isEvent, unbound, sameObject, found,
    (untouched.2 .fireEventMethod).trans found⟩

end Usage

end UsageLint
