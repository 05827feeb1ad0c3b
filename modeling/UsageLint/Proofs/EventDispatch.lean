import UsageLint.Proofs.ImportForms
import UsageLint.Proofs.Widening

namespace UsageLint.Usage

open UsageLint.Syntax
open UsageLint.Imports

/-!
# Dispatched events

The function that dispatches events is called directly, with the event as an
argument, or through one of its properties, which is the event; and it is reached
under a name that an import gives it or through the name of a module. Of the four
ways to call it, three are found, each on one identifier of the callee. A direct
call through a module is not found at all, though the function is recognised there.
-/

/-- The identifiers at and below a node, in document order. -/
def identifiersOf (node : Node) : List Node :=
  node.preorder.filter (·.isKind .identifier)

/-- A plain name, with no other identifier below it. -/
structure IsName (node : Node) (name : String) : Prop where
  plain : isPlainIdentifier node name = true
  alone : identifiersOf node = [node]

/-- An access `object.name`: beside the object, the property is its only identifier. -/
structure IsAccess (access object property : Node) (name : String) : Prop where
  isMember : access.rawKind = "member_expression"
  onObject : access.field? "object" = some object
  ofProperty : access.field? "property" = some property
  isIdentifier : property.isKind .identifier = true
  text : property.text = name
  identifiers : identifiersOf access = identifiersOf object ++ [property]

section Shapes

variable
  {node access object property : Node}
  {name objectName : String}

theorem IsName.rawKind (isName : IsName node name) : node.rawKind = "identifier" := by
  have plain := isName.plain
  simp only [isPlainIdentifier, Bool.and_eq_true, beq_iff_eq] at plain
  exact plain.1

theorem IsName.text (isName : IsName node name) : node.text = name := by
  have plain := isName.plain
  simp only [isPlainIdentifier, Bool.and_eq_true, beq_iff_eq] at plain
  exact plain.2

theorem IsName.isIdentifier (isName : IsName node name) :
    node.isKind .identifier = true := by
  simp [Node.isKind, Node.kind, isName.rawKind, Kind.ofGrammar]

theorem IsName.isPlainUse
    (isName : IsName node name)
    (notProperty : memberOf? node = none) :
    IsPlainUse node name :=
  ⟨isName.isIdentifier, notProperty, isName.text⟩

theorem IsAccess.memberOf?_property (isAccess : IsAccess access object property name) :
    memberOf? property = some access := by
  have isMember : access.isKind .memberExpression = true := by
    simp [Node.isKind, Node.kind, isAccess.isMember, Kind.ofGrammar]
  exact memberOf?_of_property isMember isAccess.ofProperty

theorem IsAccess.isPropertyUse
    (isAccess : IsAccess access object property name)
    (isName : IsName object objectName) :
    IsPropertyUse property objectName name :=
  ⟨isAccess.isIdentifier,
    ⟨access, object, isAccess.memberOf?_property, isAccess.onObject, isName.plain⟩,
    isAccess.text⟩

/-- What a call calls is not the property of an access. -/
theorem memberOf?_of_isCallee (called : isCallee node = true) : memberOf? node = none := by
  have field : node.label.field = some "function" :=
    Node.label_field_of_isFieldOfParent (Bool.and_eq_true_iff.mp called).2
  have notProperty : node.isFieldOfParent "property" = false :=
    Bool.eq_false_iff.mpr fun held => by
      simp [Node.label_field_of_isFieldOfParent held] at field
  simp [memberOf?, notProperty]

/-- The object of an access is not what a call calls. -/
theorem not_isCallee_of_object (held : access.field? "object" = some object) :
    isCallee object = false := by
  have field := Node.label_field_of_field? held
  have notFunction : object.isFieldOfParent "function" = false :=
    Bool.eq_false_iff.mpr fun called => by
      simp [Node.label_field_of_isFieldOfParent called] at field
  simp [isCallee, notFunction]

end Shapes

namespace View

variable
  {view : View}
  {node access object property : Node}
  {name objectName : String}

/-- A function that an import binds by name is that function under the bound name. -/
theorem isFunction_of_boundByName
    (bound : BoundByName view.imports name objectName)
    (used : IsPlainUse node name) :
    view.isFunction node [objectName] = true := by
  have found : view.resolve? node = some ⟨name, some objectName, .family⟩ :=
    resolve?_of_plain bound used
  simp [isFunction, found, Resolved.namedIn?, isPotential]

/-- A function of a loaded module is that function as a property of the module. -/
theorem isFunction_of_property
    (bound : (view.imports.binding? objectName).isSome = true)
    (used : IsPropertyUse node objectName name) :
    view.isFunction node [name] = true := by
  have found : view.resolve? node = some ⟨name, none, .family⟩ :=
    resolve?_of_property bound used
  simp [isFunction, found, Resolved.namedIn?, isPotential]

/-- On what a call calls by a plain name, a dispatch is found if it is the function. -/
theorem isFireEventMethod_of_callee
    (called : isCallee node = true)
    (isIdentifier : node.isKind .identifier = true) :
    view.isFireEventMethod node = view.isFireEventUtil node := by
  simp [isFireEventMethod, isIdentifier, memberOf?_of_isCallee called, called]

/-- No dispatch is found on the object of an access. -/
theorem isFireEventMethod_of_object (held : access.field? "object" = some object) :
    view.isFireEventMethod object = false := by
  simp [isFireEventMethod, memberOf?_of_object held, not_isCallee_of_object held]

/-- No dispatch is found on a property of what is not called. -/
theorem isFireEventMethod_of_not_isCallee
    (isAccess : IsAccess access object property name)
    (notCalled : isCallee access = false) :
    view.isFireEventMethod property = false := by
  simp [isFireEventMethod, isAccess.memberOf?_property, notCalled]

/-- No dispatch is found on the function as a property of anything. -/
theorem isFireEventMethod_of_fireEvent
    (isAccess : IsAccess access object property Vocabulary.fireEventName) :
    view.isFireEventMethod property = false := by
  simp [isFireEventMethod, isAccess.memberOf?_property, isAccess.text]

section Event

variable
  (called : isCallee access = true)
  (isAccess : IsAccess access object property name)
  (isEvent : name ≠ Vocabulary.fireEventName)

include called isAccess isEvent

/-- A called property of a plain name is an event if the name is the function's. -/
theorem isFireEventMethod_of_name (isName : IsName object objectName) :
    view.isFireEventMethod property = view.isFireEventUtil object := by
  simp [isFireEventMethod, isAccess.isIdentifier, isAccess.memberOf?_property, called,
    isAccess.text, isEvent, isAccess.onObject, isName.rawKind]

/-- A called property of an access is an event if the property below is the function. -/
theorem isFireEventMethod_of_access
    {innerObject function : Node}
    {functionName : String}
    (inner : IsAccess object innerObject function functionName) :
    view.isFireEventMethod property = view.isFireEventUtil function := by
  simp [isFireEventMethod, isAccess.isIdentifier, isAccess.memberOf?_property, called,
    isAccess.text, isEvent, isAccess.onObject, inner.isMember, inner.ofProperty]

end Event

/-- The identifiers of a callee on which a dispatch is found. -/
def dispatchesIn (view : View) (callee : Node) : List Node :=
  (identifiersOf callee).filter view.isFireEventMethod

/--
Let an import bind the function that dispatches events to a name. Called by that
name, or by a property of it, it is found on one identifier of the callee: the name
itself, or the property. As a property of any bound name, such as that of a module
as a whole, the function is recognised too. Called by one of its properties it is
then found on that property alone; called directly it is found on no identifier.
-/
theorem dispatches_are_found_but_direct_ones_of_modules
    (settings : Settings)
    (observations : List Observation)
    (finished : Bool)
    {callee : Node}
    (called : isCallee callee = true) :
    let view := View.after settings observations finished
    (∀ name,
        BoundByName view.imports name Vocabulary.fireEventName →
        (IsName callee name → view.dispatchesIn callee = [callee]) ∧
          ∀ object event eventName,
            eventName ≠ Vocabulary.fireEventName →
            IsName object name →
            IsAccess callee object event eventName →
            view.dispatchesIn callee = [event]) ∧
      ∀ moduleName,
        (view.imports.binding? moduleName).isSome = true →
        (∀ object access function event eventName,
            eventName ≠ Vocabulary.fireEventName →
            IsName object moduleName →
            IsAccess access object function Vocabulary.fireEventName →
            IsAccess callee access event eventName →
            view.dispatchesIn callee = [event]) ∧
          ∀ object function,
            IsName object moduleName →
            IsAccess callee object function Vocabulary.fireEventName →
            view.isFireEventUtil function = true ∧ view.dispatchesIn callee = [] := by
  intro view
  constructor
  · intro name bound
    constructor
    · intro isName
      have found : view.isFireEventMethod callee = true := by
        rw [isFireEventMethod_of_callee called isName.isIdentifier]
        exact isFunction_of_boundByName bound
          (isName.isPlainUse (memberOf?_of_isCallee called))
      simp [dispatchesIn, isName.alone, found]
    · intro object event eventName isEvent isName isAccess
      have found : view.isFireEventMethod event = true := by
        rw [isFireEventMethod_of_name called isAccess isEvent isName]
        exact isFunction_of_boundByName bound
          (isName.isPlainUse (memberOf?_of_object isAccess.onObject))
      simp [dispatchesIn, isAccess.identifiers, isName.alone, found,
        isFireEventMethod_of_object isAccess.onObject]
  · intro moduleName bound
    constructor
    · intro object access function event eventName isEvent isName inner isAccess
      have found : view.isFireEventMethod event = true := by
        rw [isFireEventMethod_of_access called isAccess isEvent inner]
        exact isFunction_of_property bound (inner.isPropertyUse isName)
      have notCalled := not_isCallee_of_object isAccess.onObject
      simp [dispatchesIn, isAccess.identifiers, inner.identifiers, isName.alone, found,
        isFireEventMethod_of_object inner.onObject,
        isFireEventMethod_of_not_isCallee inner notCalled]
    · intro object function isName isAccess
      have isFunction : view.isFireEventUtil function = true :=
        isFunction_of_property bound (isAccess.isPropertyUse isName)
      refine ⟨isFunction, ?_⟩
      simp [dispatchesIn, isAccess.identifiers, isName.alone,
        isFireEventMethod_of_object isAccess.onObject,
        isFireEventMethod_of_fireEvent isAccess]

section Example

/-- The function under a name of its own, before the module of `dispatchImport`. -/
def renamedFunctionImport : Node :=
  .root (.ofString "import { fireEvent as fe } from '@testing-library/react'")
    (.node (namedLabel "import_statement" none 0 56)
      [.node (namedLabel "import_clause" none 7 26)
          [.node (namedLabel "named_imports" none 7 26)
            [.node (namedLabel "import_specifier" none 9 24)
              [.node (namedLabel "identifier" (some "name") 9 18) [],
                .node (namedLabel "identifier" (some "alias") 22 24) []]]],
        .node (namedLabel "string" (some "source") 32 56) []])

/-- Both imports: `fe` for the function and `rtl` for a module that has it. -/
def dispatchImports : List Observation :=
  [.declaration renamedFunctionImport, .declaration dispatchImport]

theorem bindings_of_dispatchImports :
    let imports := (View.after Settings.default dispatchImports false).imports
    imports.binding? "fe" =
        some ⟨"@testing-library/react", Vocabulary.fireEventName, .named⟩ ∧
      imports.binding? "rtl" = some ⟨"@testing-library/react", "*", .wholeModule⟩ := by
  decide +kernel

/-- A name and the properties that follow it, the last one first. -/
def chainText (name : String) : List String → String
  | [] => name
  | property :: earlier => chainText name earlier ++ "." ++ property

/-- The tree of that text: each property is a member of the chain before it. -/
def chainTree (field name : String) : List String → Tree
  | [] => .node (namedLabel "identifier" (some field) 0 name.length) []
  | property :: earlier =>
      let start := (chainText name earlier).length + 1
      let stop := start + property.length
      .node (namedLabel "member_expression" (some field) 0 stop)
        [chainTree "object" name earlier,
          .node (namedLabel "property_identifier" (some "property") start stop) []]

/-- What is called by `name.property(x)` and the like. -/
def calledChain (name : String) (properties : List String) : Node :=
  let text := chainText name properties
  { source := .ofString (text ++ "(x)")
    focus := chainTree "function" name properties
    above :=
      [{ label := namedLabel "call_expression" none 0 (text.length + 3)
         before := []
         after :=
          [.node (namedLabel "arguments" (some "arguments") text.length
              (text.length + 3))
            [.node (namedLabel "identifier" none (text.length + 1) (text.length + 2))
              []]] }] }

/-- Of four ways to call the function, three are found on one identifier each. -/
theorem dispatches_of_two_imports :
    let view := View.after Settings.default dispatchImports false
    BoundByName view.imports "fe" Vocabulary.fireEventName ∧
      (view.imports.binding? "rtl").isSome = true ∧
      view.dispatchesIn (calledChain "fe" []) = [calledChain "fe" []] ∧
      (∃ object event,
        IsAccess (calledChain "fe" ["click"]) object event "click" ∧
          view.dispatchesIn (calledChain "fe" ["click"]) = [event]) ∧
      (∃ access event,
        IsAccess (calledChain "rtl" ["click", "fireEvent"]) access event "click" ∧
          view.dispatchesIn (calledChain "rtl" ["click", "fireEvent"]) = [event]) ∧
      ∃ object function,
        IsAccess (calledChain "rtl" ["fireEvent"]) object function "fireEvent" ∧
          view.isFireEventUtil function = true ∧
          view.dispatchesIn (calledChain "rtl" ["fireEvent"]) = [] := by
  intro view
  have bound : BoundByName view.imports "fe" Vocabulary.fireEventName :=
    ⟨"@testing-library/react", bindings_of_dispatchImports.1⟩
  have moduleBound : (view.imports.binding? "rtl").isSome = true :=
    Option.isSome_of_eq_some bindings_of_dispatchImports.2
  have isName : IsName (calledChain "fe" []) "fe" := ⟨by decide +kernel, rfl⟩
  obtain ⟨object, event, ofName, objectIsName⟩ :
      ∃ object event,
        IsAccess (calledChain "fe" ["click"]) object event "click" ∧
          IsName object "fe" :=
    ⟨_, _, ⟨rfl, rfl, rfl, rfl, by decide +kernel, rfl⟩, by decide +kernel, rfl⟩
  obtain ⟨access, laterEvent, root, function, ofAccess, ofModule, rootIsName⟩ :
      ∃ access event object function,
        IsAccess (calledChain "rtl" ["click", "fireEvent"]) access event "click" ∧
          IsAccess access object function Vocabulary.fireEventName ∧
          IsName object "rtl" :=
    ⟨_, _, _, _, ⟨rfl, rfl, rfl, rfl, by decide +kernel, rfl⟩,
      ⟨rfl, rfl, rfl, rfl, by decide +kernel, rfl⟩, by decide +kernel, rfl⟩
  obtain ⟨otherRoot, called, calledOfModule, otherIsName⟩ :
      ∃ object function,
        IsAccess (calledChain "rtl" ["fireEvent"]) object function "fireEvent" ∧
          IsName object "rtl" :=
    ⟨_, _, ⟨rfl, rfl, rfl, rfl, by decide +kernel, rfl⟩, by decide +kernel, rfl⟩
  have dispatches {callee : Node} (isCalled : isCallee callee = true) :=
    dispatches_are_found_but_direct_ones_of_modules Settings.default dispatchImports
      false isCalled
  refine ⟨bound, moduleBound, ((dispatches rfl).1 "fe" bound).1 isName,
    ⟨object, event, ofName, ?_⟩, ⟨access, laterEvent, ofAccess, ?_⟩,
    otherRoot, called, calledOfModule, ?_⟩
  · exact ((dispatches rfl).1 "fe" bound).2 object event "click" (by decide)
      objectIsName ofName
  · exact ((dispatches rfl).2 "rtl" moduleBound).1 root access function laterEvent
      "click" (by decide) rootIsName ofModule ofAccess
  · exact ((dispatches rfl).2 "rtl" moduleBound).2 otherRoot called otherIsName
      calledOfModule

/-- A direct call of the function through its module is found on no identifier. -/
theorem direct_dispatch_of_module_is_missed :
    let view := View.after Settings.default dispatchImports false
    let callee := calledChain "rtl" ["fireEvent"]
    view.imports.binding? "rtl" =
        some ⟨"@testing-library/react", "*", .wholeModule⟩ ∧
      isCallee callee = true ∧
      (∃ object function,
        IsName object "rtl" ∧
          IsAccess callee object function Vocabulary.fireEventName ∧
          view.isFireEventUtil function = true) ∧
      ∀ node ∈ identifiersOf callee, view.isFireEventMethod node = false := by
  intro view callee
  have moduleBound : (view.imports.binding? "rtl").isSome = true :=
    Option.isSome_of_eq_some bindings_of_dispatchImports.2
  obtain ⟨object, function, isName, isAccess⟩ :
      ∃ object function,
        IsName object "rtl" ∧ IsAccess callee object function Vocabulary.fireEventName :=
    ⟨_, _, ⟨by decide +kernel, rfl⟩, ⟨rfl, rfl, rfl, rfl, by decide +kernel, rfl⟩⟩
  refine ⟨bindings_of_dispatchImports.2, rfl, ⟨object, function, isName, isAccess, ?_⟩,
    by decide +kernel⟩
  exact isFunction_of_property moduleBound (isAccess.isPropertyUse isName)

end Example

end View

end UsageLint.Usage
