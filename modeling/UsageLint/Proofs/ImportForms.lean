import UsageLint.Proofs.LiveRoot
import UsageLint.Proofs.SameAnswers

namespace UsageLint.Usage

open UsageLint.Syntax
open UsageLint.Imports

/-!
# Import forms

An exported name is reached under its own name, as a property of a module, or
under a name of the file's choice. The three are resolved differently: the first
by both names at once, the second by the name as written only, the third by two
names of which the written one means nothing. What is asked of the identifier is
answered alike for all of them.
-/

/-- A use of a name by itself, not as a property. -/
structure IsPlainUse (node : Node) (name : String) : Prop where
  identifier : node.isKind .identifier = true
  notProperty : memberOf? node = none
  text : node.text = name

/-- A use of a name as a property of a plain identifier. -/
structure IsPropertyUse (node : Node) (objectName name : String) : Prop where
  identifier : node.isKind .identifier = true
  onObject :
    ∃ member object,
      memberOf? node = some member ∧
        member.field? "object" = some object ∧
        isPlainIdentifier object objectName = true
  text : node.text = name

/-- Whether a local name is bound by name to an exported one. -/
def BoundByName (imports : Tracker) (localName exported : String) : Prop :=
  ∃ specifier, imports.binding? localName = some ⟨specifier, exported, .named⟩

/-- Whether a name by itself means nothing to detection. -/
structure IsUnrecognised (settings : Settings) (name : String) : Prop where
  notRender : name ≠ Vocabulary.renderName
  notCustomRender : name ∉ settings.customRenders.names
  notFunction : ∀ names ∈ functionNames, name ∉ names
  notCustomQuery : settings.customQueries.contains name = false
  notQuery :
    Vocabulary.continuesOne (Vocabulary.syncPrefixes ++ Vocabulary.asyncPrefixes)
      name = false

theorem continuesOne_append
    (first second : List String)
    (name : String) :
    Vocabulary.continuesOne (first ++ second) name =
      (Vocabulary.continuesOne first name ||
        Vocabulary.continuesOne second name) :=
  List.any_append

/-- A query of the library's own goes on after a beginning: no method is empty. -/
theorem continuesOne_of_isBuiltInQueryName
    {name : String}
    (builtIn : Vocabulary.isBuiltInQueryName name = true) :
    Vocabulary.continuesOne (Vocabulary.syncPrefixes ++ Vocabulary.asyncPrefixes)
      name = true := by
  obtain ⟨beginning, among, goesOn⟩ := List.any_eq_true.mp builtIn
  refine List.any_eq_true.mpr ⟨beginning, among, ?_⟩
  cases rest : Vocabulary.after? beginning name with
  | none =>
      simp [rest] at goesOn
  | some following =>
      simp only [rest, List.any_eq_true, beq_iff_eq] at goesOn
      obtain ⟨method, listed, rfl⟩ := goesOn
      have nonempty : ∀ method ∈ Vocabulary.queryMethods, method.toList ≠ [] := by
        decide
      simpa using nonempty method listed

namespace IsUnrecognised

variable
  {settings : Settings}
  {name : String}
  (unrecognised : IsUnrecognised settings name)

include unrecognised

theorem find?_eq_none
    {names : List String}
    (asked : names ∈ functionNames) :
    (names.find? fun listed => name == listed) = none := by
  rw [List.find?_eq_none]
  intro listed among same
  rw [← beq_iff_eq.mp same] at among
  exact unrecognised.notFunction names asked among

theorem test_eq_false
    {test : String → Bool}
    (asked : test ∈ nameTests settings) :
    test name = false := by
  have notQuery := unrecognised.notQuery
  have notBuiltIn : Vocabulary.isBuiltInQueryName name = false := by
    refine Bool.eq_false_iff.mpr fun builtIn => ?_
    rw [continuesOne_of_isBuiltInQueryName builtIn] at notQuery
    cases notQuery
  simp only [Vocabulary.syncPrefixes, continuesOne_append,
    Bool.or_eq_false_iff] at notQuery
  obtain ⟨⟨notGet, notQuery⟩, notFind⟩ := notQuery
  have notSync : Vocabulary.isSyncQueryName name = false := by
    rw [Vocabulary.isSyncQueryName, Vocabulary.syncPrefixes, continuesOne_append,
      notGet, notQuery]
    rfl
  simp only [nameTests, List.mem_cons, List.not_mem_nil, or_false] at asked
  rcases asked with rfl | rfl | rfl | rfl | rfl | rfl | rfl
  · exact unrecognised.notCustomQuery
  · exact notGet
  · exact notQuery
  · exact notFind
  · exact notBuiltIn
  · exact notSync
  · exact notFind

end IsUnrecognised

namespace Resolved

/-- An exported name beside the same local name adds nothing. -/
theorem agree_of_same_name
    (settings : Settings)
    (name : String)
    (standing : Standing) :
    Agree settings ⟨name, some name, standing⟩ ⟨name, none, standing⟩ where
  standing := rfl
  render state := by
    have named :
        isNamed ⟨name, none, standing⟩ = isNamed ⟨name, some name, standing⟩ := by
      funext other
      simp [isNamed]
    -- A name that is `render` itself mentions it as well.
    have mentions : Vocabulary.mentionsRender Vocabulary.renderName = true := by
      decide +kernel
    simp only [View.isNamedLikeRender, named]
    by_cases same : name = Vocabulary.renderName
    · simp [same, mentions]
    · simp [beq_eq_false_iff_ne.mpr same]
  functions names _ := by
    have noName : names.find? (fun _ => false) = none := by simp
    simp [namedIn?, noName]
  tests test _ := by
    simp [either]

/-- A local name that means nothing leaves the exported name to decide. -/
theorem agree_of_unrecognised
    {settings : Settings}
    {localName : String}
    (listed : settings.aggressiveRenders = false)
    (unrecognised : IsUnrecognised settings localName)
    (exported : String)
    (standing : Standing) :
    Agree settings ⟨exported, some exported, standing⟩
      ⟨localName, some exported, standing⟩ where
  standing := rfl
  render state := by
    have named :
        ∀ name, localName ≠ name →
          isNamed ⟨localName, some exported, standing⟩ name =
            isNamed ⟨exported, some exported, standing⟩ name := by
      intro name different
      simp [isNamed, different]
    have customs :
        settings.customRenders.names.any
            (isNamed ⟨localName, some exported, standing⟩) =
          settings.customRenders.names.any
            (isNamed ⟨exported, some exported, standing⟩) := by
      rw [Bool.eq_iff_iff, List.any_eq_true, List.any_eq_true]
      refine exists_congr fun render => and_congr_right fun among => ?_
      rw [named render fun same => unrecognised.notCustomRender (same ▸ among)]
    simp only [View.isNamedLikeRender, listed, Bool.false_eq_true, if_false, customs,
      named Vocabulary.renderName unrecognised.notRender]
  functions names asked := by
    simp [namedIn?, unrecognised.find?_eq_none asked]
  tests test asked := by
    simp [either, unrecognised.test_eq_false asked]

end Resolved

section Uses

variable
  {settings : Settings}
  {state : FileState}
  {node : Node}
  {name objectName exported : String}

theorem resolve?_of_plain
    (bound : BoundByName state.imports name exported)
    (used : IsPlainUse node name) :
    View.resolve? ⟨settings, state⟩ node = some ⟨name, some exported, .family⟩ := by
  obtain ⟨specifier, stands⟩ := bound
  simp [View.resolve?, View.imports, used.identifier, used.notProperty, used.text,
    isModuleName, canonicalName, standingOf, stands, CanonicalBinding.isNamespace]

theorem resolve?_of_property
    (bound : (state.imports.binding? objectName).isSome = true)
    (used : IsPropertyUse node objectName name) :
    View.resolve? ⟨settings, state⟩ node = some ⟨name, none, .family⟩ := by
  obtain ⟨member, object, isMember, held, plain⟩ := used.onObject
  simp only [isPlainIdentifier, Bool.and_eq_true, beq_iff_eq] at plain
  simp [View.resolve?, View.imports, used.identifier, isMember, used.text, held,
    chainStanding, chainStart?_of_identifier plain.1, standingOf, plain.2, bound]

theorem isMethodOfUserEvent_of_plain (used : IsPlainUse node name) :
    View.isMethodOfUserEvent ⟨settings, state⟩ node = false := by
  unfold View.isMethodOfUserEvent
  rw [used.notProperty]
  split
  · next isMember =>
      cases isMember
  · rfl

/-- A property of anything but the user-event object is none of its methods. -/
theorem isMethodOfUserEvent_of_property
    (used : IsPropertyUse node objectName name)
    (other : View.userEventName? ⟨settings, state⟩ ≠ some objectName) :
    View.isMethodOfUserEvent ⟨settings, state⟩ node = false := by
  obtain ⟨member, object, isMember, held, plain⟩ := used.onObject
  simp only [isPlainIdentifier, Bool.and_eq_true, beq_iff_eq] at plain
  unfold View.isMethodOfUserEvent
  rw [isMember]
  split
  · next userEvent owner named isOwner =>
      cases isOwner
      have different : object.text ≠ userEvent := by
        rintro rfl
        exact other (plain.2 ▸ named)
      simp [held, isPlainIdentifier, different]
  · rfl

theorem onConsole_of_plain (used : IsPlainUse node name) :
    onConsole node = false := by
  simp [onConsole, used.notProperty]

theorem onConsole_of_property
    (used : IsPropertyUse node objectName name)
    (other : objectName ≠ Vocabulary.consoleName) :
    onConsole node = false := by
  obtain ⟨member, object, isMember, held, plain⟩ := used.onObject
  simp only [isPlainIdentifier, Bool.and_eq_true, beq_iff_eq] at plain
  simp [onConsole, isMember, held, isPlainIdentifier, plain.2, other]

end Uses

/--
Let an exported name be bound under itself and used by itself. The answers are
the same where the name is a property of any bound name, be it neither the
user-event object nor the console; and, where render functions are listed, the
same for any other local name of the same export that means nothing by itself.
-/
theorem import_forms_answer_alike
    (settings : Settings)
    (exported : String)
    {direct : FileState}
    {plain : Node}
    (bound : BoundByName direct.imports exported exported)
    (used : IsPlainUse plain exported) :
    (∀ (whole : FileState) (moduleName : String) (property : Node),
        (whole.imports.binding? moduleName).isSome = true →
        IsPropertyUse property moduleName exported →
        View.userEventName? ⟨settings, whole⟩ ≠ some moduleName →
        moduleName ≠ Vocabulary.consoleName →
        View.answers ⟨settings, whole⟩ property =
          View.answers ⟨settings, direct⟩ plain) ∧
      (settings.aggressiveRenders = false →
        ∀ (renamed : FileState) (localName : String) (aliased : Node),
          BoundByName renamed.imports localName exported →
          IsUnrecognised settings localName →
          IsPlainUse aliased localName →
          View.answers ⟨settings, renamed⟩ aliased =
            View.answers ⟨settings, direct⟩ plain) := by
  have plainFound :
      View.resolve? ⟨settings, direct⟩ plain =
        some ⟨exported, some exported, .family⟩ := resolve?_of_plain bound used
  have notMethod :
      View.isMethodOfUserEvent ⟨settings, direct⟩ plain = false :=
    isMethodOfUserEvent_of_plain used
  constructor
  · intro whole moduleName property wholeBound propertyUsed notObject notConsole
    refine View.answers_congr_of_resolve? plainFound
      (resolve?_of_property wholeBound propertyUsed)
      (Resolved.agree_of_same_name settings exported .family) ?_ ?_
    · rw [notMethod, isMethodOfUserEvent_of_property propertyUsed notObject]
    · rw [onConsole_of_plain used, onConsole_of_property propertyUsed notConsole]
  · intro listed renamed localName aliased renamedBound unrecognised aliasedUsed
    refine View.answers_congr_of_resolve? plainFound
      (resolve?_of_plain renamedBound aliasedUsed)
      (Resolved.agree_of_unrecognised listed unrecognised exported .family) ?_ ?_
    · rw [notMethod, isMethodOfUserEvent_of_plain aliasedUsed]
    · rw [onConsole_of_plain used, onConsole_of_plain aliasedUsed]

section Example

open View (namedLabel)

/-- A file that reaches `waitFor` in all three ways. -/
def waitSource : Source :=
  .ofString
    ("import { waitFor, waitFor as later } from '@testing-library/react';" ++
      "import * as rtl from '@testing-library/dom';rtl.waitFor(later(waitFor))")

/-- The name `waitFor`, the name `later` for it, and a module that has it. -/
def waitImports : List Observation :=
  [.declaration
      (.root waitSource
        (.node (namedLabel "import_statement" none 0 67)
          [.node (namedLabel "import_clause" none 7 36)
              [.node (namedLabel "named_imports" none 7 36)
                [.node (namedLabel "import_specifier" none 9 16)
                    [.node (namedLabel "identifier" (some "name") 9 16) []],
                  .node (namedLabel "import_specifier" none 18 34)
                    [.node (namedLabel "identifier" (some "name") 18 25) [],
                      .node (namedLabel "identifier" (some "alias") 29 34) []]]],
            .node (namedLabel "string" (some "source") 42 66) []])),
    .declaration
      (.root waitSource
        (.node (namedLabel "import_statement" none 67 111)
          [.node (namedLabel "import_clause" none 74 82)
              [.node (namedLabel "namespace_import" none 74 82)
                [.node (namedLabel "identifier" none 79 82) []]],
            .node (namedLabel "string" (some "source") 88 110) []]))]

/-- The settings of a strict project, in which nothing but imports counts. -/
def strictSettings : Settings :=
  (Settings.default.withCustomModule "test-utils").withCustomRenders []

/-- What a strict project knows of the file after these imports. -/
def waitState : FileState :=
  ⟨.after strictSettings waitImports, false⟩

/-- The use by the exported name, as an argument. -/
def waitPlain : Node where
  source := waitSource
  focus := .node (namedLabel "identifier" none 129 136) []
  above := [⟨namedLabel "arguments" (some "arguments") 128 137, [], []⟩]

/-- The use by the name it was imported under, in a call. -/
def waitAliased : Node where
  source := waitSource
  focus := .node (namedLabel "identifier" (some "function") 123 128) []
  above :=
    [{ label := namedLabel "call_expression" none 123 137
       before := []
       after :=
        [.node (namedLabel "arguments" (some "arguments") 128 137)
          [.node (namedLabel "identifier" none 129 136) []]] }]

/-- The use as a property of the module, in a call. -/
def waitProperty : Node where
  source := waitSource
  focus := .node (namedLabel "property_identifier" (some "property") 115 122) []
  above :=
    [{ label := namedLabel "member_expression" (some "function") 111 122
       before := [.node (namedLabel "identifier" (some "object") 111 114) []]
       after := [] }]

/-- The name of the module, before that property. -/
def waitObject : Node where
  source := waitSource
  focus := .node (namedLabel "identifier" (some "object") 111 114) []
  above :=
    [{ label := namedLabel "member_expression" (some "function") 111 122
       before := []
       after :=
        [.node (namedLabel "property_identifier" (some "property") 115 122) []] }]

/-- The three ways to `waitFor` are one waiting function. -/
theorem wait_forms_answer_alike :
    View.answers ⟨strictSettings, waitState⟩ waitProperty =
        View.answers ⟨strictSettings, waitState⟩ waitPlain ∧
      View.answers ⟨strictSettings, waitState⟩ waitAliased =
        View.answers ⟨strictSettings, waitState⟩ waitPlain ∧
      View.category ⟨strictSettings, waitState⟩ waitPlain =
        .asyncUtil "waitFor" := by
  -- All that is read off the text is read at once: decoding it is what takes long.
  have facts :
      waitState.imports.binding? "waitFor" =
          some ⟨"@testing-library/react", "waitFor", .named⟩ ∧
        waitState.imports.binding? "later" =
          some ⟨"@testing-library/react", "waitFor", .named⟩ ∧
        (waitState.imports.binding? "rtl").isSome = true ∧
        View.userEventName? ⟨strictSettings, waitState⟩ ≠ some "rtl" ∧
        waitPlain.text = "waitFor" ∧
        waitAliased.text = "later" ∧
        waitProperty.text = "waitFor" ∧
        isPlainIdentifier waitObject "rtl" = true ∧
        View.category ⟨strictSettings, waitState⟩ waitPlain =
          .asyncUtil "waitFor" := by
    decide +kernel
  obtain ⟨bound, laterBound, moduleBound, notObject, plainText, aliasedText,
    propertyText, onModule, category⟩ := facts
  have plainUse : IsPlainUse waitPlain "waitFor" := ⟨rfl, rfl, plainText⟩
  have aliasedUse : IsPlainUse waitAliased "later" := ⟨rfl, rfl, aliasedText⟩
  have propertyUse : IsPropertyUse waitProperty "rtl" "waitFor" :=
    ⟨rfl, ⟨_, waitObject, rfl, rfl, onModule⟩, propertyText⟩
  have meaningless : IsUnrecognised strictSettings "later" :=
    ⟨by decide +kernel, by decide +kernel, by decide +kernel, by decide +kernel,
      by decide +kernel⟩
  have alike :=
    import_forms_answer_alike strictSettings "waitFor" ⟨_, bound⟩ plainUse
  refine ⟨alike.1 waitState "rtl" waitProperty moduleBound propertyUse notObject ?_,
    alike.2 rfl waitState "later" waitAliased ⟨_, laterBound⟩ meaningless aliasedUse,
    category⟩
  decide +kernel

end Example

end UsageLint.Usage
