import Mathlib.Algebra.Ring.Parity
import Mathlib.Logic.Relation
import UsageLint.Proofs.LiveRoot

namespace UsageLint.Usage

open Relation
open UsageLint.Syntax

/-!
# Chains of assertions

An assertion is read off a chain of accesses: the first is one on a call of
`expect`, each `not` leads on to the access whose object it is, and the matcher
is what the last one accesses. Here the chain is a relation of nodes, one link
after another, and the loop that follows it is shown to find just what the
relation leads to. A link can be gone back, from an access to its object, and
that is why two chains never end in the same access.
-/

/-- Whether a category is that of an assertion. -/
def Category.IsAssertion (category : Category) : Prop :=
  category = .presenceAssertion ∨ category = .absenceAssertion

/-- The name that an access asks for. -/
def accessedName? (node : Node) : Option String :=
  (node.field? "property").map Node.text

/-- Whether the object of an access is a call of `expect`. -/
def OpensOnExpect (node : Node) : Prop :=
  ∃ call callee,
    node.field? "object" = some call ∧
      call.rawKind = "call_expression" ∧
      call.field? "function" = some callee ∧
      callee.rawKind = "identifier" ∧
      callee.text = "expect"

/-- A modifier and the access that it is the object of. -/
structure Modifies (inner outer : Node) : Prop where
  innerMember : inner.kind = .memberExpression
  modifier : accessedName? inner = some "not"
  outerMember : outer.kind = .memberExpression
  object : outer.field? "object" = some inner

/-- An access and what it leads to over a number of modifiers. -/
inductive LeadsOver : Nat → Node → Node → Prop where
  | here (node : Node) :
      LeadsOver 0 node node
  | outward
      {modifiers : Nat}
      {inner outer last : Node}
      (first : Modifies inner outer)
      (later : LeadsOver modifiers outer last) :
      LeadsOver (modifiers + 1) inner last

/--
A chain from an access on a call of `expect`, over a number of modifiers, to a
last access, which asks for a matcher.
-/
structure AssertsBy
    (node : Node)
    (modifiers : Nat)
    (last : Node)
    (matcher : String) : Prop where
  opens : OpensOnExpect node
  leads : LeadsOver modifiers node last
  accessed : accessedName? last = some matcher
  known :
    matcher ∈ Vocabulary.presenceMatchers ∨ matcher ∈ Vocabulary.absenceMatchers

theorem kind_eq_callExpression_iff {node : Node} :
    node.kind = .callExpression ↔ node.rawKind = "call_expression" := by
  unfold Node.kind Kind.ofGrammar
  split <;> simp_all

theorem isExpectCall_iff {call : Node} :
    isExpectCall call = true ↔
      call.rawKind = "call_expression" ∧
        ∃ callee,
          call.field? "function" = some callee ∧
            callee.rawKind = "identifier" ∧ callee.text = "expect" := by
  rw [← kind_eq_callExpression_iff, isExpectCall, Bool.and_eq_true, Node.isKind,
    beq_iff_eq]
  cases call.field? "function" <;> simp [Vocabulary.expectName]

theorem any_isExpectCall_iff {node : Node} :
    (node.field? "object").any isExpectCall = true ↔ OpensOnExpect node := by
  simp only [Option.any_eq_true, isExpectCall_iff, OpensOnExpect]
  tauto

/-- No matcher is a modifier. -/
theorem AssertsBy.not_modifier
    {node last : Node}
    {modifiers : Nat}
    {matcher : String}
    (asserts : AssertsBy node modifiers last matcher) :
    matcher ≠ "not" := by
  rintro rfl
  have unknown :
      ¬ ("not" ∈ Vocabulary.presenceMatchers ∨ "not" ∈ Vocabulary.absenceMatchers) := by
    decide
  exact unknown asserts.known

namespace Modifies

variable {inner outer : Node}

/-- The access that a modifier leads to is the one above it. -/
theorem parent? (modifies : Modifies inner outer) : inner.parent? = some outer :=
  Node.parent?_of_field? modifies.object

/-- A modifier leads to one access. -/
theorem outer_unique
    {other : Node}
    (modifies : Modifies inner outer)
    (again : Modifies inner other) :
    other = outer :=
  Option.some.inj (again.parent?.symm.trans modifies.parent?)

/-- An access is led to by one modifier. -/
theorem inner_unique
    {other : Node}
    (modifies : Modifies inner outer)
    (again : Modifies other outer) :
    other = inner :=
  Option.some.inj (again.object.symm.trans modifies.object)

/-- What a modifier leads to is not an access on a call. -/
theorem not_opensOnExpect (modifies : Modifies inner outer) : ¬ OpensOnExpect outer := by
  rintro ⟨call, _, object, isCall, _⟩
  cases modifies.object.symm.trans object
  have kinds := modifies.innerMember.symm.trans (kind_eq_callExpression_iff.mpr isCall)
  cases kinds

/-- What a modifier leads to is one level higher. -/
theorem length_above (modifies : Modifies inner outer) :
    inner.above.length = outer.above.length + 1 := by
  have parent := modifies.parent?
  unfold Node.parent? at parent
  split at parent
  · cases parent
  · next frame above shape =>
      cases parent
      simp [shape]

end Modifies

namespace LeadsOver

variable
  {modifiers : Nat}
  {node last : Node}

theorem reflTransGen (leads : LeadsOver modifiers node last) :
    ReflTransGen Modifies node last := by
  induction leads with
  | here => exact .refl
  | outward first _ inductionHypothesis => exact .head first inductionHypothesis

/-- Over so many modifiers a chain comes up so many levels. -/
theorem length_above (leads : LeadsOver modifiers node last) :
    node.above.length = last.above.length + modifiers := by
  induction leads with
  | here =>
      rfl
  | outward first _ inductionHypothesis =>
      rw [first.length_above, inductionHypothesis]
      omega

/-- A chain that came to an end was as long as any. -/
theorem le_of_ended
    (leads : LeadsOver modifiers node last)
    (ended : ∀ outer, ¬ Modifies last outer)
    {fewer : Nat}
    {onTheWay : Node}
    (begun : LeadsOver fewer node onTheWay) :
    fewer ≤ modifiers := by
  induction begun generalizing modifiers with
  | here =>
      exact Nat.zero_le _
  | outward first _ inductionHypothesis =>
      cases leads with
      | here =>
          exact (ended _ first).elim
      | outward again later =>
          cases first.outer_unique again
          exact Nat.succ_le_succ (inductionHypothesis later)

end LeadsOver

/-- Every chain comes to an end. -/
theorem exists_leadsOver_ended (node : Node) :
    ∃ modifiers last,
      LeadsOver modifiers node last ∧ ∀ outer, ¬ Modifies last outer := by
  by_cases leadsOn : ∃ outer, Modifies node outer
  · obtain ⟨outer, first⟩ := leadsOn
    have higher := first.length_above
    obtain ⟨modifiers, last, later, ended⟩ := exists_leadsOver_ended outer
    exact ⟨modifiers + 1, last, .outward first later, ended⟩
  · exact ⟨0, node, .here node, not_exists.mp leadsOn⟩
termination_by node.above.length

/-- Two chains that open on calls of `expect` do not meet. -/
theorem AssertsBy.opening_unique
    {first second last : Node}
    {firstModifiers secondModifiers : Nat}
    {firstMatcher secondMatcher : String}
    (firstAsserts : AssertsBy first firstModifiers last firstMatcher)
    (secondAsserts : AssertsBy second secondModifiers last secondMatcher) :
    second = first := by
  -- Back from the common end there is one way, by the objects.
  have oneWayBack : Relator.RightUnique (Function.swap Modifies) :=
    fun _ _ _ left right => right.inner_unique left
  have connected :
      ReflTransGen Modifies first second ∨ ReflTransGen Modifies second first := by
    have back :=
      ReflTransGen.total_of_right_unique oneWayBack
        firstAsserts.leads.reflTransGen.swap secondAsserts.leads.reflTransGen.swap
    rcases back with fromFirst | fromSecond
    · exact .inr fromFirst.swap
    · exact .inl fromSecond.swap
  have opensNowhereElse
      {inner outer : Node}
      (leads : ReflTransGen Modifies inner outer)
      (opens : OpensOnExpect outer) :
      outer = inner := by
    rcases leads.cases_tail with same | ⟨_, _, modifies⟩
    · exact same
    · exact (modifies.not_opensOnExpect opens).elim
  rcases connected with outward | outward
  · exact opensNowhereElse outward secondAsserts.opens
  · exact (opensNowhereElse outward firstAsserts.opens).symm

/-! ## The loop -/

/-- The access whose object a node is. -/
def accessOn? (node : Node) : Option Node :=
  node.parent?.filter fun outer =>
    outer.isKind .memberExpression && node.isFieldOfParent "object"

/-- What the loop finds from a node on. -/
def matcherOf? (node : Node) : Option (Nat × String) :=
  matcherFrom? node.source node.focus node.above

theorem accessOn?_eq_some_iff {node outer : Node} :
    accessOn? node = some outer ↔
      outer.kind = .memberExpression ∧ outer.field? "object" = some node := by
  simp only [accessOn?, Option.filter_eq_some_iff, Bool.and_eq_true, Node.isKind,
    beq_iff_eq]
  constructor
  · rintro ⟨above, isMember, isObject⟩
    exact ⟨isMember, Node.field?_of_isFieldOfParent above isObject⟩
  · rintro ⟨isMember, held⟩
    exact ⟨Node.parent?_of_field? held, isMember, Node.isFieldOfParent_of_field? held⟩

/-- One round of the loop: it ends at a matcher and goes on from a modifier. -/
theorem matcherOf?_eq (node : Node) :
    matcherOf? node =
      (accessedName? node).bind fun name =>
        if name = "not" then
          (accessOn? node).bind fun outer =>
            (matcherOf? outer).map fun (modifiers, matcher) => (modifiers + 1, matcher)
        else
          some (0, name) := by
  rcases node with ⟨source, focus, above⟩
  rw [matcherOf?, matcherFrom?.eq_def, accessedName?]
  dsimp only
  cases Node.field? ⟨source, focus, above⟩ "property" with
  | none =>
      rfl
  | some property =>
      dsimp only [Option.map_some, Option.bind_some]
      by_cases isModifier : property.text = Vocabulary.notName
      · rw [if_pos isModifier, if_pos (show property.text = "not" from isModifier)]
        cases above with
        | nil =>
            rfl
        | cons frame rest =>
            simp only [accessOn?, Node.parent?, Option.filter_some]
            split <;> rfl
      · rw [if_neg isModifier, if_neg (show ¬ property.text = "not" from isModifier)]

section Loop

variable
  {node inner outer : Node}
  {modifiers : Nat}
  {matcher : String}

theorem matcherOf?_of_accessedName?
    (accessed : accessedName? node = some matcher)
    (isMatcher : matcher ≠ "not") :
    matcherOf? node = some (0, matcher) := by
  rw [matcherOf?_eq, accessed, Option.bind_some, if_neg isMatcher]

theorem matcherOf?_of_modifies (modifies : Modifies inner outer) :
    matcherOf? inner =
      (matcherOf? outer).map fun (modifiers, matcher) => (modifiers + 1, matcher) := by
  have leadsOn : accessOn? inner = some outer :=
    accessOn?_eq_some_iff.mpr ⟨modifies.outerMember, modifies.object⟩
  rw [matcherOf?_eq, modifies.modifier, Option.bind_some, if_pos rfl, leadsOn,
    Option.bind_some]

/-- Where the loop finds a matcher, it is at one already or at a modifier. -/
theorem accessedName?_or_modifies_of_matcherOf?
    (isMember : node.kind = .memberExpression)
    (found : matcherOf? node = some (modifiers, matcher)) :
    (modifiers = 0 ∧ accessedName? node = some matcher) ∨
      ∃ outer, Modifies node outer := by
  rw [matcherOf?_eq] at found
  obtain ⟨name, accessed, found⟩ := Option.bind_eq_some_iff.mp found
  split at found
  · next isModifier =>
      obtain ⟨outer, leadsOn, _⟩ := Option.bind_eq_some_iff.mp found
      obtain ⟨outerMember, object⟩ := accessOn?_eq_some_iff.mp leadsOn
      exact .inr ⟨outer, isMember, isModifier ▸ accessed, outerMember, object⟩
  · cases found
    exact .inl ⟨rfl, accessed⟩

/-- The loop finds what a chain leads to. -/
theorem LeadsOver.matcherOf?_eq_some
    {last : Node}
    (leads : LeadsOver modifiers node last)
    (accessed : accessedName? last = some matcher)
    (isMatcher : matcher ≠ "not") :
    matcherOf? node = some (modifiers, matcher) := by
  induction leads with
  | here =>
      exact matcherOf?_of_accessedName? accessed isMatcher
  | outward first _ inductionHypothesis =>
      rw [matcherOf?_of_modifies first, inductionHypothesis accessed]
      rfl

end Loop

/-- A chain leads to what the loop finds. -/
theorem exists_leadsOver_of_matcherOf?
    {node : Node}
    {modifiers : Nat}
    {matcher : String}
    (isMember : node.kind = .memberExpression)
    (found : matcherOf? node = some (modifiers, matcher)) :
    ∃ last, LeadsOver modifiers node last ∧ accessedName? last = some matcher := by
  rcases accessedName?_or_modifies_of_matcherOf? isMember found with
    ⟨rfl, accessed⟩ | ⟨outer, first⟩
  · exact ⟨node, .here node, accessed⟩
  · have higher := first.length_above
    rw [matcherOf?_of_modifies first] at found
    obtain ⟨⟨fewer, _⟩, foundOutward, same⟩ := Option.map_eq_some_iff.mp found
    cases same
    obtain ⟨last, later, accessed⟩ :=
      exists_leadsOver_of_matcherOf? first.outerMember foundOutward
    exact ⟨last, .outward first later, accessed⟩
termination_by node.above.length

/-- No matcher asserts that an element is there and that it is not. -/
theorem matchers_disjoint :
    ∀ matcher ∈ Vocabulary.presenceMatchers, matcher ∉ Vocabulary.absenceMatchers := by
  decide

/-- What a matcher asserts is turned around by an odd number of modifiers. -/
theorem assertionOf_of_known
    {modifiers : Nat}
    {matcher : String}
    (known :
      matcher ∈ Vocabulary.presenceMatchers ∨ matcher ∈ Vocabulary.absenceMatchers) :
    assertionOf modifiers matcher =
      if matcher ∈ Vocabulary.presenceMatchers ∧ Even modifiers ∨
          matcher ∈ Vocabulary.absenceMatchers ∧ Odd modifiers then
        .presenceAssertion
      else
        .absenceAssertion := by
  rcases known with presence | absence
  · have notAbsence := matchers_disjoint matcher presence
    rcases Nat.even_or_odd modifiers with even | odd
    · have remainder := Nat.even_iff.mp even
      simp [assertionOf, presence, even, remainder]
    · have remainder := Nat.odd_iff.mp odd
      simp [assertionOf, presence, notAbsence, remainder, Nat.not_even_iff_odd.mpr odd]
  · have notPresence : matcher ∉ Vocabulary.presenceMatchers :=
      fun presence => matchers_disjoint matcher presence absence
    rcases Nat.even_or_odd modifiers with even | odd
    · have remainder := Nat.even_iff.mp even
      simp [assertionOf, absence, notPresence, remainder, Nat.not_odd_iff_even.mpr even]
    · have remainder := Nat.odd_iff.mp odd
      simp [assertionOf, absence, notPresence, odd, remainder]

theorem known_of_isAssertion_assertionOf
    {modifiers : Nat}
    {matcher : String}
    (isAssertion : (assertionOf modifiers matcher).IsAssertion) :
    matcher ∈ Vocabulary.presenceMatchers ∨ matcher ∈ Vocabulary.absenceMatchers := by
  by_contra unknown
  obtain ⟨notPresence, notAbsence⟩ := not_or.mp unknown
  simp [assertionOf, notPresence, notAbsence, Category.IsAssertion] at isAssertion

section Category

variable
  {view : View}
  {node : Node}
  (isMember : node.kind = .memberExpression)

include isMember

theorem category_of_isMember : view.category node = assertion node := by
  rw [View.category, isMember]

theorem category_of_matcherOf?
    {modifiers : Nat}
    {matcher : String}
    (opens : OpensOnExpect node)
    (found : matcherOf? node = some (modifiers, matcher)) :
    view.category node = assertionOf modifiers matcher := by
  unfold matcherOf? at found
  simp [category_of_isMember isMember, assertion, Node.isKind, isMember, found,
    any_isExpectCall_iff.mpr opens]

theorem exists_matcherOf?_of_isAssertion
    (isAssertion : (view.category node).IsAssertion) :
    OpensOnExpect node ∧
      ∃ modifiers matcher,
        matcherOf? node = some (modifiers, matcher) ∧
          (assertionOf modifiers matcher).IsAssertion := by
  rw [category_of_isMember isMember, assertion] at isAssertion
  split at isAssertion
  · next opens =>
      split at isAssertion
      · next modifiers matcher found =>
          exact ⟨any_isExpectCall_iff.mp (Bool.and_eq_true_iff.mp opens).2,
            modifiers, matcher, found, isAssertion⟩
      · simp [Category.IsAssertion] at isAssertion
  · simp [Category.IsAssertion] at isAssertion

/-- A chain of an assertion makes the category of the access it opens with. -/
theorem AssertsBy.category
    {modifiers : Nat}
    {last : Node}
    {matcher : String}
    (asserts : AssertsBy node modifiers last matcher) :
    view.category node = assertionOf modifiers matcher :=
  category_of_matcherOf? isMember asserts.opens
    (asserts.leads.matcherOf?_eq_some asserts.accessed asserts.not_modifier)

/-- An access that is an assertion opens a chain of one. -/
theorem exists_assertsBy_of_isAssertion
    (isAssertion : (view.category node).IsAssertion) :
    ∃ modifiers last matcher, AssertsBy node modifiers last matcher := by
  obtain ⟨opens, modifiers, matcher, found, ofMatcher⟩ :=
    exists_matcherOf?_of_isAssertion isMember isAssertion
  obtain ⟨last, leads, accessed⟩ := exists_leadsOver_of_matcherOf? isMember found
  exact ⟨modifiers, last, matcher, opens, leads, accessed,
    known_of_isAssertion_assertionOf ofMatcher⟩

end Category

/--
A member access is an assertion exactly if it opens a chain from a call of
`expect` to a matcher. The matcher and the parity of the modifiers say which
assertion it is, no other access is an assertion by the same end of a chain, and
following the chain comes to an end.
-/
theorem assertions_are_read_off_chains
    (view : View)
    {node : Node}
    (isMember : node.kind = .memberExpression) :
    ((view.category node).IsAssertion ↔
        ∃ modifiers last matcher, AssertsBy node modifiers last matcher) ∧
      (∀ modifiers last matcher,
        AssertsBy node modifiers last matcher →
          (view.category node =
            if matcher ∈ Vocabulary.presenceMatchers ∧ Even modifiers ∨
                matcher ∈ Vocabulary.absenceMatchers ∧ Odd modifiers then
              .presenceAssertion
            else
              .absenceAssertion) ∧
          ∀ other otherModifiers otherMatcher,
            AssertsBy other otherModifiers last otherMatcher → other = node) ∧
      ∃ modifiers last,
        LeadsOver modifiers node last ∧
          (∀ outer, ¬ Modifies last outer) ∧
          ∀ fewer onTheWay, LeadsOver fewer node onTheWay → fewer ≤ modifiers := by
  refine ⟨⟨exists_assertsBy_of_isAssertion isMember, ?_⟩, ?_, ?_⟩
  · rintro ⟨modifiers, last, matcher, asserts⟩
    rw [asserts.category isMember, assertionOf_of_known asserts.known]
    split
    · exact .inl rfl
    · exact .inr rfl
  · intro modifiers last matcher asserts
    constructor
    · rw [asserts.category isMember, assertionOf_of_known asserts.known]
    · intro other otherModifiers otherMatcher otherAsserts
      exact asserts.opening_unique otherAsserts
  · obtain ⟨modifiers, last, leads, ended⟩ := exists_leadsOver_ended node
    exact ⟨modifiers, last, leads, ended, fun _ _ begun => leads.le_of_ended ended begun⟩

/-- The access to the matcher of `expect(x).not.not.toBeNull`. -/
def doublyModified : Node :=
  .root (.ofString "expect(x).not.not.toBeNull")
    (.node (View.namedLabel "member_expression" none 0 26)
      [.node (View.namedLabel "member_expression" (some "object") 0 17)
          [.node (View.namedLabel "member_expression" (some "object") 0 13)
              [.node (View.namedLabel "call_expression" (some "object") 0 9)
                  [.node (View.namedLabel "identifier" (some "function") 0 6) [],
                    .node (View.namedLabel "arguments" (some "arguments") 6 9)
                      [.node (View.namedLabel "identifier" none 7 8) []]],
                .node (View.namedLabel "property_identifier" (some "property") 10 13) []],
            .node (View.namedLabel "property_identifier" (some "property") 14 17) []],
        .node (View.namedLabel "property_identifier" (some "property") 18 26) []])

/-- Two modifiers leave what the matcher asserts as it is. -/
theorem doubly_modified_absence_is_absence :
    ∃ node,
      node.kind = .memberExpression ∧
        AssertsBy node 2 doublyModified "toBeNull" ∧
        View.category ⟨.default, .empty⟩ node = .absenceAssertion := by
  have second : Modifies _ doublyModified := ⟨by decide, by decide, by decide, rfl⟩
  have first : Modifies _ _ := ⟨by decide, by decide, second.innerMember, rfl⟩
  have asserts : AssertsBy _ 2 doublyModified "toBeNull" :=
    ⟨⟨_, _, rfl, rfl, rfl, rfl, by decide⟩,
      .outward first (.outward second (.here doublyModified)),
      by decide, .inr (by decide)⟩
  refine ⟨_, first.innerMember, asserts, ?_⟩
  obtain ⟨told, _⟩ :=
    (assertions_are_read_off_chains ⟨.default, .empty⟩ first.innerMember).2.1 _ _ _ asserts
  rw [told]
  decide

end UsageLint.Usage
