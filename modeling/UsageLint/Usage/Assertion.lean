import UsageLint.Syntax.Node
import UsageLint.Usage.Category
import UsageLint.Vocabulary

namespace UsageLint.Usage

open UsageLint.Syntax

/-!
# Assertions

An assertion is a chain of member accesses on a call of `expect`. The chain is
followed outward over `not` modifiers to the matcher; an odd number of them
turns the matcher's meaning around.
-/

/-- Whether a node is a call of `expect`. -/
def isExpectCall (node : Node) : Bool :=
  node.isKind .callExpression &&
    match node.field? "function" with
    | some callee =>
        callee.rawKind == "identifier" && callee.text == Vocabulary.expectName
    | none => false

/-- Follow a chain outward: the number of modifiers passed, and the matcher. -/
def matcherFrom? (source : Source) (tree : Tree) (above : List Frame) :
    Option (Nat × String) :=
  let node : Node := ⟨source, tree, above⟩
  match node.field? "property" with
  | none => none
  | some property =>
      if property.text = Vocabulary.notName then
        match above with
        | [] => none
        | frame :: rest =>
            let outer : Node := ⟨source, frame.close tree, rest⟩
            if outer.isKind .memberExpression && node.isFieldOfParent "object" then
              (matcherFrom? source (frame.close tree) rest).map
                fun (negations, matcher) => (negations + 1, matcher)
            else
              none
      else
        some (0, property.text)

/-- What a matcher asserts after a number of modifiers. -/
def assertionOf (negations : Nat) (matcher : String) : Category :=
  let negated := negations % 2 == 1
  if Vocabulary.presenceMatchers.contains matcher then
    if negated then .absenceAssertion else .presenceAssertion
  else if Vocabulary.absenceMatchers.contains matcher then
    if negated then .presenceAssertion else .absenceAssertion
  else
    .unrelated

/-- The category of a member access, which is that of the chain it opens. -/
def assertion (node : Node) : Category :=
  if node.isKind .memberExpression && (node.field? "object").any isExpectCall then
    match matcherFrom? node.source node.focus node.above with
    | some (negations, matcher) => assertionOf negations matcher
    | none => .unrelated
  else
    .unrelated

end UsageLint.Usage
