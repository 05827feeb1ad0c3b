import UsageLint.Syntax.Node

namespace UsageLint.Usage

open UsageLint.Syntax

/-!
# Chains

A chain is what a property hangs on: member accesses and calls, one inside the
other, down to what they start from. The chain of a property that is reached
from a plain identifier starts there; other chains have no start.
-/

/-- Whether a node is a plain identifier with a text. -/
def isPlainIdentifier (node : Node) (text : String) : Bool :=
  node.rawKind == "identifier" && node.text == text

/-- The member access that a node is the property of. -/
def memberOf? (node : Node) : Option Node :=
  node.parent?.filter fun parent =>
    parent.isKind .memberExpression && node.isFieldOfParent "property"

/-- Whether a node is what a call calls. -/
def isCallee (node : Node) : Bool :=
  node.parent?.any (·.isKind .callExpression) && node.isFieldOfParent "function"

/-- One step toward the start of a chain of member accesses and calls. -/
def towardStart? (node : Node) : Option Node :=
  match node.rawKind with
  | "member_expression" => node.field? "object"
  | "call_expression" => node.field? "function"
  | "non_null_expression" | "parenthesized_expression" =>
      node.namedChildren.head?
  | _ => none

/-- A step toward the start of a chain goes to a child. -/
theorem mem_children_of_towardStart?
    {node next : Node}
    (stepped : towardStart? node = some next) :
    next ∈ node.children := by
  unfold towardStart? at stepped
  split at stepped
  · exact List.mem_of_find?_eq_some stepped
  · exact List.mem_of_find?_eq_some stepped
  · exact (List.mem_filter.mp (List.mem_of_head? stepped)).1
  · exact (List.mem_filter.mp (List.mem_of_head? stepped)).1
  · simp at stepped

/-- The plain identifier that a chain of member accesses and calls starts from. -/
def chainStart? (node : Node) : Option Node :=
  if node.rawKind = "identifier" then
    some node
  else
    match stepped : towardStart? node with
    | some next =>
        have := Node.size_lt_of_mem_children (mem_children_of_towardStart? stepped)
        chainStart? next
    | none => none
termination_by node.focus.size

end UsageLint.Usage
