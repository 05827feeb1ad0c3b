import UsageLint.Syntax.Kind

namespace UsageLint.Syntax

/-!
# Syntax trees

A tree holds the label of one node and the trees below it, named and anonymous
alike. What a tree looks like from inside, with parents and siblings, is the
matter of `UsageLint.Syntax.Node`.
-/

/-- What a grammar says of one node. -/
structure Label where
  kind : String
  field : Option String
  start : Nat
  stop : Nat
  named : Bool
  isError : Bool
  isMissing : Bool
  hasError : Bool
deriving Repr, DecidableEq

/-- A node and the nodes below it in document order. -/
inductive Tree where
  | node (label : Label) (children : List Tree)
deriving Repr

namespace Tree

/-- The label of the topmost node. -/
def label : Tree → Label
  | node label _ => label

/-- The trees directly below the topmost node. -/
def children : Tree → List Tree
  | node _ children => children

mutual

/-- The number of nodes. -/
def size : Tree → Nat
  | node _ children => 1 + sizes children

/-- The number of nodes of several trees. -/
def sizes : List Tree → Nat
  | [] => 0
  | tree :: rest => tree.size + sizes rest

end

theorem sizes_append (first second : List Tree) :
    sizes (first ++ second) = sizes first + sizes second := by
  induction first with
  | nil =>
      rw [List.nil_append, sizes, Nat.zero_add]
  | cons tree rest inductionHypothesis =>
      rw [List.cons_append, sizes, sizes, inductionHypothesis, Nat.add_assoc]

end Tree

end UsageLint.Syntax
