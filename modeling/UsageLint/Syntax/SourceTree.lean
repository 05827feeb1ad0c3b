import UsageLint.Syntax.Dialect
import UsageLint.Syntax.Node
import UsageLint.Text.Quoted

namespace UsageLint.Syntax

/-!
# Source trees

A source tree is a source read in one dialect. Reading never fails: what a
grammar cannot place becomes an error node, and `firstError?` finds the first
of them by following the error marks down from the root.
-/

/-- A source and the tree it was read as. -/
structure SourceTree where
  source : Source
  tree : Tree
  dialect : Dialect
deriving Repr

/-- A way to read any source in any dialect. -/
structure Grammar where
  read : Dialect → Source → Tree

/-- The text shown for a node: its kind, where it starts, and its text. -/
def Node.describe (node : Node) : String :=
  node.rawKind ++ "@" ++ node.position.render ++ " " ++ Text.quote node.text

/-- Whether a node itself stands for a syntax error. -/
def Label.isFaulty (label : Label) : Bool :=
  label.isError || label.isMissing

namespace Tree

mutual

/--
The start of the first syntax error at or below a node marked as containing
one: the first marked child is followed until a node is an error itself or
has no marked child.
-/
def errorStart : Tree → Nat
  | node label children =>
      if label.isFaulty then
        label.start
      else
        errorStartAmong label.start children

/-- The start of the first error among trees, of which none may be marked. -/
def errorStartAmong (fallback : Nat) : List Tree → Nat
  | [] => fallback
  | tree :: rest =>
      if tree.label.hasError then
        tree.errorStart
      else
        errorStartAmong fallback rest

end

end Tree

namespace SourceTree

/-- Read a source. -/
def read (grammar : Grammar) (dialect : Dialect) (source : Source) : SourceTree :=
  ⟨source, grammar.read dialect source, dialect⟩

/-- The topmost node. -/
def root (tree : SourceTree) : Node :=
  Node.root tree.source tree.tree

/-- The text shown for a tree: its dialect and the size of its source. -/
def describe (tree : SourceTree) : String :=
  let size := tree.source.size
  "SourceTree \x7b dialect: " ++ tree.dialect.label ++ s!", len: {size}, .. \x7d"

/-- Whether the tree contains syntax errors. -/
def hasErrors (tree : SourceTree) : Bool :=
  tree.tree.label.hasError

/-- Where the first syntax error starts. -/
def firstError? (tree : SourceTree) : Option Position :=
  if tree.hasErrors then
    some (tree.source.position tree.tree.errorStart)
  else
    none

end SourceTree

end UsageLint.Syntax
