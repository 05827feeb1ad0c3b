import UsageLint.Syntax.Tree

namespace UsageLint.Syntax

/-!
# Outlines

An outline is a tree written flat: every node in document order, each with its
depth. `Tree.ofOutline?` reads it back, and `Tree.outline` writes it.
-/

/-- One line of an outline. -/
structure OutlineEntry where
  depth : Nat
  label : Label
deriving Repr, DecidableEq

namespace Tree

mutual

/-- The outline of a tree whose topmost node has the given depth. -/
def outline (depth : Nat) : Tree → List OutlineEntry
  | node label children => ⟨depth, label⟩ :: outlines (depth + 1) children

/-- The outline of sibling trees. -/
def outlines (depth : Nat) : List Tree → List OutlineEntry
  | [] => []
  | tree :: rest => tree.outline depth ++ outlines depth rest

end

/--
Fold an outline from its end: the trees read so far, each with its depth, wait
for the entry that is their parent.
-/
def gather
    (entry : OutlineEntry)
    (waiting : List (Nat × Tree)) :
    List (Nat × Tree) :=
  let children := waiting.takeWhile (·.1 == entry.depth + 1)
  (entry.depth, node entry.label (children.map (·.2))) ::
    waiting.drop children.length

/-- The tree of an outline with a single topmost node, at depth zero. -/
def ofOutline? (entries : List OutlineEntry) : Option Tree :=
  match entries.foldr gather [] with
  | [(0, tree)] => some tree
  | _ => none

end Tree

end UsageLint.Syntax
