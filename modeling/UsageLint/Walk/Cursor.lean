import UsageLint.Syntax.Node

namespace UsageLint.Walk

open UsageLint.Syntax

/-!
# Cursors

A cursor stands on a node and remembers the kinds of the nodes above it. Its
one move, `next?`, goes to the first child, or else to the next sibling of the
nearest node that has one. Each move leaves fewer nodes ahead, so a cursor
comes to an end.
-/

/-- A place in a tree and the kinds of the nodes above it, nearest first. -/
structure Cursor where
  node : Node
  ancestors : List Kind

namespace Cursor

/-- A cursor on the topmost node. -/
def start (root : Node) : Cursor :=
  ⟨root, []⟩

/-- Climb until a node has a next sibling, and go there. -/
def climb?
    (source : Source) :
    Tree → List Frame → List Kind → Option Cursor
  | _, [], _ => none
  | tree, ⟨label, before, sibling :: after⟩ :: above, ancestors =>
      some ⟨⟨source, sibling, ⟨label, tree :: before, after⟩ :: above⟩, ancestors⟩
  | tree, ⟨label, before, []⟩ :: above, ancestors =>
      climb? source (Frame.close ⟨label, before, []⟩ tree) above ancestors.tail

/-- The next place in document order. -/
def next? (cursor : Cursor) : Option Cursor :=
  match cursor.node.firstChild? with
  | some child => some ⟨child, cursor.node.kind :: cursor.ancestors⟩
  | none =>
      climb? cursor.node.source cursor.node.focus cursor.node.above
        cursor.ancestors

/-- The number of nodes that come later than a place with these frames. -/
def later : List Frame → Nat
  | [] => 0
  | frame :: above => Tree.sizes frame.after + later above

/-- The number of nodes that a cursor has yet to come to. -/
def ahead (cursor : Cursor) : Nat :=
  Tree.sizes cursor.node.focus.children + later cursor.node.above

/-- Climbing comes to one of the later nodes. -/
theorem ahead_lt_of_climb?
    {source : Source}
    {tree : Tree}
    {above : List Frame}
    {ancestors : List Kind}
    {next : Cursor}
    (climbed : climb? source tree above ancestors = some next) :
    next.ahead < later above := by
  induction above generalizing tree ancestors with
  | nil =>
      simp [climb?] at climbed
  | cons frame above inductionHypothesis =>
      rcases frame with ⟨label, before, after⟩
      cases after with
      | nil =>
          have fewer := inductionHypothesis climbed
          simpa [later, Tree.sizes] using fewer
      | cons sibling after =>
          simp only [climb?, Option.some.injEq] at climbed
          subst climbed
          cases sibling with
          | node siblingLabel children =>
              simp only [ahead, later, Tree.sizes, Tree.size, Tree.children]
              omega

/-- Every move leaves fewer nodes ahead. -/
theorem ahead_lt_of_next?
    {cursor next : Cursor}
    (moved : cursor.next? = some next) :
    next.ahead < cursor.ahead := by
  rcases cursor with ⟨⟨source, ⟨label, children⟩, above⟩, ancestors⟩
  cases children with
  | nil =>
      have climbed : climb? source (.node label []) above ancestors = some next := by
        simpa [next?, Node.firstChild?, Tree.children] using moved
      have fewer := ahead_lt_of_climb? climbed
      simpa [ahead, Tree.children, Tree.sizes] using fewer
  | cons child after =>
      simp only [next?, Node.firstChild?, Tree.children, Option.some.injEq] at moved
      subst moved
      cases child with
      | node childLabel children =>
          simp only [ahead, later, Tree.sizes, Tree.size, Tree.children]
          omega

end Cursor

end UsageLint.Walk
