import Mathlib.Data.List.Nodup
import UsageLint.Proofs.DocumentOrder
import UsageLint.Walk.Listeners

namespace UsageLint.Walk

open UsageLint.Syntax

/-!
# The order of a walk

A cursor goes from place to place by single moves and keeps a stack of kinds.
Here its run is compared with the tree itself: the places it comes to are those
of `Node.preorder`, and the stack it carries is that of the nodes above it.
A walk therefore makes the calls of `Listeners.schedule`, one after another.
-/

namespace Cursor

/-- The nodes that come after a subtree, in document order. -/
def followingFrom (source : Source) : Tree → List Frame → List Node
  | _, [] => []
  | tree, frame :: above =>
      Node.listingAmong (fun _ => true) source above frame.label
          (tree :: frame.before) frame.after ++
        followingFrom source (frame.close tree) above

/-- The node under a cursor and all that come after it, in document order. -/
def remaining (cursor : Cursor) : List Node :=
  cursor.node.preorder ++
    followingFrom cursor.node.source cursor.node.focus cursor.node.above

/-- A cursor is aligned if it remembers the kinds of the nodes above it. -/
def Aligned (cursor : Cursor) : Prop :=
  cursor.ancestors = cursor.node.ancestors.map Node.kind

/-- The cursor after a number of moves; none once it has left the tree. -/
def after? (cursor : Cursor) : Nat → Option Cursor
  | 0 => some cursor
  | moves + 1 => cursor.next?.bind (·.after? moves)

theorem aligned_start (source : Source) (tree : Tree) :
    (start (Node.root source tree)).Aligned :=
  rfl

theorem remaining_start (source : Source) (tree : Tree) :
    (start (Node.root source tree)).remaining =
      (Node.root source tree).preorder := by
  simp [remaining, start, Node.root, followingFrom]

/-- The node under a cursor is the first of those that remain. -/
theorem remaining_eq_cons (cursor : Cursor) :
    cursor.remaining =
      cursor.node ::
        (cursor.node.children.flatMap Node.preorder ++
          followingFrom cursor.node.source cursor.node.focus
            cursor.node.above) := by
  rw [remaining, Node.preorder_eq_cons_flatMap]
  rfl

/-- Climbing comes to the first of the nodes after a subtree. -/
theorem remaining_of_climb?
    {source : Source}
    {tree : Tree}
    {above : List Frame}
    {ancestors : List Kind}
    {next : Cursor}
    (climbed : climb? source tree above ancestors = some next) :
    next.remaining = followingFrom source tree above := by
  induction above generalizing tree ancestors with
  | nil =>
      simp [climb?] at climbed
  | cons frame above inductionHypothesis =>
      rcases frame with ⟨label, before, after⟩
      cases after with
      | nil =>
          -- A last child adds nothing of its own level: the climb goes on.
          rw [inductionHypothesis climbed]
          simp [followingFrom, Node.listingAmong]
      | cons sibling after =>
          simp only [climb?, Option.some.injEq] at climbed
          subst climbed
          simp [remaining, followingFrom, Node.listingAmong, Node.preorder,
            Frame.close]

/-- Climbing fails only where no node comes after a subtree. -/
theorem followingFrom_of_climb?
    {source : Source}
    {tree : Tree}
    {above : List Frame}
    {ancestors : List Kind}
    (ended : climb? source tree above ancestors = none) :
    followingFrom source tree above = [] := by
  induction above generalizing tree ancestors with
  | nil =>
      rfl
  | cons frame above inductionHypothesis =>
      rcases frame with ⟨label, before, after⟩
      cases after with
      | nil =>
          simpa [followingFrom, Node.listingAmong] using
            inductionHypothesis ended
      | cons sibling after =>
          simp [climb?] at ended

/-- Climbing drops one remembered kind for each level it climbs. -/
theorem aligned_of_climb?
    {source : Source}
    {tree : Tree}
    {above : List Frame}
    {ancestors : List Kind}
    {next : Cursor}
    (kinds : ancestors = above.map (Kind.ofGrammar ·.label.kind))
    (climbed : climb? source tree above ancestors = some next) :
    next.Aligned := by
  induction above generalizing tree ancestors with
  | nil =>
      simp [climb?] at climbed
  | cons frame above inductionHypothesis =>
      rcases frame with ⟨label, before, after⟩
      cases after with
      | nil =>
          exact inductionHypothesis (by simp [kinds]) climbed
      | cons sibling after =>
          simp only [climb?, Option.some.injEq] at climbed
          subst climbed
          simp [Aligned, Node.ancestors, Node.map_kind_ancestorsFrom, kinds]

/-- A move leaves the node under the cursor behind, and no other. -/
theorem remaining_of_next?
    {cursor next : Cursor}
    (moved : cursor.next? = some next) :
    cursor.remaining = cursor.node :: next.remaining := by
  rcases cursor with ⟨⟨source, ⟨label, children⟩, above⟩, ancestors⟩
  cases children with
  | nil =>
      have climbed : climb? source (.node label []) above ancestors = some next := by
        simpa [next?, Node.firstChild?, Tree.children] using moved
      rw [remaining_of_climb? climbed]
      simp [remaining, Node.preorder, Node.listingFrom, Node.listingAmong]
  | cons child after =>
      simp only [next?, Node.firstChild?, Tree.children, Option.some.injEq] at moved
      subst moved
      simp [remaining, followingFrom, Node.preorder, Node.listingFrom,
        Node.listingAmong, Node.label, Tree.label, Frame.close]

/-- A cursor stops only on the last node. -/
theorem remaining_of_next?_none
    {cursor : Cursor}
    (ended : cursor.next? = none) :
    cursor.remaining = [cursor.node] := by
  rcases cursor with ⟨⟨source, ⟨label, children⟩, above⟩, ancestors⟩
  cases children with
  | nil =>
      have climbed : climb? source (.node label []) above ancestors = none := by
        simpa [next?, Node.firstChild?, Tree.children] using ended
      simp [remaining, followingFrom_of_climb? climbed, Node.preorder,
        Node.listingFrom, Node.listingAmong]
  | cons child after =>
      simp [next?, Node.firstChild?, Tree.children] at ended

theorem aligned_of_next?
    {cursor next : Cursor}
    (aligned : cursor.Aligned)
    (moved : cursor.next? = some next) :
    next.Aligned := by
  rcases cursor with ⟨⟨source, ⟨label, children⟩, above⟩, ancestors⟩
  simp only [Aligned, Node.ancestors, Node.map_kind_ancestorsFrom] at aligned
  cases children with
  | nil =>
      have climbed : climb? source (.node label []) above ancestors = some next := by
        simpa [next?, Node.firstChild?, Tree.children] using moved
      exact aligned_of_climb? aligned climbed
  | cons child after =>
      simp only [next?, Node.firstChild?, Tree.children, Option.some.injEq] at moved
      subst moved
      simp only [Aligned, Node.ancestors, Node.map_kind_ancestorsFrom,
        List.map_cons, aligned]
      rfl

/-- Counted in moves, a cursor comes to the remaining nodes and then ends. -/
theorem map_node_after?
    (cursor : Cursor)
    (moves : Nat) :
    (cursor.after? moves).map node = cursor.remaining[moves]? := by
  induction moves generalizing cursor with
  | zero =>
      simp [after?, remaining_eq_cons]
  | succ moves inductionHypothesis =>
      cases moved : cursor.next? with
      | none =>
          simp [after?, moved, remaining_of_next?_none moved]
      | some next =>
          simp [after?, moved, remaining_of_next? moved, inductionHypothesis]

end Cursor

namespace Selector

/-- What a selector asks of a node, said of the node and those above it. -/
def Selects (selector : Selector) (node : Node) : Prop :=
  match selector with
  | every kind => node.kind = kind
  | below ancestor kind =>
      node.kind = kind ∧ ∃ upper ∈ node.ancestors, upper.kind = ancestor
  | programExit => False

/-- Picking by the kinds above a node is selecting by the nodes above it. -/
theorem picks_iff_selects (selector : Selector) (node : Node) :
    selector.picks node.kind (node.ancestors.map Node.kind) = true ↔
      selector.Selects node := by
  cases selector with
  | every kind =>
      simpa only [picks, Selects, beq_iff_eq] using eq_comm
  | below ancestor kind =>
      simp only [picks, Selects, Bool.and_eq_true, beq_iff_eq,
        List.contains_eq_mem, decide_eq_true_eq, List.mem_map]
      exact and_congr_left' eq_comm
  | programExit =>
      simp [picks, Selects]

instance (selector : Selector) (node : Node) : Decidable (selector.Selects node) :=
  decidable_of_iff _ (picks_iff_selects selector node)

theorem ne_programExit_of_selects
    {selector : Selector}
    {node : Node}
    (selected : selector.Selects node) :
    selector ≠ .programExit := by
  rintro rfl
  exact selected

end Selector

namespace Listeners

variable {C : Type}

/-- A handler, by the number of its registration, and the node it is called with. -/
abbrev Call (listeners : Listeners C) : Type :=
  Fin listeners.entries.length × Node

/-- The handlers whose selectors pass a test, in the order of registration. -/
def handlersFor
    (listeners : Listeners C)
    (test : Selector → Prop)
    [DecidablePred test] :
    List (Fin listeners.entries.length) :=
  (List.finRange listeners.entries.length).filter fun number =>
    test (listeners.entries.get number).selector

/-- The calls for one node of the tree. -/
def callsAt (listeners : Listeners C) (node : Node) : List listeners.Call :=
  (listeners.handlersFor (·.Selects node)).map (·, node)

/-- The calls at the end of a walk, made for the root. -/
def exitCalls (listeners : Listeners C) (root : Node) : List listeners.Call :=
  (listeners.handlersFor (· = .programExit)).map (·, root)

/-- All calls of a walk: for each named node in document order, then at the end. -/
def schedule (listeners : Listeners C) (root : Node) : List listeners.Call :=
  (root.preorder.filter (·.label.named)).flatMap listeners.callsAt ++
    listeners.exitCalls root

/-- Make one call: the handler is given the node and the context so far. -/
def perform (listeners : Listeners C) (context : C) (call : listeners.Call) : C :=
  (listeners.entries.get call.1).handle call.2 context

/-- Call the handlers whose selectors pass a test. -/
def callWhere
    (listeners : Listeners C)
    (test : Selector → Prop)
    [DecidablePred test]
    (node : Node)
    (context : C) :
    C :=
  listeners.entries.foldl
    (fun context entry =>
      if test entry.selector then entry.handle node context else context)
    context

/-- What a walk does at one node: anonymous ones are passed by. -/
def visitNode (listeners : Listeners C) (context : C) (node : Node) : C :=
  if node.label.named then
    listeners.callWhere (·.Selects node) node context
  else
    context

theorem dispatch_eq_callWhere
    (listeners : Listeners C)
    (node : Node)
    (context : C) :
    listeners.dispatch node (node.ancestors.map Node.kind) context =
      listeners.callWhere (·.Selects node) node context := by
  simp only [dispatch, callWhere, Selector.picks_iff_selects]

theorem visit_eq_foldl
    (listeners : Listeners C)
    {cursor : Cursor}
    (context : C)
    (aligned : cursor.Aligned) :
    listeners.visit cursor context =
      cursor.remaining.foldl listeners.visitNode context := by
  -- The stack is read only where it is that of the nodes above, by alignment.
  fun_induction Listeners.visit listeners cursor context with
  | case1 cursor context visited next moved smaller inductionHypothesis =>
      rw [inductionHypothesis (Cursor.aligned_of_next? aligned moved),
        Cursor.remaining_of_next? moved, List.foldl_cons, visitNode,
        ← dispatch_eq_callWhere, ← aligned]
      rfl
  | case2 cursor context visited ended =>
      rw [Cursor.remaining_of_next?_none ended, List.foldl_cons, visitNode,
        ← dispatch_eq_callWhere, ← aligned]
      rfl

/-- A walk does its work at the nodes in document order, and then at the end. -/
theorem walk_eq_foldl
    (listeners : Listeners C)
    (tree : SourceTree)
    (context : C) :
    walk listeners tree context =
      listeners.callWhere (· = .programExit) tree.root
        (tree.root.preorder.foldl listeners.visitNode context) := by
  have aligned := Cursor.aligned_start tree.source tree.tree
  rw [walk, SourceTree.root, visit_eq_foldl listeners context aligned,
    Cursor.remaining_start]
  rfl

/-- Calling the handlers that pass a test is making the calls for them. -/
theorem foldl_perform_handlersFor
    (listeners : Listeners C)
    (test : Selector → Prop)
    [DecidablePred test]
    (node : Node)
    (context : C) :
    ((listeners.handlersFor test).map (·, node)).foldl listeners.perform context =
      listeners.callWhere test node context := by
  rw [handlersFor, List.foldl_map, List.foldl_filter, callWhere]
  conv_rhs =>
    rw [← List.map_get_finRange listeners.entries, List.foldl_map]
  simp only [decide_eq_true_eq]
  rfl

theorem foldl_visitNode
    (listeners : Listeners C)
    (nodes : List Node)
    (context : C) :
    nodes.foldl listeners.visitNode context =
      ((nodes.filter (·.label.named)).flatMap listeners.callsAt).foldl
        listeners.perform context := by
  induction nodes generalizing context with
  | nil =>
      rfl
  | cons node rest inductionHypothesis =>
      rw [List.foldl_cons, inductionHypothesis, visitNode]
      by_cases named : node.label.named = true
      · simp [named, callsAt, foldl_perform_handlersFor]
      · simp [named]

/-- A walk makes the scheduled calls, one after another. -/
theorem walk_eq_foldl_schedule
    (listeners : Listeners C)
    (tree : SourceTree)
    (context : C) :
    walk listeners tree context =
      (listeners.schedule tree.root).foldl listeners.perform context := by
  rw [walk_eq_foldl, foldl_visitNode, schedule, List.foldl_append, exitCalls,
    foldl_perform_handlersFor]

/-- A call is scheduled where the selector of its handler asks for it. -/
theorem mem_schedule
    (listeners : Listeners C)
    {root node : Node}
    {number : Fin listeners.entries.length} :
    (number, node) ∈ listeners.schedule root ↔
      (node ∈ root.preorder ∧ node.label.named = true ∧
          (listeners.entries.get number).selector.Selects node) ∨
        ((listeners.entries.get number).selector = .programExit ∧
          node = root) := by
  simp only [schedule, callsAt, exitCalls, handlersFor, List.mem_append,
    List.mem_flatMap, List.mem_filter, List.mem_map, List.mem_finRange,
    Prod.mk.injEq, decide_eq_true_eq]
  grind

theorem nodup_map_handlersFor
    (listeners : Listeners C)
    (test : Selector → Prop)
    [DecidablePred test]
    (node : Node) :
    ((listeners.handlersFor test).map (·, node)).Nodup := by
  refine List.Nodup.map ?_ ((List.nodup_finRange _).filter _)
  intro first second same
  exact congrArg Prod.fst same

/-- No call is scheduled twice. -/
theorem nodup_schedule
    (listeners : Listeners C)
    (root : Node) :
    (listeners.schedule root).Nodup := by
  refine List.nodup_append.mpr ⟨?_, ?_, ?_⟩
  · refine List.nodup_flatMap.mpr
      ⟨fun node _ => listeners.nodup_map_handlersFor _ node, ?_⟩
    refine (root.nodup_preorder.filter _).imp ?_
    intro first second different call atFirst atSecond
    obtain ⟨_, _, rfl⟩ := List.mem_map.mp atFirst
    obtain ⟨_, _, same⟩ := List.mem_map.mp atSecond
    exact different (congrArg Prod.snd same).symm
  · exact listeners.nodup_map_handlersFor _ root
  · -- A handler for the end of the file is called for no node before.
    intro call atNode exitCall atExit same
    subst same
    obtain ⟨node, _, called⟩ := List.mem_flatMap.mp atNode
    obtain ⟨number, selected, rfl⟩ := List.mem_map.mp called
    obtain ⟨exitNumber, atEnd, sameCall⟩ := List.mem_map.mp atExit
    simp only [handlersFor, List.mem_filter, decide_eq_true_eq] at selected atEnd
    injection sameCall with sameNumber _
    subst sameNumber
    exact Selector.ne_programExit_of_selects selected.2 atEnd.2

/--
The cursor of a walk comes to the nodes of the tree in document order and then
leaves the tree. The walk has the effect of the scheduled calls, made one after
another, and the schedule holds exactly one call of each handler for each named
node that its selector asks for, and one with the root for each handler of the
end of the file.
-/
theorem walk_makes_each_call_once
    (listeners : Listeners C)
    (tree : SourceTree)
    (context : C) :
    (∀ moves,
        ((Cursor.start tree.root).after? moves).map Cursor.node =
          tree.root.preorder[moves]?) ∧
      walk listeners tree context =
        (listeners.schedule tree.root).foldl listeners.perform context ∧
      (listeners.schedule tree.root).Nodup ∧
      ∀ number node,
        (number, node) ∈ listeners.schedule tree.root ↔
          (node ∈ tree.root.preorder ∧ node.label.named = true ∧
              (listeners.entries.get number).selector.Selects node) ∨
            ((listeners.entries.get number).selector = .programExit ∧
              node = tree.root) := by
  refine ⟨?_, walk_eq_foldl_schedule listeners tree context,
    listeners.nodup_schedule tree.root, fun _ _ => listeners.mem_schedule⟩
  intro moves
  rw [Cursor.map_node_after?, SourceTree.root, Cursor.remaining_start]

end Listeners

end UsageLint.Walk
