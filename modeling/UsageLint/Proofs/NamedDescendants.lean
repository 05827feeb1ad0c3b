import UsageLint.Proofs.CommentedLoads
import UsageLint.Proofs.WalkOrder

namespace UsageLint

open UsageLint.Imports
open UsageLint.Syntax
open UsageLint.Usage
open UsageLint.Walk

/-!
# Named descendants

The named nodes below a node are listed with a stack of nodes that wait. What such
a stack still lists are the nodes on it, each followed by what is below it, one
after another; so the list is that of a recursion that never enters an anonymous
node. Where named nodes have named parents, nothing named is missed in this way:
the list is what a walk visits, and imports may be collected from it.
-/

namespace Syntax.Node

theorem mem_siblingsFrom_of_split
    {source : Source}
    {label : Label}
    {above : List Frame}
    (before skipped rest : List Tree)
    (tree : Tree) :
    ⟨source, tree, ⟨label, skipped.reverse ++ before, rest⟩ :: above⟩ ∈
      siblingsFrom source label above before (skipped ++ tree :: rest) := by
  induction skipped generalizing before with
  | nil =>
      exact .head _
  | cons first skipped inductionHypothesis =>
      rw [List.cons_append, siblingsFrom, List.reverse_cons, List.append_assoc]
      exact .tail _ (inductionHypothesis (first :: before))

/-- A parent counts a node among its children. -/
theorem mem_children_of_parent?
    {node parent : Node}
    (above : node.parent? = some parent) :
    node ∈ parent.children := by
  rcases node with ⟨source, focus, _ | ⟨⟨label, before, after⟩, frames⟩⟩
  · cases above
  · cases above
    have among : _ ∈ siblingsFrom source label frames [] _ :=
      mem_siblingsFrom_of_split [] before.reverse after focus
    rwa [List.reverse_reverse, List.append_nil] at among

theorem length_above_of_parent?
    {node parent : Node}
    (above : node.parent? = some parent) :
    parent.above.length < node.above.length := by
  rcases node with ⟨source, focus, _ | ⟨frame, frames⟩⟩
  · cases above
  · cases above
    exact Nat.lt_succ_self _

/-- Above a node are its parent and the nodes above that. -/
theorem mem_ancestors_iff
    {top node : Node} :
    top ∈ node.ancestors ↔
      ∃ parent, node.parent? = some parent ∧
        (parent = top ∨ top ∈ parent.ancestors) := by
  rcases node with ⟨source, focus, _ | ⟨frame, frames⟩⟩
  · simp [ancestors, ancestorsFrom, parent?]
  · simp [ancestors, ancestorsFrom, parent?, eq_comm]

/-- What is listed of a node are the node itself and the nodes with a listed parent. -/
theorem mem_preorder_iff_parent?
    {top node : Node} :
    node ∈ top.preorder ↔
      node = top ∨ ∃ parent, node.parent? = some parent ∧ parent ∈ top.preorder := by
  constructor
  · intro among
    rcases eq_or_exists_parent_of_mem_preorder among with
      isTop | ⟨parent, parentAmong, below⟩
    · exact .inl isTop
    · exact .inr ⟨parent, parent?_of_mem_children below, parentAmong⟩
  · rintro (isTop | ⟨parent, above, parentAmong⟩)
    · exact isTop ▸ node.mem_preorder_self
    · exact mem_preorder_of_mem_children parentAmong (mem_children_of_parent? above)

/-- What is listed of a node are the node itself and the nodes it is above. -/
theorem mem_preorder_iff
    {top node : Node} :
    node ∈ top.preorder ↔ node = top ∨ top ∈ node.ancestors := by
  rw [mem_preorder_iff_parent?, mem_ancestors_iff]
  -- Both sides go on at the parent, which is nearer to the root.
  refine or_congr_right (exists_congr fun parent => and_congr_right fun above => ?_)
  have := length_above_of_parent? above
  exact mem_preorder_iff
termination_by node.above.length

/--
Whether a node comes before another in document order: it is above the other, or
both are at or below siblings, of which the one of the other is the later.
-/
def ComesBefore (earlier later : Node) : Prop :=
  earlier ∈ later.ancestors ∨
    ∃ parent first second : Node,
      [first, second].Sublist parent.children ∧
        earlier ∈ first.preorder ∧ later ∈ second.preorder

theorem mem_ancestors_of_mem_flatMap_children
    {top node : Node}
    (below : node ∈ top.children.flatMap preorder) :
    top ∈ node.ancestors := by
  have listed := top.nodup_preorder
  rw [preorder_eq_cons_flatMap, List.nodup_cons] at listed
  have among : node ∈ top.preorder := by
    rw [preorder_eq_cons_flatMap]
    exact .tail _ below
  rcases mem_preorder_iff.mp among with isTop | isAbove
  · exact absurd (isTop ▸ below) listed.1
  · exact isAbove

/-- Going through a tree comes to the nodes in document order. -/
theorem pairwise_preorder (top : Node) : top.preorder.Pairwise ComesBefore := by
  rw [preorder_eq_cons_flatMap, List.pairwise_cons, List.pairwise_flatMap,
    List.pairwise_iff_forall_sublist]
  refine ⟨?_, ?_, ?_⟩
  · intro later below
    exact .inl (mem_ancestors_of_mem_flatMap_children below)
  · intro child below
    have := size_lt_of_mem_children below
    exact pairwise_preorder child
  · intro first second inOrder earlier amongFirst later amongSecond
    exact .inr ⟨top, first, second, inOrder, amongFirst, amongSecond⟩
termination_by top.focus.size

/-- A stack lists the nodes on it one after another, with what is below each. -/
theorem listStack_eq_flatMap (stack : List Node) :
    listStack stack = stack.flatMap (listing Label.named) := by
  -- The named children that are pushed stand for all that is listed below their parent.
  induction stack using listStack.induct with
  | case1 =>
      rw [listStack, List.flatMap_nil]
  | case2 node stack inductionHypothesis =>
      rw [listStack, inductionHypothesis, push_eq_append, List.flatMap_append,
        List.flatMap_cons, listing_eq_cons_flatMap, List.cons_append]
      rfl

theorem descendants_eq_listing (node : Node) :
    node.descendants = node.listing Label.named := by
  rw [descendants, listStack_eq_flatMap, List.flatMap_singleton]

/-- Whether every named node below this one has a named parent. -/
def IsNamedFromAbove (top : Node) : Prop :=
  ∀ parent ∈ top.preorder,
    ∀ child ∈ parent.children, child.label.named = true → parent.label.named = true

instance (top : Node) : Decidable top.IsNamedFromAbove :=
  inferInstanceAs (Decidable (∀ parent ∈ _, ∀ child ∈ _, _ → _))

/-- What is below something below a node is below that node. -/
theorem mem_preorder_trans
    {top middle node : Node}
    (middleAmong : middle ∈ top.preorder)
    (among : node ∈ middle.preorder) :
    node ∈ top.preorder := by
  rw [preorder_eq_cons_flatMap] at middleAmong
  rcases List.mem_cons.mp middleAmong with isTop | deeper
  · rwa [← isTop]
  · obtain ⟨child, below, amongChild⟩ := List.mem_flatMap.mp deeper
    have := size_lt_of_mem_children below
    exact mem_preorder_of_child below (mem_preorder_trans amongChild among)
termination_by top.focus.size

theorem IsNamedFromAbove.of_mem_preorder
    {top node : Node}
    (fromAbove : top.IsNamedFromAbove)
    (among : node ∈ top.preorder) :
    node.IsNamedFromAbove :=
  fun parent below => fromAbove parent (mem_preorder_trans among below)

theorem IsNamedFromAbove.of_mem_children
    {top child : Node}
    (fromAbove : top.IsNamedFromAbove)
    (below : child ∈ top.children) :
    child.IsNamedFromAbove :=
  fromAbove.of_mem_preorder (mem_preorder_of_child below child.mem_preorder_self)

/-- Below an anonymous node all is anonymous. -/
theorem named_of_mem_preorder
    {top node : Node}
    (fromAbove : top.IsNamedFromAbove)
    (among : node ∈ top.preorder)
    (named : node.label.named = true) :
    top.label.named = true := by
  rw [preorder_eq_cons_flatMap] at among
  rcases List.mem_cons.mp among with isTop | deeper
  · rwa [← isTop]
  · obtain ⟨child, below, amongChild⟩ := List.mem_flatMap.mp deeper
    have := size_lt_of_mem_children below
    have childNamed : child.label.named = true :=
      named_of_mem_preorder (fromAbove.of_mem_children below) amongChild named
    exact fromAbove top top.mem_preorder_self child below childNamed
termination_by top.focus.size

/-- The named nodes below a node, in document order. -/
def namedBelow (node : Node) : List Node :=
  (node.children.flatMap preorder).filter (·.label.named)

/-- Lists of what is left out may be counted in where they are empty. -/
theorem flatMap_filter_eq
    {A B : Type}
    {keep : A → Bool}
    {listed counted : A → List B}
    (items : List A)
    (kept : ∀ item ∈ items, keep item = true → listed item = counted item)
    (leftOut : ∀ item ∈ items, ¬ keep item = true → counted item = []) :
    (items.filter keep).flatMap listed = items.flatMap counted := by
  induction items with
  | nil =>
      rfl
  | cons first rest inductionHypothesis =>
      obtain ⟨keptFirst, keptRest⟩ := List.forall_mem_cons.mp kept
      obtain ⟨firstOut, restOut⟩ := List.forall_mem_cons.mp leftOut
      rw [List.flatMap_cons, ← inductionHypothesis keptRest restOut]
      by_cases keep : keep first = true
      · rw [List.filter_cons_of_pos keep, List.flatMap_cons, keptFirst keep]
      · rw [List.filter_cons_of_neg keep, firstOut keep, List.nil_append]

/-- Where named nodes have named parents, a list that enters no others misses nothing. -/
theorem listing_named_eq
    (top : Node)
    (fromAbove : top.IsNamedFromAbove) :
    top.listing Label.named = top :: top.namedBelow := by
  rw [listing_eq_cons_flatMap, namedBelow, List.filter_flatMap]
  congr 1
  apply flatMap_filter_eq
  · intro child below named
    have := size_lt_of_mem_children below
    rw [listing_named_eq child (fromAbove.of_mem_children below),
      preorder_eq_cons_flatMap, List.filter_cons, if_pos named]
    rfl
  · intro child below anonymous
    rw [List.filter_eq_nil_iff]
    intro node among named
    exact anonymous (named_of_mem_preorder (fromAbove.of_mem_children below) among named)
termination_by top.focus.size

section Descendants

variable
  {node : Node}
  (fromAbove : node.IsNamedFromAbove)

include fromAbove

theorem descendants_eq_cons : node.descendants = node :: node.namedBelow := by
  rw [descendants_eq_listing, listing_named_eq node fromAbove]

theorem descendants_sublist_preorder : node.descendants.Sublist node.preorder := by
  rw [descendants_eq_cons fromAbove, preorder_eq_cons_flatMap]
  exact List.filter_sublist.cons_cons node

theorem mem_descendants_iff
    {other : Node} :
    other ∈ node.descendants ↔
      other = node ∨ other.label.named = true ∧ node ∈ other.ancestors := by
  rw [descendants_eq_cons fromAbove, List.mem_cons, namedBelow, List.mem_filter]
  constructor
  · rintro (isNode | ⟨below, named⟩)
    · exact .inl isNode
    · exact .inr ⟨named, mem_ancestors_of_mem_flatMap_children below⟩
  · rintro (isNode | ⟨named, isAbove⟩)
    · exact .inl isNode
    · have among : other ∈ node.preorder := mem_preorder_iff.mpr (.inr isAbove)
      rw [preorder_eq_cons_flatMap] at among
      exact (List.mem_cons.mp among).imp_right fun below => ⟨below, named⟩

/-- From a named node down, the list holds just the named nodes. -/
theorem descendants_eq_filter (named : node.label.named = true) :
    node.descendants = node.preorder.filter (·.label.named) := by
  rw [descendants_eq_cons fromAbove, preorder_eq_cons_flatMap, List.filter_cons,
    if_pos named]
  rfl

end Descendants

end Syntax.Node

/-- Show a node to a tracker, if it is of a kind that a tracker looks at. -/
def Imports.Tracker.observeNode
    (settings : Settings)
    (tracker : Tracker)
    (node : Node) :
    Tracker :=
  match node.kind with
  | .importDeclaration => tracker.observeImport settings node
  | .callExpression => tracker.observeRequire settings node
  | _ => tracker

/-- Named nodes are shown one after another, and nothing else is. -/
theorem importsOf_eq_foldl
    (settings : Settings)
    (nodes : List Node) :
    importsOf settings nodes =
      (nodes.filter (·.label.named)).foldl (Tracker.observeNode settings) .empty := by
  rw [importsOf, Tracker.after, List.foldl_filterMap, List.foldl_filter]
  congr 1
  funext tracker node
  unfold Observation.ofNode? Tracker.observeNode
  by_cases named : node.label.named = true
  · rw [if_pos named, if_pos named]
    cases node.kind <;> rfl
  · rw [if_neg named, if_neg named]

namespace Syntax.SourceTree

section Walked

variable
  {tree : SourceTree}
  (fromAbove : tree.root.IsNamedFromAbove)
  (named : tree.root.label.named = true)

include fromAbove named

/-- A walk calls its handlers for the nodes that are listed, and then for the end. -/
theorem walk_eq_foldl_descendants
    {C : Type}
    (listeners : Listeners C)
    (context : C) :
    walk listeners tree context =
      listeners.dispatchExit tree.root
        (tree.root.descendants.foldl
          (fun context node =>
            listeners.dispatch node (node.ancestors.map Node.kind) context)
          context) := by
  rw [Listeners.walk_eq_foldl, Node.descendants_eq_filter fromAbove named,
    List.foldl_filter]
  simp only [Listeners.dispatch_eq_callWhere]
  rfl

theorem imports_walk_tracking (settings : Settings) :
    (walk tracking tree (.initial settings)).imports =
      tree.root.descendants.foldl (Tracker.observeNode settings) .empty := by
  rw [walk_tracking, Node.descendants_eq_filter fromAbove named, ← importsOf_eq_foldl]
  rfl

end Walked

/--
In a tree where every named node below the root has a named parent, the list made
with a stack from any node begins with that node and holds besides just the named
nodes it is above, each once, in document order. From a named root, and in every
grammar the root is named, it holds the nodes that a walk calls its handlers for, in
their order, and a tracker that is shown these nodes ends like that of a walk.
-/
theorem descendants_are_what_a_walk_visits
    (tree : SourceTree)
    (fromAbove : tree.root.IsNamedFromAbove) :
    (∀ node ∈ tree.root.preorder,
        node.descendants.head? = some node ∧
          (∀ other,
            other ∈ node.descendants ↔
              other = node ∨ other.label.named = true ∧ node ∈ other.ancestors) ∧
          node.descendants.Nodup ∧
          node.descendants.Pairwise Node.ComesBefore) ∧
      (tree.root.label.named = true →
        (∀ {C : Type} (listeners : Listeners C) context,
            walk listeners tree context =
              listeners.dispatchExit tree.root
                (tree.root.descendants.foldl
                  (fun context node =>
                    listeners.dispatch node (node.ancestors.map Node.kind) context)
                  context)) ∧
          ∀ settings,
            (walk tracking tree (.initial settings)).imports =
              tree.root.descendants.foldl (Tracker.observeNode settings) .empty) := by
  refine ⟨?_, ?_⟩
  · intro node among
    have below := fromAbove.of_mem_preorder among
    have sublist := Node.descendants_sublist_preorder below
    refine ⟨?_, ?_, node.nodup_preorder.sublist sublist,
      node.pairwise_preorder.sublist sublist⟩
    · rw [Node.descendants_eq_cons below, List.head?_cons]
    · intro other
      exact Node.mem_descendants_iff below
  · intro named
    exact ⟨fun listeners context =>
        walk_eq_foldl_descendants fromAbove named listeners context,
      imports_walk_tracking fromAbove named⟩

section Example

/-- A label of a node in a text without errors. -/
def soundLabel (kind : String) (start stop : Nat) (named : Bool) : Label where
  kind := kind
  field := none
  start := start
  stop := stop
  named := named
  isError := false
  isMissing := false
  hasError := false

/-- A file that loads one module by name, with the quotes as anonymous nodes. -/
def sideEffectImport : SourceTree where
  source := .ofString "import 'vitest';"
  dialect := .tsx
  tree :=
    .node (soundLabel "program" 0 16 true)
      [.node (soundLabel "import_statement" 0 16 true)
        [.node (soundLabel "import" 0 6 false) [],
          .node (soundLabel "string" 7 15 true)
            [.node (soundLabel "'" 7 8 false) [],
              .node (soundLabel "string_fragment" 8 14 true) [],
              .node (soundLabel "'" 14 15 false) []],
          .node (soundLabel ";" 15 16 false) []]]

/-- The list of that file leaves out the quotes and other tokens, as a walk does. -/
theorem descendants_of_import :
    sideEffectImport.root.IsNamedFromAbove ∧
      sideEffectImport.root.label.named = true ∧
      sideEffectImport.root.descendants.map Node.rawKind =
        ["program", "import_statement", "string", "string_fragment"] ∧
      sideEffectImport.root.descendants.Pairwise Node.ComesBefore ∧
      ∀ settings,
        (walk tracking sideEffectImport (.initial settings)).imports =
          sideEffectImport.root.descendants.foldl (Tracker.observeNode settings)
            .empty := by
  have fromAbove : sideEffectImport.root.IsNamedFromAbove := by
    decide +kernel
  have named : sideEffectImport.root.label.named = true := by
    decide +kernel
  have listed :
      sideEffectImport.root.descendants.map Node.rawKind =
        ["program", "import_statement", "string", "string_fragment"] := by
    rw [Node.descendants_eq_filter fromAbove named]
    decide +kernel
  obtain ⟨lists, walks⟩ := descendants_are_what_a_walk_visits sideEffectImport fromAbove
  obtain ⟨_, _, _, inOrder⟩ := lists _ sideEffectImport.root.mem_preorder_self
  exact ⟨fromAbove, named, listed, inOrder, (walks named).2⟩

end Example

end Syntax.SourceTree

end UsageLint
