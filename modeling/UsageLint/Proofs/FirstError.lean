import UsageLint.Proofs.DocumentOrder
import UsageLint.Proofs.PositionOrder
import UsageLint.Syntax.SourceTree

namespace UsageLint.Syntax

/-!
# The first syntax error

From a marked node, the search for the first error goes to the first marked child
and never comes back. Where the marks are right, that is: where a node is marked if
and only if it is an error or has a marked child, this way ends on the error that
document order comes to first. In the tree of a text, where what is below a node
lies one behind the other in its span, no other error starts before that one.
-/

namespace Node

/-- The first error at or below a node, in document order. -/
def firstFaulty? (node : Node) : Option Node :=
  node.preorder.find? (·.label.isFaulty)

/-- Whether a node is marked as it should be: if it is an error or a child is marked. -/
def IsMarkedRight (node : Node) : Prop :=
  node.label.hasError = true ↔
    node.label.isFaulty = true ∨ ∃ child ∈ node.children, child.label.hasError = true

/--
Whether the children of a node lie in its span, one behind the other. No two children
overlap in the tree of a text, so there the order of their starts says the same; of
two that did overlap, the second might hold the error that starts first.
-/
structure IsLaidOut (node : Node) : Prop where
  inside :
    ∀ child ∈ node.children,
      node.label.start ≤ child.label.start ∧
        child.label.start ≤ child.label.stop ∧
        child.label.stop ≤ node.label.stop
  inOrder :
    node.children.Pairwise fun earlier later => earlier.label.stop ≤ later.label.start

instance (node : Node) : Decidable node.IsMarkedRight :=
  inferInstanceAs (Decidable (_ ↔ _))

instance (node : Node) : Decidable node.IsLaidOut :=
  decidable_of_iff (_ ∧ _) ⟨fun ⟨inside, inOrder⟩ => ⟨inside, inOrder⟩,
    fun laidOut => ⟨laidOut.inside, laidOut.inOrder⟩⟩

theorem map_focus_siblingsFrom
    (source : Source)
    (label : Label)
    (above : List Frame)
    (before trees : List Tree) :
    (siblingsFrom source label above before trees).map focus = trees := by
  induction trees generalizing before with
  | nil =>
      rfl
  | cons tree after inductionHypothesis =>
      rw [siblingsFrom, List.map_cons, inductionHypothesis]

/-- The nodes below a node stand for the trees below it. -/
theorem map_focus_children (node : Node) :
    node.children.map focus = node.focus.children :=
  map_focus_siblingsFrom ..

end Node

namespace Tree

/-- Where the search ends if it comes to this tree; to trees not marked it never comes. -/
def markedStart? (tree : Tree) : Option Nat :=
  if tree.label.hasError then some tree.errorStart else none

theorem isSome_markedStart? (tree : Tree) :
    tree.markedStart?.isSome = tree.label.hasError := by
  unfold markedStart?
  split <;> simp_all

/-- Among several trees, the search goes on in the first marked one. -/
theorem errorStartAmong_eq (fallback : Nat) (trees : List Tree) :
    errorStartAmong fallback trees = (trees.findSome? markedStart?).getD fallback := by
  induction trees with
  | nil =>
      rfl
  | cons tree rest inductionHypothesis =>
      rw [errorStartAmong, List.findSome?_cons, markedStart?]
      split
      · rfl
      · exact inductionHypothesis

/-- From a tree that is no error itself, the search goes on below it. -/
theorem markedStart?_of_not_isFaulty
    {tree : Tree}
    (notFaulty : tree.label.isFaulty = false)
    (marked :
      tree.label.hasError = true ↔ ∃ child ∈ tree.children, child.label.hasError = true) :
    tree.markedStart? = tree.children.findSome? markedStart? := by
  rcases tree with ⟨label, trees⟩
  change label.isFaulty = false at notFaulty
  change label.hasError = true ↔ ∃ child ∈ trees, child.label.hasError = true at marked
  change markedStart? (node label trees) = trees.findSome? markedStart?
  have isSome :
      (trees.findSome? markedStart?).isSome = true ↔ label.hasError = true := by
    simp [marked, List.findSome?_isSome_iff, isSome_markedStart?]
  by_cases isMarked : label.hasError = true
  · obtain ⟨start, found⟩ := Option.isSome_iff_exists.mp (isSome.mpr isMarked)
    simp [markedStart?, Tree.label, isMarked, errorStart, notFaulty,
      errorStartAmong_eq, found]
  · have notFound : trees.findSome? markedStart? = none := by
      rw [← Option.not_isSome_iff_eq_none, isSome]
      exact isMarked
    rw [notFound, markedStart?, Tree.label, if_neg isMarked]

end Tree

namespace Node

/-- Below a node that is no error, the first error is that of the first child with one. -/
theorem firstFaulty?_of_not_isFaulty
    {node : Node}
    (notFaulty : node.label.isFaulty = false) :
    node.firstFaulty? = node.children.findSome? firstFaulty? := by
  rw [firstFaulty?, preorder_eq_cons_flatMap,
    List.find?_cons_of_neg (by simp [notFaulty]), List.find?_flatMap]
  rfl

/-- Where all marks are right, the search ends on the first error. -/
theorem map_start_firstFaulty?
    (node : Node)
    (marked : ∀ below ∈ node.preorder, below.IsMarkedRight) :
    node.firstFaulty?.map (·.label.start) = node.focus.markedStart? := by
  have here : node.IsMarkedRight := marked node node.mem_preorder_self
  by_cases faulty : node.label.isFaulty = true
  · have isMarked : node.label.hasError = true := here.mpr (.inl faulty)
    have found : node.firstFaulty? = some node := by
      simp [firstFaulty?, preorder_eq_cons_flatMap, faulty]
    rcases node with ⟨source, ⟨label, trees⟩, above⟩
    simp only [Node.label, Tree.label] at faulty isMarked
    rw [found]
    simp [Tree.markedStart?, Tree.errorStart, Node.label, Tree.label, isMarked, faulty]
  · -- The search goes on below, child by child as document order does.
    have alike :
        ∀ child ∈ node.children,
          child.firstFaulty?.map (·.label.start) = child.focus.markedStart? := by
      intro child among
      have := size_lt_of_mem_children among
      exact map_start_firstFaulty? child fun later amongLater =>
        marked later (mem_preorder_of_child among amongLater)
    have below :
        node.firstFaulty?.map (·.label.start) =
          node.focus.children.findSome? Tree.markedStart? := by
      rw [firstFaulty?_of_not_isFaulty (Bool.eq_false_iff.mpr faulty),
        ← map_focus_children, List.findSome?_map, List.map_findSome?,
        ← List.head?_filterMap, ← List.head?_filterMap]
      exact congrArg List.head? (List.filterMap_congr alike)
    have markedBelow :
        node.label.hasError = true ↔
          ∃ child ∈ node.focus.children, child.label.hasError = true := by
      have byChildren :
          node.label.hasError = true ↔
            ∃ child ∈ node.children, child.label.hasError = true := by
        simpa [IsMarkedRight, faulty] using here
      rw [byChildren, ← map_focus_children]
      simp [Node.label]
    rw [below, Tree.markedStart?_of_not_isFaulty (Bool.eq_false_iff.mpr faulty) markedBelow]
termination_by node.focus.size

/-- Nothing at or below a node in whose span all is laid out starts before it. -/
theorem start_le_of_mem_preorder
    {top node : Node}
    (laidOut : ∀ below ∈ top.preorder, below.IsLaidOut)
    (among : node ∈ top.preorder) :
    top.label.start ≤ node.label.start := by
  rw [preorder_eq_cons_flatMap] at among
  rcases List.mem_cons.mp among with isTop | deeper
  · subst isTop
    exact Nat.le_refl _
  · obtain ⟨child, isChild, amongChild⟩ := List.mem_flatMap.mp deeper
    have := size_lt_of_mem_children isChild
    have inside := (laidOut top top.mem_preorder_self).inside child isChild
    have later : child.label.start ≤ node.label.start :=
      start_le_of_mem_preorder
        (fun below amongBelow => laidOut below (mem_preorder_of_child isChild amongBelow))
        amongChild
    exact Nat.le_trans inside.1 later
termination_by top.focus.size

/-- Nothing at or below a node in whose span all is laid out starts behind it. -/
theorem start_le_stop_of_mem_preorder
    {top node : Node}
    (laidOut : ∀ below ∈ top.preorder, below.IsLaidOut)
    (span : top.label.start ≤ top.label.stop)
    (among : node ∈ top.preorder) :
    node.label.start ≤ top.label.stop := by
  rw [preorder_eq_cons_flatMap] at among
  rcases List.mem_cons.mp among with isTop | deeper
  · rw [isTop]
    exact span
  · obtain ⟨child, isChild, amongChild⟩ := List.mem_flatMap.mp deeper
    have := size_lt_of_mem_children isChild
    obtain ⟨_, childSpan, inside⟩ := (laidOut top top.mem_preorder_self).inside child isChild
    have earlier : node.label.start ≤ child.label.stop :=
      start_le_stop_of_mem_preorder
        (fun below amongBelow => laidOut below (mem_preorder_of_child isChild amongBelow))
        childSpan amongChild
    exact Nat.le_trans earlier inside
termination_by top.focus.size

/-- Where all is laid out, document order is an order of starts. -/
theorem pairwise_start_preorder
    (top : Node)
    (laidOut : ∀ below ∈ top.preorder, below.IsLaidOut) :
    top.preorder.Pairwise fun earlier later => earlier.label.start ≤ later.label.start := by
  have here := laidOut top top.mem_preorder_self
  have below :
      ∀ child ∈ top.children, ∀ node ∈ child.preorder, node.IsLaidOut :=
    fun child isChild node among => laidOut node (mem_preorder_of_child isChild among)
  rw [preorder_eq_cons_flatMap]
  refine List.pairwise_cons.mpr ⟨?_, List.pairwise_flatMap.mpr ⟨?_, ?_⟩⟩
  · intro node among
    apply start_le_of_mem_preorder laidOut
    rw [preorder_eq_cons_flatMap]
    exact .tail _ among
  · intro child isChild
    have := size_lt_of_mem_children isChild
    exact pairwise_start_preorder child (below child isChild)
  · -- What is in an earlier child starts before its end, where no later child has begun.
    refine here.inOrder.imp_of_mem ?_
    intro first second isFirst isSecond apart earlier amongFirst later amongSecond
    calc earlier.label.start
        ≤ first.label.stop :=
          start_le_stop_of_mem_preorder (below first isFirst)
            (here.inside first isFirst).2.1 amongFirst
      _ ≤ second.label.start := apart
      _ ≤ later.label.start :=
          start_le_of_mem_preorder (below second isSecond) amongSecond
termination_by top.focus.size

end Node

namespace SourceTree

theorem position_of_mem_preorder
    {tree : SourceTree}
    {node : Node}
    (among : node ∈ tree.root.preorder) :
    node.position = tree.source.position node.label.start := by
  rw [Node.position, Node.source_of_mem_preorder among]
  rfl

/-- The first error is shown where the first error in document order starts. -/
theorem firstError?_eq
    (tree : SourceTree)
    (marked : ∀ node ∈ tree.root.preorder, node.IsMarkedRight) :
    tree.firstError? = tree.root.firstFaulty?.map Node.position := by
  have positions :
      tree.root.firstFaulty?.map Node.position =
        (tree.root.firstFaulty?.map (·.label.start)).map tree.source.position := by
    rw [Option.map_map]
    exact Option.map_congr fun node found =>
      position_of_mem_preorder (List.mem_of_find?_eq_some found)
  rw [positions, tree.root.map_start_firstFaulty? marked, firstError?, hasErrors,
    Tree.markedStart?, apply_ite (Option.map tree.source.position)]
  rfl

/-- Where all is laid out, what document order comes to later starts no earlier. -/
theorem not_before_of_mem_preorder
    {tree : SourceTree}
    {earlier later : List Node}
    {node other : Node}
    (laidOut : ∀ below ∈ tree.root.preorder, below.IsLaidOut)
    (shape : tree.root.preorder = earlier ++ node :: later)
    (among : other ∈ node :: later) :
    ¬ other.position.Before node.position := by
  intro before
  have starts := tree.root.pairwise_start_preorder laidOut
  rw [shape] at starts
  have fromNode := (List.pairwise_append.mp starts).2.1
  have notEarlier : node.label.start ≤ other.label.start := by
    rcases List.mem_cons.mp among with isNode | isLater
    · subst isNode
      exact Nat.le_refl _
    · exact (List.pairwise_cons.mp fromNode).1 other isLater
  have amongAll : ∀ listed ∈ node :: later, listed ∈ tree.root.preorder := by
    intro listed isListed
    rw [shape]
    exact List.mem_append_right earlier isListed
  rw [position_of_mem_preorder (amongAll other among),
    position_of_mem_preorder (amongAll node (.head _))] at before
  exact Nat.not_lt.mpr notEarlier (Source.lt_of_before before)

/--
Let every node be marked as it should be. Then there is a first error exactly if some
node is an error, and it is shown where the error starts that comes first of all nodes
in document order. If in addition the children of every node lie in its span, one
behind the other, then no error starts at an earlier position.
-/
theorem first_error_comes_first
    (tree : SourceTree)
    (marked : ∀ node ∈ tree.root.preorder, node.IsMarkedRight) :
    (tree.firstError? = none ↔
        ∀ node ∈ tree.root.preorder, node.label.isFaulty = false) ∧
      (∀ position,
        tree.firstError? = some position ↔
          ∃ earlier node later,
            tree.root.preorder = earlier ++ node :: later ∧
              (∀ passed ∈ earlier, passed.label.isFaulty = false) ∧
              node.label.isFaulty = true ∧
              node.position = position) ∧
      ((∀ node ∈ tree.root.preorder, node.IsLaidOut) →
        ∀ position,
          tree.firstError? = some position →
          ∀ node ∈ tree.root.preorder,
            node.label.isFaulty = true →
            ¬ node.position.Before position) := by
  have first : ∀ position,
      tree.firstError? = some position ↔
        ∃ earlier node later,
          tree.root.preorder = earlier ++ node :: later ∧
            (∀ passed ∈ earlier, passed.label.isFaulty = false) ∧
            node.label.isFaulty = true ∧
            node.position = position := by
    intro position
    rw [firstError?_eq tree marked, Node.firstFaulty?]
    simp only [Option.map_eq_some_iff, List.find?_eq_some_iff_append, Bool.not_eq_true']
    grind
  refine ⟨?_, first, ?_⟩
  · rw [firstError?_eq tree marked, Node.firstFaulty?]
    simp
  · intro laidOut position found node among faulty
    obtain ⟨earlier, errorNode, later, shape, passed, _, rfl⟩ := (first position).mp found
    rw [shape] at among
    rcases List.mem_append.mp among with inEarlier | inRest
    · -- Before the first error there is none.
      simp [passed node inEarlier] at faulty
    · exact not_before_of_mem_preorder laidOut shape inRest

section Example

/-- A label with the marks of a node that is an error, is missing, or holds one. -/
def markedLabel
    (kind : String)
    (start stop : Nat)
    (named isError isMissing hasError : Bool) :
    Label :=
  { kind, field := none, start, stop, named, isError, isMissing, hasError }

/--
A call that lacks its closing parenthesis, in the second line of a file, and after it
a character that fits nowhere.
-/
def unclosedCall : SourceTree where
  source := .ofString "ok;\nf(;\n@"
  dialect := .tsx
  tree :=
    .node (markedLabel "program" 0 9 true false false true)
      [.node (markedLabel "expression_statement" 0 3 true false false false)
          [.node (markedLabel "identifier" 0 2 true false false false) [],
            .node (markedLabel ";" 2 3 false false false false) []],
        .node (markedLabel "expression_statement" 4 7 true false false true)
          [.node (markedLabel "call_expression" 4 6 true false false true)
              [.node (markedLabel "identifier" 4 5 true false false false) [],
                .node (markedLabel "arguments" 5 6 true false false true)
                  [.node (markedLabel "(" 5 6 false false false false) [],
                    .node (markedLabel ")" 6 6 false false true true) []]],
            .node (markedLabel ";" 6 7 false false false false) []],
        .node (markedLabel "ERROR" 8 9 true true false true) []]

/-- The missing parenthesis is the first error of that file, and no other starts before. -/
theorem missing_parenthesis_comes_first :
    (∀ node ∈ unclosedCall.root.preorder, node.IsMarkedRight) ∧
      (∀ node ∈ unclosedCall.root.preorder, node.IsLaidOut) ∧
      unclosedCall.firstError? = some ⟨2, 3⟩ ∧
      ∀ node ∈ unclosedCall.root.preorder,
        node.label.isFaulty = true → ¬ node.position.Before ⟨2, 3⟩ := by
  have marked : ∀ node ∈ unclosedCall.root.preorder, node.IsMarkedRight := by
    decide +kernel
  have laidOut : ∀ node ∈ unclosedCall.root.preorder, node.IsLaidOut := by
    decide +kernel
  have found : unclosedCall.firstError? = some ⟨2, 3⟩ := by
    decide +kernel
  exact ⟨marked, laidOut, found,
    (first_error_comes_first unclosedCall marked).2.2 laidOut ⟨2, 3⟩ found⟩

/--
A call that lacks its closing parenthesis, and after its statement an error that
overlaps the name of the call: the children of the program are in the order of their
starts, and yet the second holds the error that starts first.
-/
def overlappingError : SourceTree where
  source := .ofString "render(;"
  dialect := .typeScript
  tree :=
    .node (markedLabel "program" 0 8 true false false true)
      [.node (markedLabel "expression_statement" 0 8 true false false true)
          [.node (markedLabel "call_expression" 0 7 true false false true)
              [.node (markedLabel "identifier" 0 6 true false false false) [],
                .node (markedLabel "arguments" 6 7 true false false true)
                  [.node (markedLabel "(" 6 7 false false false false) [],
                    .node (markedLabel ")" 7 7 false false true true) []]],
            .node (markedLabel ";" 7 8 false false false false) []],
        .node (markedLabel "ERROR" 1 3 true true false true) []]

/-- Children in their parent's span and in the order of their starts are not enough. -/
theorem overlapping_error_starts_before_the_first :
    (∀ node ∈ overlappingError.root.preorder,
        node.IsMarkedRight ∧
          (∀ child ∈ node.children,
            node.label.start ≤ child.label.start ∧
              child.label.start ≤ child.label.stop ∧
              child.label.stop ≤ node.label.stop) ∧
          node.children.Pairwise fun earlier later =>
            earlier.label.start ≤ later.label.start) ∧
      overlappingError.firstError? = some ⟨1, 8⟩ ∧
      ∃ node ∈ overlappingError.root.preorder,
        node.label.isFaulty = true ∧ node.position.Before ⟨1, 8⟩ := by
  decide +kernel

end Example

end SourceTree

end UsageLint.Syntax
