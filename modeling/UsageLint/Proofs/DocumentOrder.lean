import Mathlib.Data.List.Nodup
import UsageLint.Syntax.Node

namespace UsageLint.Syntax

/-!
# Document order

`Node.preorder` lists a subtree by recursion on the tree. Here the list is tied
to the moves from node to node: it is the node followed by the lists of its
children, it holds no place twice, and what a node holds under a field is a child
that knows its parent.
-/

namespace Node

/-- The place that frames lead to, as a list of child numbers. -/
def placeOf (above : List Frame) : List Nat :=
  above.map (·.before.length)

/-- What is listed of a node and of what is below it, entering only the nodes kept. -/
def listing (keep : Label → Bool) (node : Node) : List Node :=
  listingFrom keep node.source node.above node.focus

/-- Sibling subtrees are listed one after another, those not kept left out. -/
theorem listingAmong_eq_flatMap
    {keep : Label → Bool}
    {source : Source}
    {above : List Frame}
    {label : Label}
    (before trees : List Tree) :
    listingAmong keep source above label before trees =
      ((siblingsFrom source label above before trees).filter (keep ·.label)).flatMap
        (listing keep) := by
  induction trees generalizing before with
  | nil =>
      simp [listingAmong, siblingsFrom]
  | cons tree after inductionHypothesis =>
      rw [listingAmong, inductionHypothesis, siblingsFrom, List.filter_cons, Node.label]
      by_cases kept : keep tree.label = true
      · simp [kept, listing]
      · simp [kept]

/-- A node comes first, and then the lists of the children that are kept. -/
theorem listing_eq_cons_flatMap (keep : Label → Bool) (node : Node) :
    node.listing keep =
      node :: (node.children.filter (keep ·.label)).flatMap (listing keep) := by
  rcases node with ⟨source, ⟨label, trees⟩, above⟩
  rw [listing, listingFrom, listingAmong_eq_flatMap]
  rfl

/-- A node comes first, and then its children's lists in their order. -/
theorem preorder_eq_cons_flatMap (node : Node) :
    node.preorder = node :: node.children.flatMap preorder := by
  have listed := node.listing_eq_cons_flatMap fun _ => true
  rwa [List.filter_true] at listed

theorem mem_preorder_self (node : Node) : node ∈ node.preorder := by
  rw [preorder_eq_cons_flatMap]
  exact .head _

theorem mem_preorder_of_child
    {top next node : Node}
    (child : next ∈ top.children)
    (among : node ∈ next.preorder) :
    node ∈ top.preorder := by
  rw [preorder_eq_cons_flatMap]
  exact .tail _ (List.mem_flatMap.mpr ⟨next, child, among⟩)

mutual

/-- The whole list of a subtree has as many nodes as the subtree. -/
theorem length_listingFrom
    {source : Source}
    {above : List Frame} :
    ∀ {tree : Tree},
      (listingFrom (fun _ => true) source above tree).length = tree.size
  | .node label children => by
      rw [listingFrom, List.length_cons, length_listingAmong, Tree.size, Nat.add_comm]

/-- The whole list of sibling subtrees has as many nodes as they have together. -/
theorem length_listingAmong
    {source : Source}
    {above : List Frame}
    {label : Label} :
    ∀ {before trees : List Tree},
      (listingAmong (fun _ => true) source above label before trees).length =
        Tree.sizes trees
  | _, [] => by
      rw [listingAmong, Tree.sizes, List.length_nil]
  | before, tree :: after => by
      rw [listingAmong, List.length_append, if_pos rfl, length_listingFrom,
        length_listingAmong, Tree.sizes]

end

/-- All of a node is listed. -/
theorem length_preorder (node : Node) : node.preorder.length = node.focus.size :=
  length_listingFrom

/-- A listed node other than the first is a child of a listed node. -/
theorem eq_or_exists_parent_of_mem_preorder
    {top node : Node}
    (among : node ∈ top.preorder) :
    node = top ∨ ∃ parent ∈ top.preorder, node ∈ parent.children := by
  rw [preorder_eq_cons_flatMap] at among
  rcases List.mem_cons.mp among with isTop | deeper
  · exact .inl isTop
  · obtain ⟨next, child, amongNext⟩ := List.mem_flatMap.mp deeper
    have := size_lt_of_mem_children child
    rcases eq_or_exists_parent_of_mem_preorder amongNext with isNext | above
    · subst isNext
      exact .inr ⟨top, top.mem_preorder_self, child⟩
    · obtain ⟨parent, parentAmong, below⟩ := above
      exact .inr ⟨parent, mem_preorder_of_child child parentAmong, below⟩
termination_by top.focus.size

mutual

/-- Every listed node lies at or below the place where the listing began. -/
theorem placeOf_suffix_of_mem_listingFrom
    {keep : Label → Bool}
    {source : Source}
    {above : List Frame}
    {node : Node} :
    ∀ {tree : Tree},
      node ∈ listingFrom keep source above tree →
      placeOf above <:+ node.path
  | .node label children, listed => by
      simp only [listingFrom, List.mem_cons] at listed
      rcases listed with isFirst | below
      · subst isFirst
        exact List.suffix_rfl
      · obtain ⟨number, _, suffix⟩ :=
          exists_placeOf_suffix_of_mem_listingAmong below
        exact (List.suffix_cons number _).trans suffix

/-- Every node listed among siblings lies at or below one of them. -/
theorem exists_placeOf_suffix_of_mem_listingAmong
    {keep : Label → Bool}
    {source : Source}
    {above : List Frame}
    {label : Label}
    {node : Node} :
    ∀ {before trees : List Tree},
      node ∈ listingAmong keep source above label before trees →
      ∃ number,
        before.length ≤ number ∧ number :: placeOf above <:+ node.path
  | _, [], listed => by
      simp [listingAmong] at listed
  | before, tree :: after, listed => by
      simp only [listingAmong, List.mem_append] at listed
      rcases listed with inFirst | inRest
      · split at inFirst
        · exact ⟨before.length, Nat.le_refl _,
            placeOf_suffix_of_mem_listingFrom inFirst⟩
        · simp at inFirst
      · obtain ⟨number, atLeast, suffix⟩ :=
          exists_placeOf_suffix_of_mem_listingAmong inRest
        exact ⟨number, Nat.le_of_succ_le atLeast, suffix⟩

end

/-- Two numbers that lead on from one place to another are the same. -/
theorem eq_of_cons_suffix
    {first second : Nat}
    {place path : List Nat}
    (left : first :: place <:+ path)
    (right : second :: place <:+ path) :
    first = second := by
  have nested := List.suffix_of_suffix_length_le left right (by simp)
  have same := nested.eq_of_length (by simp)
  injection same

mutual

/-- No place is listed twice. -/
theorem nodup_path_listingFrom
    {keep : Label → Bool}
    {source : Source}
    {above : List Frame} :
    ∀ tree : Tree,
      ((listingFrom keep source above tree).map path).Nodup
  | .node label children => by
      simp only [listingFrom, List.map_cons, List.nodup_cons]
      refine ⟨?_, nodup_path_listingAmong [] children⟩
      intro again
      obtain ⟨node, listed, samePath⟩ := List.mem_map.mp again
      obtain ⟨number, _, suffix⟩ :=
        exists_placeOf_suffix_of_mem_listingAmong listed
      -- A node below is at a longer path than the node it is below.
      rw [samePath] at suffix
      have longer := suffix.length_le
      simp only [path, placeOf, List.length_cons, List.length_map] at longer
      omega

theorem nodup_path_listingAmong
    {keep : Label → Bool}
    {source : Source}
    {above : List Frame}
    {label : Label} :
    ∀ before trees : List Tree,
      ((listingAmong keep source above label before trees).map path).Nodup
  | _, [] => by
      simp [listingAmong]
  | before, tree :: after => by
      simp only [listingAmong, List.map_append]
      split
      · refine List.nodup_append.mpr
          ⟨nodup_path_listingFrom tree,
            nodup_path_listingAmong (tree :: before) after, ?_⟩
        intro first firstListed second secondListed same
        obtain ⟨left, leftListed, rfl⟩ := List.mem_map.mp firstListed
        obtain ⟨right, rightListed, rfl⟩ := List.mem_map.mp secondListed
        obtain ⟨number, atLeast, suffix⟩ :=
          exists_placeOf_suffix_of_mem_listingAmong rightListed
        have atFirst := placeOf_suffix_of_mem_listingFrom leftListed
        have sameNumber : before.length = number :=
          eq_of_cons_suffix atFirst (same ▸ suffix)
        simp only [List.length_cons] at atLeast
        omega
      · simpa using nodup_path_listingAmong (tree :: before) after

end

theorem nodup_path_preorder (node : Node) :
    (node.preorder.map path).Nodup :=
  nodup_path_listingFrom node.focus

/-- Document order comes to each node once. -/
theorem nodup_preorder (node : Node) :
    node.preorder.Nodup :=
  node.nodup_path_preorder.of_map path

mutual

theorem source_of_mem_listingFrom
    {keep : Label → Bool}
    {source : Source}
    {above : List Frame}
    {node : Node} :
    ∀ {tree : Tree},
      node ∈ listingFrom keep source above tree →
      node.source = source
  | .node label children, listed => by
      simp only [listingFrom, List.mem_cons] at listed
      rcases listed with isFirst | below
      · rw [isFirst]
      · exact source_of_mem_listingAmong below

theorem source_of_mem_listingAmong
    {keep : Label → Bool}
    {source : Source}
    {above : List Frame}
    {label : Label}
    {node : Node} :
    ∀ {before trees : List Tree},
      node ∈ listingAmong keep source above label before trees →
      node.source = source
  | _, [], listed => by
      simp [listingAmong] at listed
  | before, tree :: after, listed => by
      simp only [listingAmong, List.mem_append] at listed
      rcases listed with inFirst | inRest
      · split at inFirst
        · exact source_of_mem_listingFrom inFirst
        · simp at inFirst
      · exact source_of_mem_listingAmong inRest

end

/-- Going through a tree stays in its source. -/
theorem source_of_mem_preorder
    {root node : Node}
    (among : node ∈ root.preorder) :
    node.source = root.source :=
  source_of_mem_listingFrom among

/-- The kinds of the nodes above a place are told by its frames. -/
theorem map_kind_ancestorsFrom
    (source : Source)
    (focus : Tree)
    (above : List Frame) :
    (ancestorsFrom source focus above).map kind =
      above.map (Kind.ofGrammar ·.label.kind) := by
  induction above generalizing focus with
  | nil =>
      rfl
  | cons frame above inductionHypothesis =>
      simp only [ancestorsFrom, List.map_cons, inductionHypothesis]
      rfl

theorem parent?_of_mem_siblingsFrom
    {source : Source}
    {label : Label}
    {above : List Frame}
    {before trees : List Tree}
    {child : Node}
    (among : child ∈ siblingsFrom source label above before trees) :
    child.parent? = some ⟨source, .node label (before.reverse ++ trees), above⟩ := by
  induction trees generalizing before with
  | nil =>
      simp [siblingsFrom] at among
  | cons tree after inductionHypothesis =>
      rcases List.mem_cons.mp among with first | later
      · subst first
        rfl
      · rw [inductionHypothesis later]
        simp

/-- A child knows its parent. -/
theorem parent?_of_mem_children
    {node child : Node}
    (below : child ∈ node.children) :
    child.parent? = some node := by
  rcases node with ⟨source, ⟨label, trees⟩, above⟩
  exact parent?_of_mem_siblingsFrom below

/-- What is listed of a whole tree is closed under going up. -/
theorem mem_preorder_of_parent?
    {top node parent : Node}
    (isRoot : top.parent? = none)
    (among : node ∈ top.preorder)
    (above : node.parent? = some parent) :
    parent ∈ top.preorder := by
  rcases eq_or_exists_parent_of_mem_preorder among with
    isTop | ⟨other, listed, below⟩
  · subst isTop
    simp [isRoot] at above
  · rw [parent?_of_mem_children below] at above
    cases above
    exact listed

/-- What is listed of a tree is closed under going down. -/
theorem mem_preorder_of_mem_children
    {top node child : Node}
    (among : node ∈ top.preorder)
    (below : child ∈ node.children) :
    child ∈ top.preorder := by
  rw [preorder_eq_cons_flatMap] at among
  rcases List.mem_cons.mp among with isTop | deeper
  · subst isTop
    exact mem_preorder_of_child below child.mem_preorder_self
  · obtain ⟨next, nextBelow, amongNext⟩ := List.mem_flatMap.mp deeper
    have := size_lt_of_mem_children nextBelow
    exact mem_preorder_of_child nextBelow
      (mem_preorder_of_mem_children amongNext below)
termination_by top.focus.size

/-- A field is held by a child that no earlier child hides. -/
theorem exists_split_of_find?_siblingsFrom
    {source : Source}
    {label : Label}
    {above : List Frame}
    {before trees : List Tree}
    {name : String}
    {child : Node}
    (found :
      (siblingsFrom source label above before trees).find?
          (·.label.field == some name) =
        some child) :
    ∃ skipped tree rest,
      trees = skipped ++ tree :: rest ∧
        child = ⟨source, tree, ⟨label, skipped.reverse ++ before, rest⟩ :: above⟩ ∧
        tree.label.field = some name ∧
        ∀ earlier ∈ skipped, earlier.label.field ≠ some name := by
  induction trees generalizing before with
  | nil =>
      simp [siblingsFrom] at found
  | cons tree after inductionHypothesis =>
      simp only [siblingsFrom, List.find?_cons] at found
      by_cases held : tree.label.field = some name
      · have first : child = ⟨source, tree, ⟨label, before, after⟩ :: above⟩ := by
          simpa [Node.label, held] using found.symm
        exact ⟨[], tree, after, rfl, by simpa using first, held, by simp⟩
      · have later :
            (siblingsFrom source label above (tree :: before) after).find?
                (·.label.field == some name) =
              some child := by
          simpa only [Node.label, beq_eq_false_iff_ne.mpr held] using found
        obtain ⟨skipped, holder, rest, shape, place, field, unhidden⟩ :=
          inductionHypothesis later
        refine ⟨tree :: skipped, holder, rest, ?_, ?_, field, ?_⟩
        · simp [shape]
        · simp [place]
        · simpa [held] using unhidden

theorem label_field_of_isFieldOfParent
    {node : Node}
    {name : String}
    (held : node.isFieldOfParent name = true) :
    node.label.field = some name := by
  unfold isFieldOfParent at held
  split at held
  · cases held
  · exact beq_iff_eq.mp (Bool.and_eq_true_iff.mp held).1

section Field

variable
  {node child : Node}
  {name : String}
  (held : node.field? name = some child)

include held

/-- What a node holds under a field has that node as its parent. -/
theorem parent?_of_field? : child.parent? = some node :=
  parent?_of_mem_children (List.mem_of_find?_eq_some held)

theorem label_field_of_field? : child.label.field = some name := by
  obtain ⟨skipped, tree, rest, _, rfl, field, _⟩ :=
    exists_split_of_find?_siblingsFrom held
  exact field

theorem isFieldOfParent_of_field? : child.isFieldOfParent name = true := by
  obtain ⟨skipped, tree, rest, _, rfl, field, unhidden⟩ :=
    exists_split_of_find?_siblingsFrom held
  simpa [isFieldOfParent, Node.label, field] using unhidden

end Field

/-- Of siblings, the first one under a field is found. -/
theorem find?_siblingsFrom_of_split
    {source : Source}
    {label : Label}
    {above : List Frame}
    {before skipped rest : List Tree}
    {tree : Tree}
    {name : String}
    (field : tree.label.field = some name)
    (unhidden : ∀ earlier ∈ skipped, earlier.label.field ≠ some name) :
    (siblingsFrom source label above before (skipped ++ tree :: rest)).find?
        (·.label.field == some name) =
      some ⟨source, tree, ⟨label, skipped.reverse ++ before, rest⟩ :: above⟩ := by
  induction skipped generalizing before with
  | nil =>
      simp [siblingsFrom, Node.label, field]
  | cons first skipped inductionHypothesis =>
      obtain ⟨firstPassed, restPassed⟩ := List.forall_mem_cons.mp unhidden
      rw [List.cons_append, siblingsFrom, List.find?_cons_of_neg,
        inductionHypothesis restPassed]
      · simp
      · simpa [Node.label] using firstPassed

/-- A node gives out the first child under a field. -/
theorem field?_of_split
    {source : Source}
    {label : Label}
    {above : List Frame}
    {skipped rest : List Tree}
    {tree : Tree}
    {name : String}
    (field : tree.label.field = some name)
    (unhidden : ∀ earlier ∈ skipped, earlier.label.field ≠ some name) :
    field? ⟨source, .node label (skipped ++ tree :: rest), above⟩ name =
      some ⟨source, tree, ⟨label, skipped.reverse, rest⟩ :: above⟩ := by
  have found :
      field? ⟨source, .node label (skipped ++ tree :: rest), above⟩ name =
        some ⟨source, tree, ⟨label, skipped.reverse ++ [], rest⟩ :: above⟩ :=
    find?_siblingsFrom_of_split field unhidden
  rwa [List.append_nil] at found

/-- A parent gives out a child that it holds under a field. -/
theorem field?_of_isFieldOfParent
    {node child : Node}
    {name : String}
    (above : child.parent? = some node)
    (held : child.isFieldOfParent name = true) :
    node.field? name = some child := by
  rcases child with ⟨source, focus, _ | ⟨frame, rest⟩⟩
  · cases above
  · cases above
    simp only [isFieldOfParent, Node.label, Bool.and_eq_true, beq_iff_eq,
      List.all_eq_true, bne_iff_ne] at held
    obtain ⟨field, unhidden⟩ := held
    have passed : ∀ earlier ∈ frame.before.reverse, earlier.label.field ≠ some name :=
      fun earlier among => unhidden earlier (List.mem_reverse.mp among)
    rw [Frame.close, field?_of_split field passed, List.reverse_reverse]

end Node

end UsageLint.Syntax
