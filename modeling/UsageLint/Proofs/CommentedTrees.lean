import UsageLint.Proofs.Counterparts
import UsageLint.Proofs.DocumentOrder

namespace UsageLint.Syntax

/-!
# Trees with comments

A grammar may put comments among the children of any node. Here a tree is
compared with the same tree after comments were put into it. The nodes of the
one have their counterparts among the nodes of the other, in the same order, and
every move from a node goes to the counterpart of where it went before: comments
are under no field, so they hide nothing that is looked for by field or by kind.
-/

/-- Whether a tree is a comment: a named leaf of that kind under no field. -/
structure Tree.IsComment (tree : Tree) : Prop where
  kind : tree.label.kind = "comment"
  named : tree.label.named = true
  field : tree.label.field = none
  leaf : tree.children = []

instance : DecidablePred Tree.IsComment :=
  fun tree =>
    decidable_of_iff
      (tree.label.kind = "comment" ∧ tree.label.named = true ∧
        tree.label.field = none ∧ tree.children = [])
      ⟨fun ⟨kind, named, field, leaf⟩ => ⟨kind, named, field, leaf⟩,
        fun comment => ⟨comment.kind, comment.named, comment.field, comment.leaf⟩⟩

/--
Labels of counterparts. Comments move what comes after them and widen what they
are put into, so the offsets may differ.
-/
structure Label.Counterpart (label other : Label) : Prop where
  kind : other.kind = label.kind
  field : other.field = label.field
  named : other.named = label.named

instance (label other : Label) : Decidable (label.Counterpart other) :=
  decidable_of_iff
    (other.kind = label.kind ∧ other.field = label.field ∧
      other.named = label.named)
    ⟨fun ⟨kind, field, named⟩ => ⟨kind, field, named⟩,
      fun same => ⟨same.kind, same.field, same.named⟩⟩

/--
A tree and the same tree with comments among the children of any nodes. A node into
which none was put, neither among its children nor further below, covers the same
text as before; of the text of other nodes nothing is said.
-/
inductive Tree.Commented (source otherSource : Source) : Tree → Tree → Prop where
  | node
      {label other : Label}
      {children others : List Tree}
      (labels : label.Counterpart other)
      (below :
        Interspersed (Commented source otherSource) Tree.IsComment children
          others)
      (text :
        Tree.sizes others = Tree.sizes children →
        otherSource.slice other.start other.stop =
          source.slice label.start label.stop) :
      Commented source otherSource (.node label children) (.node other others)

/-- Trees among which comments may stand. -/
abbrev Tree.CommentedAmong (source otherSource : Source) :
    List Tree → List Tree → Prop :=
  Interspersed (Tree.Commented source otherSource) Tree.IsComment

namespace Tree

variable
  (source otherSource : Source)

mutual

/-- Whether one tree is the other with comments put into it. -/
def isCommented : Tree → Tree → Bool
  | .node label children, .node other others =>
      decide (label.Counterpart other) &&
        (areCommented children others &&
          decide
            (Tree.sizes others = Tree.sizes children →
              otherSource.slice other.start other.stop =
                source.slice label.start label.stop))

/-- Whether trees are the others with comments put in; a comment may be old or new. -/
def areCommented : List Tree → List Tree → Bool
  | [], [] => true
  | _ :: _, [] => false
  | [], other :: others => decide other.IsComment && areCommented [] others
  | tree :: trees, other :: others =>
      (isCommented tree other && areCommented trees others) ||
        (decide other.IsComment && areCommented (tree :: trees) others)

end

variable {source otherSource}

mutual

/-- What the test accepts is a commented tree. -/
theorem commented_of_isCommented :
    ∀ {tree other : Tree},
      isCommented source otherSource tree other = true →
      Commented source otherSource tree other
  | .node label children, .node other others, holds => by
      simp only [isCommented, Bool.and_eq_true, decide_eq_true_eq] at holds
      exact .node holds.1 (commentedAmong_of_areCommented holds.2.1) holds.2.2

/-- What the test accepts of lists are commented children. -/
theorem commentedAmong_of_areCommented :
    ∀ {trees others : List Tree},
      areCommented source otherSource trees others = true →
      CommentedAmong source otherSource trees others
  | [], [], _ => .nil
  | _ :: _, [], holds => by
      simp [areCommented] at holds
  | [], other :: others, holds => by
      simp only [areCommented, Bool.and_eq_true, decide_eq_true_eq] at holds
      exact .extra holds.1 (commentedAmong_of_areCommented holds.2)
  | tree :: trees, other :: others, holds => by
      simp only [areCommented, Bool.or_eq_true, Bool.and_eq_true,
        decide_eq_true_eq] at holds
      rcases holds with ⟨same, rest⟩ | ⟨comment, rest⟩
      · exact .keep (commented_of_isCommented same)
          (commentedAmong_of_areCommented rest)
      · exact .extra comment (commentedAmong_of_areCommented rest)

end

mutual

/-- The test accepts every commented tree. -/
theorem isCommented_of_commented :
    ∀ {tree other : Tree},
      Commented source otherSource tree other →
      isCommented source otherSource tree other = true
  | .node label children, .node other others, commented => by
      cases commented with
      | node labels below text =>
          simp only [isCommented, Bool.and_eq_true, decide_eq_true_eq]
          exact ⟨labels, areCommented_of_commentedAmong below, text⟩

/-- The test accepts all commented children. -/
theorem areCommented_of_commentedAmong :
    ∀ {trees others : List Tree},
      CommentedAmong source otherSource trees others →
      areCommented source otherSource trees others = true
  | [], [], _ => by
      rw [areCommented]
  | [], other :: others, lists => by
      cases lists with
      | extra comment rest =>
          simp only [areCommented, Bool.and_eq_true, decide_eq_true_eq]
          exact ⟨comment, areCommented_of_commentedAmong rest⟩
  | tree :: trees, other :: others, lists => by
      simp only [areCommented, Bool.or_eq_true, Bool.and_eq_true,
        decide_eq_true_eq]
      cases lists with
      | keep same rest =>
          exact .inl
            ⟨isCommented_of_commented same, areCommented_of_commentedAmong rest⟩
      | extra comment rest =>
          exact .inr ⟨comment, areCommented_of_commentedAmong rest⟩

end

instance (tree other : Tree) : Decidable (Commented source otherSource tree other) :=
  decidable_of_iff (isCommented source otherSource tree other = true)
    ⟨commented_of_isCommented, isCommented_of_commented⟩

end Tree

/--
The ways up from two trees that lead from counterpart to counterpart, with comments
among the siblings on the way.
-/
inductive Tree.CommentedAbove (source otherSource : Source) :
    Tree → List Frame → Tree → List Frame → Prop where
  | top
      {tree other : Tree} :
      CommentedAbove source otherSource tree [] other []
  | step
      {tree other : Tree}
      {frame otherFrame : Frame}
      {above otherAbove : List Frame}
      (before :
        Tree.CommentedAmong source otherSource frame.before otherFrame.before)
      (after : Tree.CommentedAmong source otherSource frame.after otherFrame.after)
      (parent :
        Tree.Commented source otherSource (frame.close tree)
          (otherFrame.close other))
      (upward :
        CommentedAbove source otherSource (frame.close tree) above
          (otherFrame.close other) otherAbove) :
      CommentedAbove source otherSource tree (frame :: above) other
        (otherFrame :: otherAbove)

namespace Tree.Commented

variable
  {source otherSource : Source}
  {tree other : Tree}
  (commented : Tree.Commented source otherSource tree other)

include commented

/-- The labels of a commented tree and its plain one are counterparts. -/
theorem label : tree.label.Counterpart other.label := by
  cases commented with
  | node labels _ _ => exact labels

/-- The children of a commented tree are those of the plain one with comments among them. -/
theorem children :
    Tree.CommentedAmong source otherSource tree.children other.children := by
  cases commented with
  | node _ below _ => exact below

/-- A tree into which nothing was put covers the same text. -/
theorem text (sameSize : other.size = tree.size) :
    otherSource.slice other.label.start other.label.stop =
      source.slice tree.label.start tree.label.stop := by
  cases commented with
  | node _ _ text =>
      apply text
      simpa only [Tree.size, Nat.add_left_cancel_iff] using sameSize

end Tree.Commented

namespace Node

/-- Whether a node is a comment. -/
def IsComment (node : Node) : Prop :=
  node.focus.IsComment

instance : DecidablePred IsComment :=
  fun node => inferInstanceAs (Decidable node.focus.IsComment)

/-- A node and its counterpart in the tree with comments. -/
structure Commented (node other : Node) : Prop where
  focus : Tree.Commented node.source other.source node.focus other.focus
  above :
    Tree.CommentedAbove node.source other.source node.focus node.above other.focus
      other.above

/-- Nodes among which comments may stand. -/
abbrev CommentedAmong : List Node → List Node → Prop :=
  Interspersed Commented IsComment

namespace IsComment

variable
  {node : Node}
  (comment : node.IsComment)

include comment

theorem rawKind : node.rawKind = "comment" :=
  comment.kind

theorem field : node.label.field = none :=
  Tree.IsComment.field comment

theorem kind : node.kind = .other := by
  rw [Node.kind, comment.rawKind]
  rfl

/-- A comment stands alone in the list of what is below it. -/
theorem preorder : node.preorder = [node] := by
  have noChildren : node.children = [] := by
    simp only [children, comment.leaf, siblingsFrom]
  rw [preorder_eq_cons_flatMap, noChildren, List.flatMap_nil]

end IsComment

/-- Siblings are counterparts if the nodes that hold all of them are. -/
theorem commentedAmong_siblingsFrom
    {source otherSource : Source}
    {label otherLabel : Label}
    {above otherAbove : List Frame}
    {before otherBefore after otherAfter : List Tree}
    (parent :
      Tree.Commented source otherSource (.node label (before.reverse ++ after))
        (.node otherLabel (otherBefore.reverse ++ otherAfter)))
    (upward :
      Tree.CommentedAbove source otherSource
        (.node label (before.reverse ++ after)) above
        (.node otherLabel (otherBefore.reverse ++ otherAfter)) otherAbove)
    (passed : Tree.CommentedAmong source otherSource before otherBefore)
    (ahead : Tree.CommentedAmong source otherSource after otherAfter) :
    CommentedAmong (siblingsFrom source label above before after)
      (siblingsFrom otherSource otherLabel otherAbove otherBefore otherAfter) := by
  induction ahead generalizing before otherBefore with
  | nil =>
      exact .nil
  | keep same rest inductionHypothesis =>
      refine .keep ⟨same, .step passed rest parent upward⟩
        (inductionHypothesis ?_ ?_ (.keep same passed))
      · simpa using parent
      · simpa using upward
  | extra isComment _ inductionHypothesis =>
      refine .extra isComment (inductionHypothesis ?_ ?_ (.extra isComment passed))
      · simpa using parent
      · simpa using upward

namespace Commented

variable
  {node other : Node}
  (commented : node.Commented other)

include commented

theorem rawKind : other.rawKind = node.rawKind :=
  commented.focus.label.kind

theorem kind : other.kind = node.kind := by
  rw [Node.kind, Node.kind, commented.rawKind]

/-- Asking for a kind gives the same answer on both sides. -/
theorem isKind (kind : Kind) : other.isKind kind = node.isKind kind := by
  rw [Node.isKind, Node.isKind, commented.kind]

theorem named : other.label.named = node.label.named :=
  commented.focus.label.named

theorem field : other.label.field = node.label.field :=
  commented.focus.label.field

/-- The children correspond, with comments put in among them. -/
theorem children : CommentedAmong node.children other.children := by
  rcases node with ⟨source, ⟨label, trees⟩, above⟩
  rcases other with ⟨otherSource, ⟨otherLabel, otherTrees⟩, otherAbove⟩
  exact commentedAmong_siblingsFrom commented.focus commented.above .nil
    commented.focus.children

/-- The named children correspond, with comments put in among them. -/
theorem namedChildren : CommentedAmong node.namedChildren other.namedChildren :=
  commented.children.filter fun _ _ same => same.named

/-- A comment is held under no field, so it is never found by one. -/
theorem field? (name : String) :
    Option.Rel
      (fun child otherChild =>
        child.Commented otherChild ∧ child.label.field = some name)
      (node.field? name) (other.field? name) := by
  have found :=
    commented.children.find?
      (·.label.field == some name)
      (·.label.field == some name)
      (fun _ _ same => by rw [same.field])
      (fun _ comment => by rw [IsComment.field comment]; rfl)
  simpa only [Node.field?, beq_iff_eq] using found

/-- The first child of a kind other than the comment's is found on both sides or on neither. -/
theorem childOfKind?
    (rawKind : String)
    (notComment : rawKind ≠ "comment") :
    Option.Rel
      (fun child otherChild =>
        child.Commented otherChild ∧ child.rawKind = rawKind)
      (node.childOfKind? rawKind) (other.childOfKind? rawKind) := by
  have found :=
    commented.namedChildren.find?
      (·.rawKind == rawKind)
      (·.rawKind == rawKind)
      (fun _ _ same => by rw [same.rawKind])
      (fun _ comment => by simp [IsComment.rawKind comment, notComment.symm])
  simpa only [Node.childOfKind?, beq_iff_eq] using found

/-- The parents of nodes that correspond do so too. -/
theorem parent? : Option.Rel Commented node.parent? other.parent? := by
  rcases node with ⟨source, focus, above⟩
  rcases other with ⟨otherSource, otherFocus, otherAbove⟩
  obtain ⟨_, upward⟩ := commented
  cases upward with
  | top => exact .none
  | step _ _ parent upward => exact .some ⟨parent, upward⟩

/-- Comments before a node do not hide it from its parent. -/
theorem isFieldOfParent (name : String) :
    other.isFieldOfParent name = node.isFieldOfParent name := by
  have field := commented.field
  rcases node with ⟨source, focus, above⟩
  rcases other with ⟨otherSource, otherFocus, otherAbove⟩
  obtain ⟨_, upward⟩ := commented
  cases upward with
  | top => rfl
  | step before _ _ _ =>
      have unhidden :=
        before.all_eq
          (·.label.field != some name)
          (·.label.field != some name)
          (fun _ _ same => by rw [same.label.field])
          (fun _ comment => by rw [comment.field]; rfl)
      simp only [Node.isFieldOfParent, field, unhidden]

end Commented

/-- What is below a node is listed at counterparts, with comments in between. -/
theorem Commented.preorder {node other : Node} (commented : node.Commented other) :
    CommentedAmong node.preorder other.preorder := by
  rw [preorder_eq_cons_flatMap node, preorder_eq_cons_flatMap other]
  refine .keep commented (commented.children.flatMap ?_ ?_)
  · intro child below otherChild same
    have := size_lt_of_mem_children below
    exact same.preorder
  · intro comment isComment
    rw [isComment.preorder]
    exact .extra isComment .nil
termination_by node.focus.size

/-- A node without any comment in it covers the same text as its counterpart. -/
theorem Commented.text_of_plain
    {node other : Node}
    (commented : node.Commented other)
    (plain : ∀ below ∈ other.preorder, ¬ below.IsComment) :
    other.text = node.text := by
  have together := commented.preorder.forall₂ plain
  apply commented.focus.text
  rw [← length_preorder, ← length_preorder]
  exact together.length_eq.symm

end Node

end UsageLint.Syntax
