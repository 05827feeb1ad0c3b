import UsageLint.Syntax.Source
import UsageLint.Syntax.Tree

namespace UsageLint.Syntax

/-!
# Nodes of a tree

A `Node` is a tree seen from one of its places: the subtree there, the frames
that lead up to the root, and the source the whole tree was read from. Going
up, down and sideways changes the place and never the tree, and two nodes of
one tree are equal exactly if they are at the same place.

`preorder` lists a node and everything below it in document order, by recursion
on the tree. `descendants` lists a node and the named nodes below it with a stack
of those that wait; an anonymous node is never entered.
-/

/-- One step toward the root: the parent's label and the siblings passed by. -/
structure Frame where
  label : Label
  /-- Earlier siblings, nearest first. -/
  before : List Tree
  /-- Later siblings, nearest first. -/
  after : List Tree
deriving Repr

/-- A place in a tree, together with the text the tree was read from. -/
structure Node where
  source : Source
  focus : Tree
  /-- The way to the root, nearest frame first. -/
  above : List Frame
deriving Repr

namespace Frame

/-- The tree made by putting a subtree back into its place. -/
def close (frame : Frame) (focus : Tree) : Tree :=
  .node frame.label (frame.before.reverse ++ focus :: frame.after)

end Frame

namespace Node

/-- The topmost node of a tree. -/
def root (source : Source) (tree : Tree) : Node :=
  ⟨source, tree, []⟩

/-- What the grammar says of this node. -/
def label (node : Node) : Label :=
  node.focus.label

/-- The grammar's own name for the kind of this node. -/
def rawKind (node : Node) : String :=
  node.label.kind

/-- The kind of this node. -/
def kind (node : Node) : Kind :=
  Kind.ofGrammar node.rawKind

/-- Whether this node has the given kind. -/
def isKind (node : Node) (kind : Kind) : Bool :=
  node.kind == kind

/-- The text this node covers. -/
def text (node : Node) : String :=
  node.source.slice node.label.start node.label.stop

/-- Where this node starts. -/
def position (node : Node) : Position :=
  node.source.position node.label.start

/-- The length in bytes of the text this node covers. -/
def byteLength (node : Node) : Nat :=
  node.label.stop - node.label.start

/-- The place of this node as a list of child numbers, the nearest first. -/
def path (node : Node) : List Nat :=
  node.above.map (·.before.length)

/-- Whether a character may open or close a string literal. -/
def isQuote (character : Char) : Bool :=
  character == '\'' || character == '"'

/-- The text between an opening and a closing quote, of either sort each. -/
def unquote? (text : List Char) : Option (List Char) :=
  match text with
  | [] => none
  | opening :: rest =>
      if isQuote opening then
        match rest.getLast? with
        | some closing =>
            if isQuote closing then
              some rest.dropLast
            else
              none
        | none => none
      else
        none

/-- What a string literal says; other nodes say nothing. -/
def stringValue? (node : Node) : Option String :=
  if node.isKind .stringLiteral then
    (unquote? node.text.toList).map String.ofList
  else
    none

/-- The node above this one. -/
def parent? (node : Node) : Option Node :=
  match node.above with
  | [] => none
  | frame :: above => some ⟨node.source, frame.close node.focus, above⟩

/-- The nodes above this one, nearest first. -/
def ancestorsFrom (source : Source) : Tree → List Frame → List Node
  | _, [] => []
  | focus, frame :: above =>
      ⟨source, frame.close focus, above⟩ ::
        ancestorsFrom source (frame.close focus) above

/-- The nodes above this one, nearest first. -/
def ancestors (node : Node) : List Node :=
  ancestorsFrom node.source node.focus node.above

/-- Turn a run of sibling trees into nodes below a common parent. -/
def siblingsFrom
    (source : Source)
    (label : Label)
    (above : List Frame) :
    List Tree → List Tree → List Node
  | _, [] => []
  | before, tree :: after =>
      ⟨source, tree, ⟨label, before, after⟩ :: above⟩ ::
        siblingsFrom source label above (tree :: before) after

/-- The nodes directly below this one, anonymous ones included. -/
def children (node : Node) : List Node :=
  siblingsFrom node.source node.label node.above [] node.focus.children

/-- A node among siblings is no larger than all of them. -/
theorem size_le_of_mem_siblingsFrom
    {source : Source}
    {label : Label}
    {above : List Frame}
    {before after : List Tree}
    {next : Node}
    (among : next ∈ siblingsFrom source label above before after) :
    next.focus.size ≤ Tree.sizes after := by
  induction after generalizing before with
  | nil =>
      simp [siblingsFrom] at among
  | cons tree after inductionHypothesis =>
      simp only [siblingsFrom, List.mem_cons] at among
      simp only [Tree.sizes]
      rcases among with first | later
      · subst first
        simp
      · have smaller := inductionHypothesis later
        omega

/-- A child is smaller than its parent. -/
theorem size_lt_of_mem_children
    {node next : Node}
    (child : next ∈ node.children) :
    next.focus.size < node.focus.size := by
  have bound := size_le_of_mem_siblingsFrom child
  rcases node with ⟨source, ⟨label, trees⟩, above⟩
  simp only [Tree.children, Tree.size] at bound ⊢
  omega

/-- The named nodes directly below this one. -/
def namedChildren (node : Node) : List Node :=
  node.children.filter (·.label.named)

/-- The first child held under a field. -/
def field? (node : Node) (name : String) : Option Node :=
  node.children.find? (·.label.field == some name)

/-- The first named child whose kind has the given grammar name. -/
def childOfKind? (node : Node) (rawKind : String) : Option Node :=
  node.namedChildren.find? (·.rawKind == rawKind)

/--
Whether the parent holds this very node under a field.

A parent gives out the first child of a field only, so an earlier sibling of
the same field hides this node.
-/
def isFieldOfParent (node : Node) (name : String) : Bool :=
  match node.above with
  | [] => false
  | frame :: _ =>
      node.label.field == some name &&
        frame.before.all (·.label.field != some name)

mutual

/-- List a subtree in document order, entering only the children kept. -/
def listingFrom
    (keep : Label → Bool)
    (source : Source) :
    List Frame → Tree → List Node
  | above, .node label children =>
      ⟨source, .node label children, above⟩ ::
        listingAmong keep source above label [] children

/-- List sibling subtrees in document order, entering only those kept. -/
def listingAmong
    (keep : Label → Bool)
    (source : Source) :
    List Frame → Label → List Tree → List Tree → List Node
  | _, _, _, [] => []
  | above, label, before, tree :: after =>
      (if keep tree.label then
        listingFrom keep source (⟨label, before, after⟩ :: above) tree
      else
        []) ++
        listingAmong keep source above label (tree :: before) after

end

/-- This node and every node below it, in document order. -/
def preorder (node : Node) : List Node :=
  listingFrom (fun _ => true) node.source node.above node.focus

/-- Put nodes on a stack, the last of them first, so that the first is on top. -/
def push (nodes stack : List Node) : List Node :=
  nodes.reverse.foldl (fun stack node => node :: stack) stack

theorem push_eq_append (nodes stack : List Node) : push nodes stack = nodes ++ stack := by
  simp [push]

/-- Named siblings are together no larger than all siblings. -/
theorem sizes_filter_siblingsFrom_le
    (source : Source)
    (label : Label)
    (above : List Frame)
    (before trees : List Tree) :
    Tree.sizes
        (((siblingsFrom source label above before trees).filter (·.label.named)).map
          (·.focus)) ≤
      Tree.sizes trees := by
  induction trees generalizing before with
  | nil =>
      exact Nat.le_refl _
  | cons tree after inductionHypothesis =>
      have rest := inductionHypothesis (tree :: before)
      rw [siblingsFrom, List.filter_cons, Tree.sizes]
      split
      · exact Nat.add_le_add_left rest _
      · omega

/-- A node that is taken off a stack leaves more room than its named children fill. -/
theorem sizes_push_lt (node : Node) (stack : List Node) :
    Tree.sizes ((push node.namedChildren stack).map (·.focus)) <
      Tree.sizes ((node :: stack).map (·.focus)) := by
  rcases node with ⟨source, ⟨label, trees⟩, above⟩
  have fewer := sizes_filter_siblingsFrom_le source label above [] trees
  rw [push_eq_append, List.map_append, Tree.sizes_append, List.map_cons, Tree.sizes, Tree.size]
  exact Nat.add_lt_add_right (Nat.lt_of_le_of_lt fewer (by omega)) _

/-- List the nodes of a stack, each followed by the named nodes below it. -/
def listStack : List Node → List Node
  | [] => []
  | node :: stack => node :: listStack (push node.namedChildren stack)
termination_by stack => Tree.sizes (stack.map (·.focus))
decreasing_by exact sizes_push_lt node stack

/-- This node and the named nodes below it that no anonymous node hides. -/
def descendants (node : Node) : List Node :=
  listStack [node]

/-- The first node below this one. -/
def firstChild? (node : Node) : Option Node :=
  match node.focus.children with
  | [] => none
  | tree :: after =>
      some ⟨node.source, tree, ⟨node.label, [], after⟩ :: node.above⟩

end Node

end UsageLint.Syntax
