import UsageLint.Proofs.CommentedTrees
import UsageLint.Vocabulary

namespace UsageLint.Usage

open UsageLint.Syntax

/-!
# Where comments are noticed

Detection looks things up by field and by kind, and so passes over comments, but
for three places. The arguments of `require` are counted. A step through
parentheses, or over a non-null mark, goes to the first named node. And a name
that is written as more than one token, such as a computed key, is read by its
whole text. A tree whose comments are in none of these places is moved about in as
the tree without them: every move goes from counterpart to counterpart, and what is
read there is the same.
-/

/-- Whether a node is no call of `require` with comments among the arguments. -/
def ArgumentsPlain (node : Node) : Prop :=
  ∀ callee ∈ node.field? "function",
    callee.rawKind = "identifier" ∧ callee.text = Vocabulary.requireName →
    ∀ arguments ∈ node.field? "arguments",
      ∀ argument ∈ arguments.namedChildren, ¬ argument.IsComment

instance : DecidablePred ArgumentsPlain :=
  fun node => by
    unfold ArgumentsPlain
    infer_instance

/-- Whether what is in parentheses, or has a non-null mark, starts with no comment. -/
def StartPlain (node : Node) : Prop :=
  node.rawKind = "parenthesized_expression" ∨ node.rawKind = "non_null_expression" →
    ∀ first ∈ node.namedChildren.head?, ¬ first.IsComment

instance : DecidablePred StartPlain :=
  fun node => by
    unfold StartPlain
    infer_instance

/-- The fields under which nodes of a kind hold what is read by its text. -/
def nameFields (rawKind : String) : List String :=
  match rawKind with
  | "import_specifier" => ["name", "alias"]
  | "object_assignment_pattern" => ["left"]
  | "pair_pattern" => ["key"]
  | "member_expression" => ["property"]
  | _ => []

/-- What is read by its text at a node: the node, if it is a token, and its names. -/
def readNodes (node : Node) : List Node :=
  let tokens :=
    if node.isKind .identifier || node.isKind .stringLiteral then [node] else []
  tokens ++ (nameFields node.rawKind).filterMap node.field?

/-- Whether no comment is in what is read by its text at a node. -/
def TextsPlain (node : Node) : Prop :=
  ∀ read ∈ readNodes node, ∀ below ∈ read.preorder, ¬ below.IsComment

instance : DecidablePred TextsPlain :=
  fun node => by
    unfold TextsPlain
    infer_instance

/-- Whether the comments in a tree, old and new, are where detection does not notice them. -/
structure CommentsAside (root : Node) : Prop where
  arguments : ∀ node ∈ root.preorder, ArgumentsPlain node
  starts : ∀ node ∈ root.preorder, StartPlain node
  texts : ∀ node ∈ root.preorder, TextsPlain node

/-- A node and its counterpart in a whole tree with comments. -/
structure CounterpartIn (root node other : Node) : Prop where
  commented : node.Commented other
  among : other ∈ root.preorder

namespace CounterpartIn

variable
  {root node other : Node}
  (counterpart : CounterpartIn root node other)

include counterpart

theorem rawKind : other.rawKind = node.rawKind :=
  counterpart.commented.rawKind

theorem isKind (kind : Kind) : other.isKind kind = node.isKind kind :=
  counterpart.commented.isKind kind

/-- The children correspond, with comments put in among them. -/
theorem children :
    Interspersed (CounterpartIn root) Node.IsComment node.children other.children :=
  counterpart.commented.children.mono_of_mem fun _ _ below same =>
    ⟨same, Node.mem_preorder_of_mem_children counterpart.among below⟩

/-- The named children correspond, with comments put in among them. -/
theorem namedChildren :
    Interspersed (CounterpartIn root) Node.IsComment node.namedChildren
      other.namedChildren :=
  counterpart.children.filter fun _ _ same => same.commented.named

/-- The child that fills a field is found on both sides or on neither. -/
theorem field? (name : String) :
    Option.Rel (CounterpartIn root) (node.field? name) (other.field? name) := by
  refine rel_mono_of_found (counterpart.commented.field? name) fun _ otherChild _ found same => ?_
  have below : otherChild ∈ other.children := List.mem_of_find?_eq_some found
  exact ⟨same.1, Node.mem_preorder_of_mem_children counterpart.among below⟩

/-- The first child of a kind other than the comment's is found on both sides or on neither. -/
theorem childOfKind?
    (rawKind : String)
    (notComment : rawKind ≠ "comment") :
    Option.Rel
      (fun child otherChild =>
        CounterpartIn root child otherChild ∧ child.rawKind = rawKind)
      (node.childOfKind? rawKind) (other.childOfKind? rawKind) := by
  refine rel_mono_of_found (counterpart.commented.childOfKind? rawKind notComment)
    fun _ otherChild _ found same => ?_
  have below : otherChild ∈ other.children :=
    (List.mem_filter.mp (List.mem_of_find?_eq_some found)).1
  exact ⟨⟨same.1, Node.mem_preorder_of_mem_children counterpart.among below⟩, same.2⟩

/-- The parents correspond, the root having none. -/
theorem parent? (isRoot : root.parent? = none) :
    Option.Rel (CounterpartIn root) node.parent? other.parent? :=
  rel_mono_of_found counterpart.commented.parent? fun _ _ _ found same =>
    ⟨same, Node.mem_preorder_of_parent? isRoot counterpart.among found⟩

section Texts

variable (aside : CommentsAside root)

include aside

/-- What is read by its text at a node of the tree is read alike. -/
theorem text_of_mem_readNodes
    {holder : Node}
    (held : holder ∈ root.preorder)
    (read : other ∈ readNodes holder) :
    other.text = node.text :=
  counterpart.commented.text_of_plain (aside.texts holder held other read)

/-- Identifiers and strings keep their texts, since no comment fits into them. -/
theorem text_of_token
    (token : node.isKind .identifier = true ∨ node.isKind .stringLiteral = true) :
    other.text = node.text := by
  apply counterpart.text_of_mem_readNodes aside counterpart.among
  rw [← counterpart.isKind, ← counterpart.isKind, ← Bool.or_eq_true] at token
  simp [readNodes, token]

/-- An identifier keeps its text. -/
theorem text_of_identifier (identifier : node.isKind .identifier = true) :
    other.text = node.text :=
  counterpart.text_of_token aside (.inl identifier)

/-- What the tree calls an identifier keeps its text. -/
theorem text_of_rawKind_identifier (identifier : node.rawKind = "identifier") :
    other.text = node.text :=
  counterpart.text_of_identifier aside
    (by simp [Node.isKind, Node.kind, identifier, Kind.ofGrammar])

/-- A string has the same value. -/
theorem stringValue? : other.stringValue? = node.stringValue? := by
  unfold Node.stringValue?
  rw [counterpart.isKind]
  split
  · next literal =>
      rw [counterpart.text_of_token aside (.inr literal)]
  · rfl

/-- A name is found at counterparts, and with the same text. -/
theorem name?
    (name : String)
    (isName : name ∈ nameFields node.rawKind) :
    Option.Rel
      (fun child otherChild =>
        CounterpartIn root child otherChild ∧ otherChild.text = child.text)
      (node.field? name) (other.field? name) := by
  refine rel_mono_of_found (counterpart.field? name) fun _ otherChild _ found same => ?_
  have read : otherChild ∈ readNodes other := by
    rw [← counterpart.rawKind] at isName
    exact List.mem_append_right _ (List.mem_filterMap.mpr ⟨name, isName, found⟩)
  exact ⟨same, same.text_of_mem_readNodes aside counterpart.among read⟩

end Texts

end CounterpartIn

end UsageLint.Usage
