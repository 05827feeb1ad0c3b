import UsageLint.Proofs.Counterparts
import UsageLint.Syntax.Node

namespace UsageLint.Syntax

/-!
# Sketches of trees

A piece of source text fixes the shape of its tree: the kinds and fields of the
nodes, and the texts of those that need not be looked into. A sketch writes such
a shape down, and a node fits it if what is below the node, punctuation and
keywords aside, fits the sketch part by part. What is then looked up at the node,
by field or by kind, is found where the sketch shows it.
-/

/-- The shape of a tree, with the texts of its leaves. -/
inductive Sketch where
  | leaf (kind : String) (field : Option String) (text : String)
  | branch (kind : String) (field : Option String) (parts : List Sketch)
deriving Repr

namespace Node

/-- Whether a node is punctuation or a keyword: anonymous and under no field. -/
def isToken (node : Node) : Bool :=
  !node.label.named && node.label.field.isNone

/-- The nodes directly below this one, punctuation and keywords left out. -/
def parts (node : Node) : List Node :=
  node.children.filter (!·.isToken)

end Node

namespace Sketch

/-- The kind of the topmost node. -/
def kind : Sketch → String
  | leaf kind _ _ => kind
  | branch kind _ _ => kind

/-- The field that the topmost node is held under. -/
def field : Sketch → Option String
  | leaf _ field _ => field
  | branch _ field _ => field

section Projections

variable
  (kind text : String)
  (field : Option String)
  (parts : List Sketch)

@[simp] theorem kind_leaf : (leaf kind field text).kind = kind := rfl

@[simp] theorem kind_branch : (branch kind field parts).kind = kind := rfl

@[simp] theorem field_leaf : (leaf kind field text).field = field := rfl

@[simp] theorem field_branch : (branch kind field parts).field = field := rfl

end Projections

mutual

/-- Whether a node has the shape of a sketch. -/
def fits : Sketch → Node → Bool
  | leaf kind field text, node =>
      node.rawKind == kind && node.label.field == field && node.label.named &&
        node.text == text
  | branch kind field parts, node =>
      node.rawKind == kind && node.label.field == field && node.label.named &&
        fitAll parts node.parts

/-- Whether nodes have the shapes of sketches, one by one. -/
def fitAll : List Sketch → List Node → Bool
  | [], [] => true
  | sketch :: sketches, node :: nodes => sketch.fits node && fitAll sketches nodes
  | _, _ => false

end

/-- A node fits the sketch of its shape. -/
def Fits (sketch : Sketch) (node : Node) : Prop :=
  sketch.fits node = true

instance (sketch : Sketch) (node : Node) : Decidable (sketch.Fits node) :=
  inferInstanceAs (Decidable (sketch.fits node = true))

/-- Among siblings, those that fit sketches have only tokens between them. -/
theorem interspersed_of_fitAll
    {sketches : List Sketch}
    {nodes : List Node}
    (fit : fitAll sketches (nodes.filter (!·.isToken)) = true) :
    Interspersed Fits (·.isToken = true) sketches nodes := by
  induction nodes generalizing sketches with
  | nil =>
      cases sketches with
      | nil => exact .nil
      | cons => cases fit
  | cons node nodes inductionHypothesis =>
      by_cases token : node.isToken = true
      · rw [List.filter_cons_of_neg (by simp [token])] at fit
        exact .extra token (inductionHypothesis fit)
      · rw [List.filter_cons_of_pos (by simp [token])] at fit
        cases sketches with
        | nil =>
            cases fit
        | cons sketch sketches =>
            obtain ⟨first, rest⟩ := Bool.and_eq_true_iff.mp fit
            exact .keep first (inductionHypothesis rest)

section Top

variable
  {sketch : Sketch}
  {node : Node}
  (fits : sketch.Fits node)

include fits

/-- A node that fits a sketch has its kind in the tree. -/
theorem Fits.rawKind : node.rawKind = sketch.kind := by
  cases sketch <;> simp_all [Fits, Sketch.fits]

theorem Fits.field : node.label.field = sketch.field := by
  cases sketch <;> simp_all [Fits, Sketch.fits]

theorem Fits.named : node.label.named = true := by
  cases sketch <;> simp_all [Fits, Sketch.fits]

/-- Asking a node for a kind is asking the sketch it fits. -/
theorem Fits.isKind (kind : Kind) : node.isKind kind = (.ofGrammar sketch.kind == kind) := by
  rw [Node.isKind, Node.kind, fits.rawKind]

end Top

/-- The text of a leaf is the text of the nodes that fit it. -/
theorem Fits.text
    {kind text : String}
    {field : Option String}
    {node : Node}
    (fits : (leaf kind field text).Fits node) :
    node.text = text := by
  simp_all [Fits, Sketch.fits]

section Branch

variable
  {kind : String}
  {field : Option String}
  {parts : List Sketch}
  {node : Node}
  (fits : (branch kind field parts).Fits node)

include fits

/-- The children fit the parts in order, with tokens put in among them. -/
theorem Fits.children : Interspersed Fits (·.isToken = true) parts node.children := by
  apply interspersed_of_fitAll
  simp_all [Fits, Sketch.fits, Node.parts]

/-- The named nodes below are the parts. -/
theorem Fits.namedChildren : List.Forall₂ Fits parts node.namedChildren := by
  have kept :
      Interspersed Fits (·.isToken = true) (parts.filter fun _ => true)
        node.namedChildren :=
    fits.children.filter fun _ _ part => part.named
  rw [List.filter_true] at kept
  apply kept.forall₂
  intro child among token
  have named := (List.mem_filter.mp among).2
  simp [Node.isToken, named] at token

/-- What is held under a field is the first part under that field. -/
theorem Fits.field? (name : String) :
    Option.Rel Fits (parts.find? (·.field == some name)) (node.field? name) := by
  have found :=
    fits.children.find? (·.field == some name) (·.label.field == some name)
      (fun _ _ part => by rw [part.field])
      (fun token isToken => by simp_all [Node.isToken])
  exact rel_mono found fun _ _ => And.left

/-- The child of a kind is the first part of that kind. -/
theorem Fits.childOfKind? (rawKind : String) :
    Option.Rel Fits (parts.find? (·.kind == rawKind)) (node.childOfKind? rawKind) := by
  have named : Interspersed Fits (fun _ => False) parts node.namedChildren :=
    .of_forall₂ fits.namedChildren
  have found :=
    named.find? (·.kind == rawKind) (·.rawKind == rawKind)
      (fun _ _ part => by rw [part.rawKind]) (fun _ => False.elim)
  exact rel_mono found fun _ _ => And.left

end Branch

/-- A part that is the only one is the only named node below. -/
theorem Fits.exists_namedChildren_eq
    {kind : String}
    {field : Option String}
    {part : Sketch}
    {node : Node}
    (fits : (branch kind field [part]).Fits node) :
    ∃ child, node.namedChildren = [child] ∧ part.Fits child := by
  have together := fits.namedChildren
  generalize node.namedChildren = children at together
  cases together with
  | cons first rest =>
      cases rest
      exact ⟨_, rfl, first⟩

end Sketch

end UsageLint.Syntax
