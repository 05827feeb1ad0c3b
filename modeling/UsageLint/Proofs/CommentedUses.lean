import UsageLint.Proofs.CommentedLoads
import UsageLint.Proofs.LiveRoot
import UsageLint.Proofs.SameAnswers

namespace UsageLint.Usage

open UsageLint.Syntax
open UsageLint.Imports
open UsageLint.Walk

/-!
# Uses among comments

An identifier is resolved by way of its parent, of fields, and of the chain that
it hangs on. Comments hide no parent and no field. A step through parentheses,
or over a non-null mark, goes to the first named node, and this is the one step
that a comment could lead astray. Where comments are aside, the tree with comments
is understood as the one without.
-/

section Chains

variable
  {root node other : Node}
  (aside : CommentsAside root)
  (isRoot : root.parent? = none)
  (counterpart : CounterpartIn root node other)

include aside counterpart

/-- The step toward the start of a chain leads to counterparts. -/
theorem towardStart?_commented :
    Option.Rel (CounterpartIn root) (towardStart? node) (towardStart? other) := by
  have first :
      node.rawKind = "parenthesized_expression" ∨
          node.rawKind = "non_null_expression" →
        Option.Rel (CounterpartIn root) node.namedChildren.head?
          other.namedChildren.head? := by
    intro marked
    rw [← counterpart.rawKind] at marked
    exact counterpart.namedChildren.head? (aside.starts other counterpart.among marked)
  unfold towardStart?
  rw [counterpart.rawKind]
  split
  · exact counterpart.field? "object"
  · exact counterpart.field? "function"
  · next nonNull => exact first (.inr nonNull)
  · next parenthesized => exact first (.inl parenthesized)
  · exact .none

include isRoot

end Chains

/-- The start of a chain is the counterpart of where it was. -/
theorem CounterpartIn.chainStart?
    {root node other : Node}
    (counterpart : CounterpartIn root node other)
    (aside : CommentsAside root) :
    Option.Rel (fun start otherStart => otherStart.text = start.text)
      (Usage.chainStart? node) (Usage.chainStart? other) := by
  rw [chainStart?_eq node, chainStart?_eq other, counterpart.rawKind]
  split
  · next identifier =>
      exact .some (counterpart.text_of_rawKind_identifier aside identifier)
  · rcases rel_cases (towardStart?_commented aside counterpart) with
      ⟨missing, otherMissing⟩ | ⟨next, otherNext, found, otherFound, same⟩
    · rw [missing, otherMissing]
      exact .none
    · -- A step goes to a child on both sides, so what is left is smaller.
      have smaller :=
        Node.size_lt_of_mem_children (mem_children_of_towardStart? found)
      rw [found, otherFound]
      exact chainStart? same aside
termination_by node.focus.size

section Names

variable
  {imports otherImports : Tracker}
  (same : imports.SameNames otherImports)

include same

end Names

namespace View

variable
  {settings : Settings}
  {state otherState : FileState}
  {root node other : Node}
  (same : state.imports.SameNames otherState.imports)

include same

variable
  (aside : CommentsAside root)

include aside

variable
  (isRoot : root.parent? = none)
  (counterpart : CounterpartIn root node other)

include isRoot counterpart

end View

section Example

open View (namedLabel)

/-- The comment that the files below have or do not have. -/
def noteText (noted : Bool) : String :=
  bif noted then "/**/" else ""

/-- A place in a file from which on the comment moves everything. -/
def shifted (noted : Bool) (offset : Nat) : Nat :=
  bif noted then offset + 4 else offset

/-- The comment at a place, if the file has it. -/
def noteAt (noted : Bool) (start : Nat) : List Tree :=
  bif noted then [.node (namedLabel "comment" none start (start + 4)) []] else []

/--
A file that takes what it requires apart by a pattern, of which the entries are six
letters long without the comment.
-/
def patternTree (noted : Bool) (entriesText : String) (entries : List Tree) :
    SourceTree where
  source :=
    .ofString
      ("const \x7b" ++ entriesText ++ "\x7d = require('@testing-library/react')")
  dialect := .tsx
  tree :=
    .node (namedLabel "lexical_declaration" none 0 (shifted noted 50))
      [.node (namedLabel "variable_declarator" none 6 (shifted noted 50))
        [.node (namedLabel "object_pattern" (some "name") 6 (shifted noted 14)) entries,
          .node
            (namedLabel "call_expression" (some "value") (shifted noted 17)
              (shifted noted 50))
            [.node
                (namedLabel "identifier" (some "function") (shifted noted 17)
                  (shifted noted 24))
                [],
              .node
                (namedLabel "arguments" (some "arguments") (shifted noted 24)
                  (shifted noted 50))
                [.node
                  (namedLabel "string" none (shifted noted 25) (shifted noted 49))
                  []]]]]

/-- A file that requires a render function by name, with or without a comment before it. -/
def nameTree (noted : Bool) : SourceTree :=
  patternTree noted (noteText noted ++ "render")
    (noteAt noted 7 ++
      [.node
        (namedLabel "shorthand_property_identifier_pattern" none (shifted noted 7)
          (shifted noted 13))
        []])

/-- What a name is bound to once the whole file is known. -/
def lastBinding? (tree : SourceTree) (name : String) : Option CanonicalBinding :=
  (walk tracking tree (.initial .default)).imports.binding? name

end Example

end UsageLint.Usage
