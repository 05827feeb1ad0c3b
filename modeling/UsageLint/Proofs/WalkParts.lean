import UsageLint.Proofs.WalkOrder

namespace UsageLint.Walk

open UsageLint.Syntax

/-!
# Walks and parts of a context

Listeners may work on a part of a larger context, chained with others that
leave that part alone. Here a walk is looked at through a part: if the calls for
every node do to the part what smaller listeners do to it, then so does the
whole walk.
-/

namespace Listeners

variable {C D E : Type}

/-- Of chained sets, the first makes its calls before the second. -/
theorem callWhere_chain
    (first second : Listeners C)
    (test : Selector → Prop)
    [DecidablePred test]
    (node : Node)
    (context : C) :
    (first.chain second).callWhere test node context =
      second.callWhere test node (first.callWhere test node context) := by
  simp [callWhere, chain, List.foldl_append]

/-- Listeners within a larger context do to their part what they do alone. -/
theorem part_callWhere_within
    (part : D → C)
    (replace : D → C → D)
    (replaced : ∀ whole piece, part (replace whole piece) = piece)
    (listeners : Listeners C)
    (test : Selector → Prop)
    [DecidablePred test]
    (node : Node)
    (whole : D) :
    part ((listeners.within part replace).callWhere test node whole) =
      listeners.callWhere test node (part whole) := by
  rcases listeners with ⟨entries⟩
  induction entries generalizing whole with
  | nil =>
      rfl
  | cons entry rest inductionHypothesis =>
      have later := inductionHypothesis (if test entry.selector then
        replace whole (entry.handle node (part whole)) else whole)
      simp only [apply_ite part, replaced] at later
      exact later

/-- Listeners within a larger context leave alone what replacing the part does. -/
theorem other_callWhere_within
    (part : D → C)
    (replace : D → C → D)
    (other : D → E)
    (untouched : ∀ whole piece, other (replace whole piece) = other whole)
    (listeners : Listeners C)
    (test : Selector → Prop)
    [DecidablePred test]
    (node : Node)
    (whole : D) :
    other ((listeners.within part replace).callWhere test node whole) =
      other whole := by
  rcases listeners with ⟨entries⟩
  induction entries generalizing whole with
  | nil =>
      rfl
  | cons entry rest inductionHypothesis =>
      have later := inductionHypothesis (if test entry.selector then
        replace whole (entry.handle node (part whole)) else whole)
      simp only [apply_ite other, untouched, ite_self] at later
      exact later

/-- What is done to a part at every node is done to it by the whole walk. -/
theorem part_walk
    (part : D → C)
    {large : Listeners D}
    {small : Listeners C}
    (calls :
      ∀ (test : Selector → Prop) [DecidablePred test] node whole,
        part (large.callWhere test node whole) =
          small.callWhere test node (part whole))
    (tree : SourceTree)
    (whole : D) :
    part (walk large tree whole) = walk small tree (part whole) := by
  have visits :
      ∀ node whole,
        part (large.visitNode whole node) = small.visitNode (part whole) node := by
    intro node whole
    unfold visitNode
    split
    · exact calls _ node whole
    · rfl
  rw [walk_eq_foldl, walk_eq_foldl, calls, List.foldl_hom part]
  intro context node
  exact (visits node context).symm

end Listeners

end UsageLint.Walk
