import Mathlib.Data.List.Perm.Basic

namespace UsageLint

/-!
# Stable sorting

A stable sort leaves items that are equal in order as they were. So what it
makes of a list is told by two things: the result is sorted, and of the items
equal to any given one it lists the same, in the same order, as the list did. No
two lists have both in common.
-/

/-- Items are ordered as what is looked at of them is. -/
theorem transCmp_on
    {α β : Type}
    (order : β → β → Ordering)
    [transitive : Std.TransCmp order]
    (look : α → β) :
    Std.TransCmp fun left right => order (look left) (look right) where
  eq_swap := transitive.eq_swap
  isLE_trans := transitive.isLE_trans

section StableSort

variable {α β : Type} {order : α → α → Ordering}

/-- The items that are equal in order to a given one, as they are listed. -/
def equalTo (order : α → α → Ordering) (item : α) (items : List α) : List α :=
  items.filter fun other => order item other = .eq

theorem equalTo_of_cons
    {item : α}
    {rest others : List α}
    (alike :
      ∀ wanted, equalTo order wanted (item :: rest) = equalTo order wanted (item :: others))
    (wanted : α) :
    equalTo order wanted rest = equalTo order wanted others := by
  have listed := alike wanted
  simp only [equalTo, List.filter_cons] at listed
  split at listed
  · exact (List.cons.inj listed).2
  · exact listed

/-- What is equal to an item in a list of parts is what is equal to it in each part. -/
theorem equalTo_flatMap (item : α) (sources : List β) (parts : β → List α) :
    equalTo order item (sources.flatMap parts) =
      sources.flatMap fun source => equalTo order item (parts source) :=
  List.filter_flatMap

variable [Std.TransCmp order]

theorem isLE_or_isLE (left right : α) :
    ((order left right).isLE || (order right left).isLE) = true := by
  have swapped : order right left = (order left right).swap := Std.OrientedCmp.eq_swap
  rw [swapped]
  cases order left right <;> rfl

/-- The sorted list is in order, each item before all later ones. -/
theorem pairwise_sorted (items : List α) :
    (items.mergeSort fun left right => (order left right).isLE).Pairwise
      fun left right => (order left right).isLE = true := by
  apply List.pairwise_mergeSort
  · intro first second third
    exact Std.TransCmp.isLE_trans
  · exact isLE_or_isLE

/-- Sorting keeps the order of items that are equal in order. -/
theorem equalTo_sorted (item : α) (items : List α) :
    equalTo order item (items.mergeSort fun left right => (order left right).isLE) =
      equalTo order item items := by
  have allEqual :
      (equalTo order item items).Pairwise
        fun left right => (order left right).isLE = true := by
    apply List.pairwise_of_forall_mem_list
    intro left leftMember right rightMember
    have leftEqual : order item left = .eq := by
      simpa using (List.mem_filter.mp leftMember).2
    have rightEqual : order item right = .eq := by
      simpa using (List.mem_filter.mp rightMember).2
    rw [← Std.TransCmp.congr_left leftEqual, rightEqual]
    rfl
  have keptInOrder :
      (equalTo order item items).Sublist
        (items.mergeSort fun left right => (order left right).isLE) := by
    apply List.sublist_mergeSort _ _ allEqual List.filter_sublist
    · intro first second third
      exact Std.TransCmp.isLE_trans
    · exact isLE_or_isLE
  have sameLength :
      (equalTo order item
          (items.mergeSort fun left right => (order left right).isLE)).length =
        (equalTo order item items).length :=
    ((List.mergeSort_perm items _).filter _).length_eq
  have amongEqual := keptInOrder.filter fun other => decide (order item other = .eq)
  rw [equalTo, List.filter_filter] at amongEqual
  simp only [Bool.and_self] at amongEqual
  exact (amongEqual.eq_of_length sameLength.symm).symm

theorem mem_equalTo_self {item : α} {items : List α} :
    item ∈ equalTo order item items ↔ item ∈ items := by
  simp [equalTo, Std.ReflCmp.compare_self]

/-- The head of a sorted list is not after any of its items. -/
theorem isLE_of_mem_sorted
    {head item : α}
    {rest : List α}
    (sorted :
      (head :: rest).Pairwise fun left right => (order left right).isLE = true)
    (member : item ∈ head :: rest) :
    (order head item).isLE = true := by
  rcases List.mem_cons.mp member with same | later
  · have itself : order head head = .eq := Std.ReflCmp.compare_self
    rw [same, itself]
    rfl
  · exact List.rel_of_pairwise_cons sorted later

theorem mem_iff_of_equalTo
    {first second : List α}
    (alike : ∀ item, equalTo order item first = equalTo order item second)
    (item : α) :
    item ∈ first ↔ item ∈ second := by
  have listed : item ∈ equalTo order item first ↔ item ∈ first := mem_equalTo_self
  rw [← listed, alike, mem_equalTo_self]

/-- Neither head is after the other, so both open the same class. -/
theorem head_eq_of_equalTo
    {item other : α}
    {rest others : List α}
    (firstSorted :
      (item :: rest).Pairwise fun left right => (order left right).isLE = true)
    (secondSorted :
      (other :: others).Pairwise fun left right => (order left right).isLE = true)
    (alike :
      ∀ wanted, equalTo order wanted (item :: rest) = equalTo order wanted (other :: others)) :
    item = other := by
  have itemFirst : (order item other).isLE = true :=
    isLE_of_mem_sorted firstSorted
      ((mem_iff_of_equalTo alike other).mpr (List.mem_cons_self ..))
  have otherFirst : (order other item).isLE = true :=
    isLE_of_mem_sorted secondSorted
      ((mem_iff_of_equalTo alike item).mp (List.mem_cons_self ..))
  have headsEqual : order item other = .eq :=
    Std.OrientedCmp.isLE_antisymm itemFirst otherFirst
  have listed := alike item
  simp only [equalTo, List.filter_cons, headsEqual, Std.ReflCmp.compare_self,
    decide_true, if_true] at listed
  exact (List.cons.inj listed).1

/-- Two sorted lists that list equal items alike are the same list. -/
theorem eq_of_equalTo
    {first second : List α}
    (firstSorted : first.Pairwise fun left right => (order left right).isLE = true)
    (secondSorted : second.Pairwise fun left right => (order left right).isLE = true)
    (alike : ∀ item, equalTo order item first = equalTo order item second) :
    first = second := by
  induction first generalizing second with
  | nil =>
      cases second with
      | nil =>
          rfl
      | cons other others =>
          simpa using mem_iff_of_equalTo alike other
  | cons item rest inductionHypothesis =>
      cases second with
      | nil =>
          simpa using mem_iff_of_equalTo alike item
      | cons other others =>
          obtain rfl : item = other := head_eq_of_equalTo firstSorted secondSorted alike
          congr 1
          exact inductionHypothesis firstSorted.of_cons secondSorted.of_cons
            (equalTo_of_cons alike)

/-- A list is what sorting makes of another if it is sorted and lists equal items alike. -/
theorem sorted_eq_of_equalTo
    {items sorted : List α}
    (isSorted : sorted.Pairwise fun left right => (order left right).isLE = true)
    (alike : ∀ item, equalTo order item sorted = equalTo order item items) :
    (items.mergeSort fun left right => (order left right).isLE) = sorted := by
  apply eq_of_equalTo (pairwise_sorted items) isSorted
  intro item
  rw [equalTo_sorted, alike]

end StableSort

end UsageLint
