import Mathlib.Data.List.Forall2

namespace UsageLint

/-!
# Counterparts

Two things are compared part by part here: lists of which one holds counterparts
of all items of the other, and look-ups that find counterparts or find nothing
together. What is made of counterparts alike is the same on both sides.
-/

/--
Two lists of which the second holds counterparts of all items of the first, in
their order, and extra items anywhere between them.
-/
inductive Interspersed
    {α β : Type}
    (Counterpart : α → β → Prop)
    (Extra : β → Prop) :
    List α → List β → Prop where
  | nil :
      Interspersed Counterpart Extra [] []
  | keep
      {item : α}
      {other : β}
      {items : List α}
      {others : List β}
      (same : Counterpart item other)
      (rest : Interspersed Counterpart Extra items others) :
      Interspersed Counterpart Extra (item :: items) (other :: others)
  | extra
      {other : β}
      {items : List α}
      {others : List β}
      (isExtra : Extra other)
      (rest : Interspersed Counterpart Extra items others) :
      Interspersed Counterpart Extra items (other :: others)

namespace Interspersed

variable
  {α β γ : Type}
  {Counterpart : α → β → Prop}
  {Extra : β → Prop}
  {items moreItems : List α}
  {others moreOthers : List β}

theorem append
    (first : Interspersed Counterpart Extra items others)
    (second : Interspersed Counterpart Extra moreItems moreOthers) :
    Interspersed Counterpart Extra (items ++ moreItems) (others ++ moreOthers) := by
  induction first with
  | nil =>
      exact second
  | keep same _ inductionHypothesis =>
      exact .keep same inductionHypothesis
  | extra isExtra _ inductionHypothesis =>
      exact .extra isExtra inductionHypothesis

theorem reverse (lists : Interspersed Counterpart Extra items others) :
    Interspersed Counterpart Extra items.reverse others.reverse := by
  induction lists with
  | nil =>
      exact .nil
  | keep same _ inductionHypothesis =>
      rw [List.reverse_cons, List.reverse_cons]
      exact inductionHypothesis.append (.keep same .nil)
  | @extra other items others isExtra _ inductionHypothesis =>
      rw [List.reverse_cons, ← List.append_nil items.reverse]
      exact inductionHypothesis.append (.extra isExtra .nil)

/-- What is known of the items of the second list may be said of the counterparts. -/
theorem mono_of_mem
    (lists : Interspersed Counterpart Extra items others)
    {Stronger : α → β → Prop}
    (strengthens :
      ∀ item, ∀ other ∈ others, Counterpart item other → Stronger item other) :
    Interspersed Stronger Extra items others := by
  induction lists with
  | nil =>
      exact .nil
  | keep same _ inductionHypothesis =>
      exact .keep (strengthens _ _ (.head _) same)
        (inductionHypothesis fun item other among =>
          strengthens item other (.tail _ among))
  | extra isExtra _ inductionHypothesis =>
      exact .extra isExtra
        (inductionHypothesis fun item other among =>
          strengthens item other (.tail _ among))

/-- A test that counterparts pass alike leaves extra items only between them. -/
theorem filter
    (lists : Interspersed Counterpart Extra items others)
    {keeps : α → Bool}
    {otherKeeps : β → Bool}
    (alike : ∀ item other, Counterpart item other → otherKeeps other = keeps item) :
    Interspersed Counterpart Extra (items.filter keeps)
      (others.filter otherKeeps) := by
  induction lists with
  | nil =>
      exact .nil
  | @keep item other _ _ same _ inductionHypothesis =>
      rw [List.filter_cons, List.filter_cons, alike item other same]
      split
      · exact .keep same inductionHypothesis
      · exact inductionHypothesis
  | extra isExtra _ inductionHypothesis =>
      rw [List.filter_cons]
      split
      · exact .extra isExtra inductionHypothesis
      · exact inductionHypothesis

/-- What no extra item passes is found at counterparts. -/
theorem find?
    (lists : Interspersed Counterpart Extra items others)
    (test : α → Bool)
    (otherTest : β → Bool)
    (alike : ∀ item other, Counterpart item other → otherTest other = test item)
    (failed : ∀ other, Extra other → otherTest other = false) :
    Option.Rel
      (fun item other => Counterpart item other ∧ test item = true)
      (items.find? test) (others.find? otherTest) := by
  induction lists with
  | nil =>
      exact .none
  | @keep item other _ _ same _ inductionHypothesis =>
      rw [List.find?_cons, List.find?_cons, alike item other same]
      cases passes : test item with
      | true => exact .some ⟨same, passes⟩
      | false => exact inductionHypothesis
  | @extra other _ _ isExtra _ inductionHypothesis =>
      rw [List.find?_cons, failed other isExtra]
      exact inductionHypothesis

/-- What extra items add nothing to is gathered from counterparts. -/
theorem flatMap_eq
    (lists : Interspersed Counterpart Extra items others)
    {gather : α → List γ}
    {otherGather : β → List γ}
    (alike :
      ∀ item other, Counterpart item other → otherGather other = gather item)
    (nothing : ∀ other, Extra other → otherGather other = []) :
    others.flatMap otherGather = items.flatMap gather := by
  induction lists with
  | nil =>
      rfl
  | @keep item other _ _ same _ inductionHypothesis =>
      rw [List.flatMap_cons, List.flatMap_cons, alike item other same,
        inductionHypothesis]
  | @extra other _ _ isExtra _ inductionHypothesis =>
      rw [List.flatMap_cons, nothing other isExtra, inductionHypothesis,
        List.nil_append]

/-- Lists that counterparts are listed by go along as the counterparts do. -/
theorem flatMap
    {δ : Type}
    {Within : γ → δ → Prop}
    {Outside : δ → Prop}
    {listed : α → List γ}
    {otherListed : β → List δ}
    (lists : Interspersed Counterpart Extra items others)
    (alike :
      ∀ item ∈ items, ∀ other, Counterpart item other →
        Interspersed Within Outside (listed item) (otherListed other))
    (outside :
      ∀ other, Extra other → Interspersed Within Outside [] (otherListed other)) :
    Interspersed Within Outside (items.flatMap listed)
      (others.flatMap otherListed) := by
  induction lists with
  | nil =>
      exact .nil
  | @keep item other _ _ same _ inductionHypothesis =>
      have first := alike item (.head _) other same
      have rest := inductionHypothesis fun later among => alike later (.tail _ among)
      simpa using first.append rest
  | @extra other _ _ isExtra _ inductionHypothesis =>
      simpa using (outside other isExtra).append (inductionHypothesis alike)

/-- Reading some of the items gives the same list where extra items give nothing. -/
theorem filterMap_eq
    (lists : Interspersed Counterpart Extra items others)
    {read : α → Option γ}
    {otherRead : β → Option γ}
    (alike : ∀ item other, Counterpart item other → otherRead other = read item)
    (nothing : ∀ other, Extra other → otherRead other = none) :
    others.filterMap otherRead = items.filterMap read := by
  induction lists with
  | nil =>
      rfl
  | @keep item other _ _ same _ inductionHypothesis =>
      rw [List.filterMap_cons, List.filterMap_cons, alike item other same,
        inductionHypothesis]
  | @extra other _ _ isExtra _ inductionHypothesis =>
      rw [List.filterMap_cons_none (nothing other isExtra), inductionHypothesis]

/-- A test holds of all items on both sides alike where it passes extra items. -/
theorem all_eq
    (lists : Interspersed Counterpart Extra items others)
    (test : α → Bool)
    (otherTest : β → Bool)
    (alike : ∀ item other, Counterpart item other → otherTest other = test item)
    (passed : ∀ other, Extra other → otherTest other = true) :
    others.all otherTest = items.all test := by
  induction lists with
  | nil =>
      rfl
  | @keep item other _ _ same _ inductionHypothesis =>
      rw [List.all_cons, List.all_cons, alike item other same, inductionHypothesis]
  | @extra other _ _ isExtra _ inductionHypothesis =>
      rw [List.all_cons, passed other isExtra, inductionHypothesis, Bool.true_and]

/-- Where no item is extra, the lists go along with each other. -/
theorem forall₂
    (lists : Interspersed Counterpart Extra items others)
    (plain : ∀ other ∈ others, ¬ Extra other) :
    List.Forall₂ Counterpart items others := by
  induction lists with
  | nil =>
      exact .nil
  | keep same _ inductionHypothesis =>
      exact .cons same
        (inductionHypothesis fun other among => plain other (.tail _ among))
  | extra isExtra _ _ =>
      exact (plain _ (.head _) isExtra).elim

/-- Lists that go along with each other have no extra items between them. -/
theorem of_forall₂ (together : List.Forall₂ Counterpart items others) :
    Interspersed Counterpart Extra items others := by
  induction together with
  | nil =>
      exact .nil
  | cons same _ inductionHypothesis =>
      exact .keep same inductionHypothesis

/-- The first items correspond when the first on the other side is no extra one. -/
theorem head?
    (lists : Interspersed Counterpart Extra items others)
    (plain : ∀ other, others.head? = some other → ¬ Extra other) :
    Option.Rel Counterpart items.head? others.head? := by
  cases lists with
  | nil =>
      exact .none
  | keep same _ =>
      exact .some same
  | extra isExtra _ =>
      exact (plain _ rfl isExtra).elim

end Interspersed

section Lookups

variable
  {α β γ : Type}
  {Related : α → β → Prop}
  {first : Option α}
  {second : Option β}
  (related : Option.Rel Related first second)

include related

/-- What is looked up on both sides is missing on both or found on both. -/
theorem rel_cases :
    (first = none ∧ second = none) ∨
      ∃ left right, first = some left ∧ second = some right ∧ Related left right := by
  cases related with
  | none => exact .inl ⟨rfl, rfl⟩
  | some same => exact .inr ⟨_, _, rfl, rfl, same⟩

/-- Where the one side is found, so is the other. -/
theorem exists_of_rel
    {left : α}
    (found : first = some left) :
    ∃ right, second = some right ∧ Related left right := by
  subst found
  cases related with
  | some same => exact ⟨_, rfl, same⟩

/-- Nothing has nothing for its counterpart. -/
theorem eq_none_of_rel (missing : first = none) : second = none := by
  subst missing
  cases related
  rfl

/-- Optional items are related by all that holds of related items where they are found. -/
theorem rel_mono_of_found
    {Other : α → β → Prop}
    (gives :
      ∀ left right,
        first = some left → second = some right → Related left right → Other left right) :
    Option.Rel Other first second := by
  cases related with
  | none => exact .none
  | some same => exact .some (gives _ _ rfl rfl same)

/-- Optional items related one way are related every weaker way. -/
theorem rel_mono
    {Weaker : α → β → Prop}
    (weakens : ∀ left right, Related left right → Weaker left right) :
    Option.Rel Weaker first second :=
  rel_mono_of_found related fun _ _ _ _ => weakens _ _

/-- What is read off related items is the same. -/
theorem map_eq_of_rel
    {read : α → γ}
    {otherRead : β → γ}
    (alike : ∀ left right, Related left right → otherRead right = read left) :
    second.map otherRead = first.map read := by
  cases related with
  | none => rfl
  | some same => exact congrArg some (alike _ _ same)

/-- What is read off related items, if anything, is the same. -/
theorem bind_eq_of_rel
    {read : α → Option γ}
    {otherRead : β → Option γ}
    (alike : ∀ left right, Related left right → otherRead right = read left) :
    second.bind otherRead = first.bind read := by
  cases related with
  | none => rfl
  | some same => exact alike _ _ same

/-- A test answers alike on related optional items. -/
theorem any_eq_of_rel
    {test : α → Bool}
    {otherTest : β → Bool}
    (alike : ∀ left right, Related left right → otherTest right = test left) :
    second.any otherTest = first.any test := by
  cases related with
  | none => rfl
  | some same => exact alike _ _ same

/-- What related items lead to is related. -/
theorem rel_bind
    {γ δ : Type}
    {Found : γ → δ → Prop}
    {read : α → Option γ}
    {otherRead : β → Option δ}
    (alike :
      ∀ left right, Related left right →
        Option.Rel Found (read left) (otherRead right)) :
    Option.Rel Found (first.bind read) (second.bind otherRead) := by
  cases related with
  | none => exact .none
  | some same => exact alike _ _ same

end Lookups

end UsageLint
