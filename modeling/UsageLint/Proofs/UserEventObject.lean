import UsageLint.Proofs.ImportHistory

namespace UsageLint.Imports

open UsageLint.Syntax

/-!
# The user-event object in a history

A tracker keeps the name of the user-event object beside what all names stand
for. The name is given by a binding of the object and lost to a later object or
to a foreign module, but not to a module of the library's family that binds it
to something else. So a name may be called the object while it stands for
another thing: exactly when the family has bound it again.
-/

namespace SourcedBinding

/-- Whether a binding is of the user-event object: the module or its default export. -/
def IsUserEventObject (sourced : SourcedBinding) : Prop :=
  sourced.specifier = Vocabulary.userEventModule ∧ sourced.binding.kind ≠ .named

instance (sourced : SourcedBinding) : Decidable sourced.IsUserEventObject :=
  inferInstanceAs (Decidable (_ ∧ _))

end SourcedBinding

/--
A history that names the user-event object: the last binding of the object gave
the name, and no foreign module has bound the name since.
-/
structure NamesObject
    (settings : Settings)
    (name : String)
    (bound earlier later : List SourcedBinding)
    (object : SourcedBinding) : Prop where
  shape : bound = earlier ++ object :: later
  isObject : object.IsUserEventObject
  named : object.localName = name
  isLast : ∀ sourced ∈ later, ¬ sourced.IsUserEventObject
  kept :
    ∀ sourced ∈ later,
      sourced.localName = name →
      IsFamilyModule settings sourced.specifier

/-- The class of a specifier tells whether it is the module of user events. -/
theorem ModuleClass.of_eq_userEvent_iff
    (specifier : String)
    (settings : Settings) :
    ModuleClass.of specifier settings = .userEvent ↔
      specifier = Vocabulary.userEventModule := by
  unfold ModuleClass.of
  split
  · simp_all
  · split
    · simp_all
    · split <;> simp_all

/-- One more binding names the object itself, or leaves alone what named it before. -/
theorem exists_namesObject_concat_iff
    (settings : Settings)
    (name : String)
    (bound : List SourcedBinding)
    (sourced : SourcedBinding) :
    (∃ earlier object later,
        NamesObject settings name (bound ++ [sourced]) earlier later object) ↔
      (sourced.IsUserEventObject ∧ sourced.localName = name) ∨
        (¬ sourced.IsUserEventObject ∧
          (∃ earlier object later,
            NamesObject settings name bound earlier later object) ∧
          (sourced.localName = name →
            IsFamilyModule settings sourced.specifier)) := by
  constructor
  · rintro ⟨earlier, object, later, names⟩
    have shape := names.shape
    rcases List.eq_nil_or_concat later with rfl | ⟨between, last, rfl⟩
    · obtain ⟨rfl, same⟩ := List.append_inj' shape rfl
      cases same
      exact Or.inl ⟨names.isObject, names.named⟩
    · rw [List.concat_eq_append, ← List.cons_append, ← List.append_assoc] at shape
      obtain ⟨rfl, same⟩ := List.append_inj' shape rfl
      cases same
      refine Or.inr ⟨names.isLast sourced (by simp), ⟨earlier, object, between, ?_⟩,
        names.kept sourced (by simp)⟩
      exact {
        shape := rfl
        isObject := names.isObject
        named := names.named
        isLast := fun other among => names.isLast other (by simp [among])
        kept := fun other among => names.kept other (by simp [among]) }
  · rintro (⟨isObject, named⟩ | ⟨notObject, ⟨earlier, object, later, names⟩, kept⟩)
    · exact ⟨bound, sourced, [], rfl, isObject, named, by simp, by simp⟩
    · refine ⟨earlier, object, later ++ [sourced], ?_⟩
      exact {
        shape := by simp [names.shape]
        isObject := names.isObject
        named := names.named
        isLast := by simpa [or_imp, forall_and] using ⟨names.isLast, notObject⟩
        kept := by simpa [or_imp, forall_and] using ⟨names.kept, kept⟩ }

/-- Of two parts of a history the later one decides what bound a name last. -/
theorem lastBinding?_append_cons
    (earlier later : List SourcedBinding)
    (sourced : SourcedBinding)
    (name : String) :
    lastBinding? (earlier ++ sourced :: later) name =
      (lastBinding? later name).or
        (if sourced.localName = name then
          some sourced
        else
          lastBinding? earlier name) := by
  unfold lastBinding?
  rw [List.filter_append, List.getLast?_append, List.filter_cons]
  split <;> simp_all [List.getLast?_cons]

theorem mem_of_lastBinding?
    {bound : List SourcedBinding}
    {name : String}
    {last : SourcedBinding}
    (lastBound : lastBinding? bound name = some last) :
    last ∈ bound ∧ last.localName = name := by
  have among := List.mem_of_getLast? lastBound
  simpa using among

namespace Tracker

/-- What a binding does to the name of the user-event object. -/
theorem userEventName_bindSourced_eq_some_iff
    (settings : Settings)
    (tracker : Tracker)
    (sourced : SourcedBinding)
    (name : String) :
    (tracker.bindSourced settings sourced).userEventName = some name ↔
      (sourced.IsUserEventObject ∧ sourced.localName = name) ∨
        (¬ sourced.IsUserEventObject ∧ tracker.userEventName = some name ∧
          (sourced.localName = name →
            IsFamilyModule settings sourced.specifier)) := by
  have ofFamily :
      sourced.specifier = Vocabulary.userEventModule →
      IsFamilyModule settings sourced.specifier := Or.inl
  have foreign := ModuleClass.of_eq_foreign_iff sourced.specifier settings
  simp only [userEventName_bindSourced, SourcedBinding.IsUserEventObject,
    ModuleClass.of_eq_userEvent_iff]
  grind

/-- The object that a history names is the one of the tracker after it. -/
theorem userEventName_eq_some_iff
    (settings : Settings)
    (observations : List Observation)
    (name : String) :
    (after settings observations).userEventName = some name ↔
      ∃ earlier object later,
        NamesObject settings name (boundBy observations) earlier later object := by
  refine holds_after
    (motive := fun bound tracker =>
      ∀ name,
        tracker.userEventName = some name ↔
          ∃ earlier object later,
            NamesObject settings name bound earlier later object)
    ?_ ?_ ?_ observations name
  · intro bound tracker sourced holds name
    rw [userEventName_bindSourced_eq_some_iff, holds, exists_namesObject_concat_iff]
  · intro bound first second same holds name
    rw [same.userEvent]
    exact holds name
  · intro name
    constructor
    · intro named
      cases named
    · rintro ⟨earlier, object, later, names⟩
      simpa using names.shape

/-- A name that was not bound again since stands for the object. -/
theorem binding?_of_namesObject
    {settings : Settings}
    {observations : List Observation}
    {name : String}
    {earlier later : List SourcedBinding}
    {object : SourcedBinding}
    (names :
      NamesObject settings name (boundBy observations) earlier later object)
    (untouched : ∀ sourced ∈ later, sourced.localName ≠ name) :
    (after settings observations).binding? name = some object.canonical := by
  have lastBound : lastBinding? (boundBy observations) name = some object := by
    rw [names.shape, lastBinding?_append_cons,
      lastBinding?_eq_none_iff.mpr untouched, Option.none_or, if_pos names.named]
  exact ((reflects_after settings observations).of_family lastBound
    (Or.inl names.isObject.1)).2

/-- A name that was bound again since stands for something else. -/
theorem exists_binding?_of_bound_again
    {settings : Settings}
    {observations : List Observation}
    {name : String}
    {earlier later : List SourcedBinding}
    {object sourced : SourcedBinding}
    (names :
      NamesObject settings name (boundBy observations) earlier later object)
    (among : sourced ∈ later)
    (again : sourced.localName = name) :
    ∃ last : SourcedBinding,
      ¬ last.IsUserEventObject ∧
        (after settings observations).binding? name = some last.canonical := by
  cases lastBound : lastBinding? later name with
  | none =>
      exact (lastBinding?_eq_none_iff.mp lastBound sourced among again).elim
  | some last =>
      have lastOfAll : lastBinding? (boundBy observations) name = some last := by
        rw [names.shape, lastBinding?_append_cons, lastBound, Option.some_or]
      obtain ⟨lastAmong, lastNamed⟩ := mem_of_lastBinding? lastBound
      exact ⟨last, names.isLast last lastAmong,
        ((reflects_after settings observations).of_family lastOfAll
          (names.kept last lastAmong lastNamed)).2⟩

/--
A name is that of the user-event object exactly if the last binding of the
object gave it and no foreign module has bound it since. It then stands for the
object, as the module or its default export, exactly if nothing at all has bound
it since.
-/
theorem userEventName_stands_for_object_iff
    (settings : Settings)
    (observations : List Observation)
    (name : String) :
    ((after settings observations).userEventName = some name ↔
        ∃ earlier object later,
          NamesObject settings name (boundBy observations) earlier later
            object) ∧
      ∀ earlier object later,
        NamesObject settings name (boundBy observations) earlier later object →
        ((∃ binding,
            (after settings observations).binding? name = some binding ∧
              binding.specifier = Vocabulary.userEventModule ∧
              binding.kind ≠ .named) ↔
          ∀ sourced ∈ later, sourced.localName ≠ name) := by
  refine ⟨userEventName_eq_some_iff settings observations name, ?_⟩
  intro earlier object later names
  constructor
  · rintro ⟨binding, stands, ofModule, whole⟩ sourced among again
    obtain ⟨last, notObject, standsForLast⟩ :=
      exists_binding?_of_bound_again names among again
    rw [stands] at standsForLast
    cases standsForLast
    exact notObject ⟨ofModule, whole⟩
  · intro untouched
    exact ⟨object.canonical, binding?_of_namesObject names untouched,
      names.isObject⟩

/-- The declaration `import ue from` a module, as a file of its own. -/
def importAsUe (specifier : String) : Node :=
  let text := "import ue from '" ++ specifier ++ "'"
  .root (.ofString text)
    (.node (label "import_statement" none 0 text.length)
      [.node (label "import_clause" none 7 9)
          [.node (label "identifier" none 7 9) []],
        .node (label "string" (some "source") 15 text.length) []])
where
  label (kind : String) (field : Option String) (start stop : Nat) : Label :=
    { kind, field, start, stop
      named := true, isError := false, isMissing := false, hasError := false }

/--
Where the default export of the testing library takes the name of the
user-event object, the name is still called the object.
-/
theorem user_event_name_outlives_object :
    let tracker :=
      after Settings.default
        [.declaration (importAsUe Vocabulary.userEventModule),
          .declaration (importAsUe "@testing-library/react")]
    tracker.userEventName = some "ue" ∧
      tracker.binding? "ue" = some ⟨"@testing-library/react", "default", .default⟩ := by
  decide +kernel

end Tracker

end UsageLint.Imports
