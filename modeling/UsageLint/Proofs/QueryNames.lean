import UsageLint.Proofs.ImportForms
import UsageLint.Proofs.Widening

namespace UsageLint.Usage

open UsageLint.Syntax
open UsageLint.Imports

/-!
# Names of queries

The convention by which queries are named is applied twice: by the last checks
of the precedence list, each with beginnings of its own, and by the questions
that ask whether an identifier is a query that answers at once, one that waits,
or one of the library's own. Both read the names that an identifier is known by,
the one written and, where it is bound by name, the exported one. Here the two
are compared for every identifier, whatever its imports.
-/

/-- A name that continues a beginning begins with it. -/
theorem exists_isPrefix_of_continuesOne
    {beginnings : List String}
    {name : String}
    (continues : Vocabulary.continuesOne beginnings name = true) :
    ∃ beginning ∈ beginnings, beginning.toList <+: name.toList := by
  obtain ⟨beginning, among, goesOn⟩ := List.any_eq_true.mp continues
  refine ⟨beginning, among, ?_⟩
  by_cases isBeginning : beginning.toList.isPrefixOf name.toList = true
  · exact List.isPrefixOf_iff_prefix.mp isBeginning
  · simp [Vocabulary.after?, isBeginning] at goesOn

/-- No name is that of a query of both kinds. -/
theorem not_isAsyncQueryName_of_isSyncQueryName
    {name : String}
    (sync : Vocabulary.isSyncQueryName name = true) :
    Vocabulary.isAsyncQueryName name = false := by
  have apart :
      ∀ first ∈ Vocabulary.syncPrefixes,
        ∀ second ∈ Vocabulary.asyncPrefixes,
          ¬ first.toList <+: second.toList ∧ ¬ second.toList <+: first.toList := by
    decide
  refine Bool.eq_false_iff.mpr fun async => ?_
  obtain ⟨first, firstAmong, isFirst⟩ := exists_isPrefix_of_continuesOne sync
  obtain ⟨second, secondAmong, isSecond⟩ := exists_isPrefix_of_continuesOne async
  have neither := apart first firstAmong second secondAmong
  -- Of two beginnings of one name the shorter is a beginning of the longer.
  rcases List.prefix_or_prefix_of_prefix isFirst isSecond with longer | longer
  · exact neither.1 longer
  · exact neither.2 longer

/-- A query of the library's own answers at once or waits. -/
theorem isQueryName_of_isBuiltInQueryName
    {name : String}
    (builtIn : Vocabulary.isBuiltInQueryName name = true) :
    Vocabulary.isSyncQueryName name = true ∨
      Vocabulary.isAsyncQueryName name = true := by
  have continues := continuesOne_of_isBuiltInQueryName builtIn
  rw [continuesOne_append, Bool.or_eq_true] at continues
  exact continues

namespace Resolved

variable {resolved : Resolved}

/-- A name under which a resolved identifier is known. -/
def IsKnownAs (resolved : Resolved) (name : String) : Prop :=
  resolved.localName = name ∨ resolved.canonical = some name

theorem either_eq_true_iff (test : String → Bool) :
    resolved.either test = true ↔
      ∃ name, resolved.IsKnownAs name ∧ test name = true := by
  simp [either, IsKnownAs, or_and_right, exists_or, Option.any_eq_true]

/-- The checks for queries that answer at once ask for the two sorts of them. -/
theorem either_isSyncQueryName :
    resolved.either Vocabulary.isSyncQueryName =
      (resolved.either (Vocabulary.continuesOne Vocabulary.getPrefixes) ||
        resolved.either (Vocabulary.continuesOne Vocabulary.queryPrefixes)) := by
  have bySort :
      ∀ name,
        Vocabulary.isSyncQueryName name =
          (Vocabulary.continuesOne Vocabulary.getPrefixes name ||
            Vocabulary.continuesOne Vocabulary.queryPrefixes name) :=
    continuesOne_append Vocabulary.getPrefixes Vocabulary.queryPrefixes
  rw [Bool.eq_iff_iff, Bool.or_eq_true]
  simp only [either_eq_true_iff, bySort, Bool.or_eq_true, and_or_left, exists_or]

theorem either_of_isBuiltInQueryName
    (builtIn : resolved.either Vocabulary.isBuiltInQueryName = true) :
    resolved.either Vocabulary.isSyncQueryName = true ∨
      resolved.either Vocabulary.isAsyncQueryName = true := by
  obtain ⟨name, known, named⟩ := (either_eq_true_iff _).mp builtIn
  rcases isQueryName_of_isBuiltInQueryName named with sync | async
  · exact .inl ((either_eq_true_iff _).mpr ⟨name, known, sync⟩)
  · exact .inr ((either_eq_true_iff _).mpr ⟨name, known, async⟩)

/-- What is known as a query of both kinds is so by two names, one a kind. -/
theorem exists_exported_of_both
    (sync : resolved.either Vocabulary.isSyncQueryName = true)
    (async : resolved.either Vocabulary.isAsyncQueryName = true) :
    ∃ exported,
      resolved.canonical = some exported ∧
        ((Vocabulary.isSyncQueryName resolved.localName = true ∧
            Vocabulary.isAsyncQueryName exported = true) ∨
          (Vocabulary.isAsyncQueryName resolved.localName = true ∧
            Vocabulary.isSyncQueryName exported = true)) := by
  obtain ⟨first, firstKnown, isSync⟩ := (either_eq_true_iff _).mp sync
  obtain ⟨second, secondKnown, isAsync⟩ := (either_eq_true_iff _).mp async
  have different : first ≠ second := by
    rintro rfl
    rw [not_isAsyncQueryName_of_isSyncQueryName isSync] at isAsync
    cases isAsync
  rcases firstKnown with rfl | firstExported <;>
    rcases secondKnown with rfl | secondExported
  · exact (different rfl).elim
  · exact ⟨second, secondExported, .inl ⟨isSync, isAsync⟩⟩
  · exact ⟨first, firstExported, .inr ⟨isAsync, isSync⟩⟩
  · rw [firstExported, Option.some.injEq] at secondExported
    exact (different secondExported).elim

end Resolved

/-- The checks that go by the names of queries, which come last. -/
def queryChecks : List CallCheck :=
  [.getQuery, .queryQuery, .findQuery]

/-- The checks that come before those for the names of queries. -/
def checksBeforeQueries : List CallCheck :=
  [.render, .asyncUtil, .userEventMethod, .customQuery]

/-- Whether a category is given before the names of queries are looked at. -/
def Category.PrecedesQueries : Category → Prop
  | render | asyncUtil _ | userEventMethod | customQuery => True
  | _ => False

theorem precedesQueries_of_gives
    {check : CallCheck}
    {category : Category}
    (among : check ∈ checksBeforeQueries)
    (gives : check.Gives category) :
    category.PrecedesQueries := by
  simp only [checksBeforeQueries, List.mem_cons, List.not_mem_nil, or_false] at among
  rcases among with rfl | rfl | rfl | rfl
  case inr.inl =>
    obtain ⟨name, rfl⟩ := gives
    trivial
  all_goals
    cases gives
    trivial

section Resolved

variable
  {view : View}
  {node : Node}
  {resolved : Resolved}

/-- What the last checks make of an identifier. -/
theorem firstCategory?_queryChecks :
    firstCategory? queryChecks view node resolved =
      if resolved.either (Vocabulary.continuesOne Vocabulary.getPrefixes) then
        some .getQuery
      else if resolved.either (Vocabulary.continuesOne Vocabulary.queryPrefixes) then
        some .queryQuery
      else if resolved.either Vocabulary.isAsyncQueryName then
        some .findQuery
      else
        none := by
  have sameTest :
      Vocabulary.continuesOne Vocabulary.asyncPrefixes =
        Vocabulary.isAsyncQueryName := rfl
  simp only [firstCategory?, queryChecks, List.findSome?_cons, List.findSome?_nil,
    CallCheck.category?, sameTest]
  grind

/--
The category of a resolved identifier: one that comes before the queries, or the
one that the names of queries give.
-/
theorem precedesQueries_or_category_eq (found : view.resolve? node = some resolved) :
    (view.category node).PrecedesQueries ∨
      view.category node =
        (firstCategory? queryChecks view node resolved).getD .unrelated := by
  have rounds : CallCheck.precedence = checksBeforeQueries ++ queryChecks := rfl
  rw [View.category_of_resolve? rounds found]
  cases given : firstCategory? checksBeforeQueries view node resolved with
  | none =>
      right
      rw [Option.none_or]
  | some category =>
      left
      obtain ⟨check, among, gives⟩ := exists_gives_of_firstCategory? given
      exact precedesQueries_of_gives among gives

end Resolved

theorem canonicalName_eq_some_iff
    {imports : Tracker}
    {name exported : String} :
    canonicalName imports name = some exported ↔
      BoundByName imports name exported := by
  unfold canonicalName BoundByName
  cases imports.binding? name with
  | none =>
      simp
  | some binding =>
      rcases binding with ⟨specifier, canonical, kind⟩
      simp [and_comm]

namespace View

/-- The local name of an identifier is its text. -/
theorem localName_of_resolve?
    {view : View}
    {node : Node}
    {resolved : Resolved}
    (found : view.resolve? node = some resolved) :
    resolved.localName = node.text := by
  unfold resolve? at found
  grind

/-- Only a plain identifier that is bound by name has an exported one. -/
theorem boundByName_of_canonical
    {view : View}
    {node : Node}
    {resolved : Resolved}
    {exported : String}
    (found : view.resolve? node = some resolved)
    (canonical : resolved.canonical = some exported) :
    memberOf? node = none ∧ BoundByName view.imports node.text exported := by
  rw [← canonicalName_eq_some_iff]
  unfold resolve? at found
  grind

/-- Whether a node stands for a module: by itself, under a name that is bound to one. -/
def IsWholeModule (view : View) (node : Node) : Prop :=
  memberOf? node = none ∧ isModuleName view.imports node.text = true

/-- A name that a node is known by: its own or, by itself, the one it is bound to. -/
def IsKnownAs (view : View) (node : Node) (name : String) : Prop :=
  node.text = name ∨
    (memberOf? node = none ∧ BoundByName view.imports node.text name)

/-- An identifier that does not stand for a module is asked for all of its names. -/
theorem isNamedBy_eq_true_iff
    {view : View}
    {node : Node}
    (identifier : node.isKind .identifier = true)
    (test : String → Bool) :
    view.isNamedBy node test = true ↔
      ¬ view.IsWholeModule node ∧
        ∃ name, view.IsKnownAs node name ∧ test name = true := by
  unfold isNamedBy IsWholeModule IsKnownAs
  rw [Option.any_eq_true]
  cases isMember : memberOf? node with
  | some member =>
      simp [resolve?, identifier, isMember, Resolved.either_eq_true_iff,
        Resolved.IsKnownAs]
  | none =>
      by_cases isModule : isModuleName view.imports node.text = true
      · simp [resolve?, identifier, isMember, isModule]
      · simp [resolve?, identifier, isMember, isModule, Resolved.either_eq_true_iff,
          Resolved.IsKnownAs, canonicalName_eq_some_iff]

/--
How the questions about queries and the category of an identifier agree: what is
asked for is never unrelated, the category follows from the questions unless an
earlier one is given, and the questions follow from the category and from the
names that the identifier is known by.
-/
structure QueriesAgree (view : View) (node : Node) : Prop where
  builtIn :
    view.isBuiltInQuery node = true →
    view.isSyncQuery node = true ∨ view.isAsyncQuery node = true
  related :
    view.isSyncQuery node = true ∨ view.isAsyncQuery node = true →
    view.category node ≠ .unrelated
  sync_of_category :
    view.category node = .getQuery ∨ view.category node = .queryQuery →
    view.isSyncQuery node = true
  async_of_category :
    view.category node = .findQuery →
    view.isAsyncQuery node = true ∧ view.isSyncQuery node = false
  category_of_sync :
    view.isSyncQuery node = true →
    ¬ (view.category node).PrecedesQueries →
    view.category node = .getQuery ∨ view.category node = .queryQuery
  category_of_async :
    view.isAsyncQuery node = true →
    view.isSyncQuery node = false →
    ¬ (view.category node).PrecedesQueries →
    view.category node = .findQuery
  exported_of_both :
    view.isSyncQuery node = true →
    view.isAsyncQuery node = true →
    memberOf? node = none ∧
      ∃ exported,
        BoundByName view.imports node.text exported ∧
          ((Vocabulary.isSyncQueryName node.text = true ∧
              Vocabulary.isAsyncQueryName exported = true) ∨
            (Vocabulary.isAsyncQueryName node.text = true ∧
              Vocabulary.isSyncQueryName exported = true))
  sync_iff :
    view.isSyncQuery node = true ↔
      ¬ view.IsWholeModule node ∧
        ∃ name, view.IsKnownAs node name ∧ Vocabulary.isSyncQueryName name = true
  async_iff :
    view.isAsyncQuery node = true ↔
      ¬ view.IsWholeModule node ∧
        ∃ name, view.IsKnownAs node name ∧ Vocabulary.isAsyncQueryName name = true
  builtIn_iff :
    view.isBuiltInQuery node = true ↔
      ¬ view.IsWholeModule node ∧
        ∃ name, view.IsKnownAs node name ∧ Vocabulary.isBuiltInQueryName name = true

/-- An identifier that is not resolved is unrelated, and no query. -/
theorem unrelated_of_not_resolved
    {view : View}
    {node : Node}
    (identifier : node.isKind .identifier = true)
    (missing : view.resolve? node = none) :
    view.category node = .unrelated ∧
      view.isSyncQuery node = false ∧
      view.isAsyncQuery node = false ∧
      view.isBuiltInQuery node = false := by
  have kind : node.kind = .identifier := beq_iff_eq.mp identifier
  simp [category, kind, callCategory, isSyncQuery, isAsyncQuery, isBuiltInQuery,
    isNamedBy, missing]

/--
The category of an identifier precedes the queries, or tells what the questions
about queries are answered, the kind that answers at once first.
-/
theorem category_by_queries
    (view : View)
    {node : Node}
    (identifier : node.isKind .identifier = true) :
    (view.category node).PrecedesQueries ∨
      ((view.category node = .getQuery ∨ view.category node = .queryQuery) ∧
        view.isSyncQuery node = true) ∨
      (view.category node = .findQuery ∧
        view.isSyncQuery node = false ∧
        view.isAsyncQuery node = true) ∨
      (view.category node = .unrelated ∧
        view.isSyncQuery node = false ∧
        view.isAsyncQuery node = false) := by
  cases found : view.resolve? node with
  | none =>
      obtain ⟨unrelated, notSync, notAsync, _⟩ :=
        unrelated_of_not_resolved identifier found
      exact .inr (.inr (.inr ⟨unrelated, notSync, notAsync⟩))
  | some resolved =>
      refine (precedesQueries_or_category_eq found).imp_right fun last => ?_
      have sync :
          view.isSyncQuery node =
            (resolved.either (Vocabulary.continuesOne Vocabulary.getPrefixes) ||
              resolved.either (Vocabulary.continuesOne Vocabulary.queryPrefixes)) := by
        rw [← Resolved.either_isSyncQueryName]
        simp [isSyncQuery, isNamedBy, found]
      have async :
          view.isAsyncQuery node = resolved.either Vocabulary.isAsyncQueryName := by
        simp [isAsyncQuery, isNamedBy, found]
      rw [firstCategory?_queryChecks] at last
      rw [last, sync, async]
      grind

/--
The questions about queries and the precedence list apply one convention. Every
query has a category; one that no earlier check claims is a query of the kind
that it answers to, the kind that answers at once first; and only a plain
identifier that is bound by name can be a query of both kinds, by one name each.
Which questions an identifier answers to follows from the names it is known by.
-/
theorem queries_agree_with_categories
    (view : View)
    {node : Node}
    (identifier : node.isKind .identifier = true) :
    view.QueriesAgree node := by
  constructor
  case builtIn =>
    intro builtIn
    obtain ⟨resolved, found, named⟩ := (Option.any_eq_true _ _).mp builtIn
    simp only [isSyncQuery, isAsyncQuery, isNamedBy, found, Option.any_some]
    exact Resolved.either_of_isBuiltInQueryName named
  case exported_of_both =>
    intro sync async
    obtain ⟨resolved, found, isSync⟩ := (Option.any_eq_true _ _).mp sync
    have isAsync : resolved.either Vocabulary.isAsyncQueryName = true := by
      simpa [isAsyncQuery, isNamedBy, found] using async
    obtain ⟨exported, canonical, names⟩ :=
      Resolved.exists_exported_of_both isSync isAsync
    obtain ⟨plain, bound⟩ := boundByName_of_canonical found canonical
    rw [localName_of_resolve? found] at names
    exact ⟨plain, exported, bound, names⟩
  case sync_iff =>
    exact isNamedBy_eq_true_iff identifier _
  case async_iff =>
    exact isNamedBy_eq_true_iff identifier _
  case builtIn_iff =>
    exact isNamedBy_eq_true_iff identifier _
  case related | sync_of_category | async_of_category | category_of_sync |
      category_of_async =>
    rcases category_by_queries view identifier with
      earlier | ⟨isSync, sync⟩ | ⟨isFind, sync, async⟩ | ⟨unrelated, sync, async⟩ <;>
      grind [Category.PrecedesQueries]

/-- A file that imports a query that answers at once under the name of one that waits. -/
def renamedSource : Source :=
  .ofString
    "import { getByRole as findByRole } from '@testing-library/react';findByRole('x')"

/-- The import, which names the query `findByRole`. -/
def renamedImport : Node :=
  .root renamedSource
    (.node (namedLabel "import_statement" none 0 65)
      [.node (namedLabel "import_clause" none 7 34)
          [.node (namedLabel "named_imports" none 7 34)
            [.node (namedLabel "import_specifier" none 9 32)
              [.node (namedLabel "identifier" (some "name") 9 18) [],
                .node (namedLabel "identifier" (some "alias") 22 32) []]]],
        .node (namedLabel "string" (some "source") 40 64) []])

/-- The call of the query by the name it was given. -/
def renamedQuery : Node where
  source := renamedSource
  focus := .node (namedLabel "identifier" (some "function") 65 75) []
  above :=
    [{ label := namedLabel "call_expression" none 65 80
       before := []
       after := [.node (namedLabel "arguments" (some "arguments") 75 80) []] }]

/-- The renamed query is one of both kinds, and counts as one that answers at once. -/
theorem renamed_query_agrees :
    let view := View.after Settings.default [.declaration renamedImport] false
    renamedQuery.isKind .identifier = true ∧
      view.QueriesAgree renamedQuery ∧
      view.isSyncQuery renamedQuery = true ∧
      view.isAsyncQuery renamedQuery = true ∧
      view.category renamedQuery = .getQuery := by
  intro view
  have identifier : renamedQuery.isKind .identifier = true := by
    decide +kernel
  have answers :
      view.isSyncQuery renamedQuery = true ∧
        view.isAsyncQuery renamedQuery = true ∧
        view.category renamedQuery = .getQuery := by
    decide +kernel
  exact ⟨identifier, queries_agree_with_categories view identifier, answers⟩

end View

end UsageLint.Usage
