import UsageLint.Proofs.CommentPlaces
import UsageLint.Proofs.LastLoads
import UsageLint.Proofs.RuleSight

namespace UsageLint.Imports

open UsageLint.Syntax
open UsageLint.Usage
open UsageLint.Walk

/-!
# Loads among comments

What a declaration or a call of `require` loads is looked up by field and by
kind, and comments are under no field and of a kind that is not looked for. The
one exception is the argument of `require`, which is found by counting; and a
computed key is read with the comments in it. Where comments are aside, a walk over
the tree with comments takes in the same loads.
-/

/-- What the string says that is all there is in a list. -/
def soleString? (nodes : List Node) : Option String :=
  match nodes with
  | [sole] => sole.stringValue?
  | _ => none

/-- The one string among arguments is the same where no comment is among them. -/
theorem soleString?_commented
    {root : Node}
    (aside : CommentsAside root)
    {nodes others : List Node}
    (together : List.Forall₂ (CounterpartIn root) nodes others) :
    soleString? others = soleString? nodes := by
  cases together with
  | nil => rfl
  | cons first rest =>
      cases rest with
      | nil => exact first.stringValue? aside
      | cons _ _ => rfl

section Reading

variable
  {root node other : Node}
  (aside : CommentsAside root)
  (counterpart : CounterpartIn root node other)

include aside counterpart

namespace LocalBinding

/-- What a name says is the same where its text is. -/
theorem spelled_commented (text : other.text = node.text) :
    spelled other = spelled node := by
  rw [spelled, spelled, counterpart.stringValue? aside, text]

/-- An entry of an import clause binds the same name to the same export. -/
theorem ofImportSpecifier?_commented :
    ofImportSpecifier? other = ofImportSpecifier? node := by
  unfold ofImportSpecifier?
  rw [counterpart.rawKind]
  split
  · next specifier =>
      have names {field : String} (among : field ∈ ["name", "alias"]) :=
        counterpart.name? aside field
          (by simpa only [specifier, nameFields] using among)
      refine map_eq_of_rel (names (by simp)) ?_
      rintro name otherName ⟨sameName, nameText⟩
      have spelledAlike := spelled_commented aside sameName nameText
      rcases rel_cases (names (.tail _ (.head _))) with
        ⟨missing, otherMissing⟩ | ⟨given, otherGiven, found, otherFound, _, text⟩
      · simp only [missing, otherMissing, spelledAlike]
      · simp only [found, otherFound, spelledAlike, text]
  · rfl

/-- A comment between specifiers is no specifier. -/
theorem ofClausePart_commented : ofClausePart other = ofClausePart node := by
  unfold ofClausePart
  rw [counterpart.rawKind]
  split
  · next identifier =>
      rw [counterpart.text_of_rawKind_identifier aside identifier]
  · congr 1
    refine map_eq_of_rel (counterpart.childOfKind? "identifier" (by decide)) ?_
    rintro name otherName ⟨same, identifier⟩
    rw [same.text_of_rawKind_identifier aside identifier]
  · exact counterpart.namedChildren.filterMap_eq
      (fun _ _ same => ofImportSpecifier?_commented aside same)
      (fun _ comment => by simp [ofImportSpecifier?, Node.IsComment.rawKind comment])
  · rfl

omit aside in
/-- A pattern and the same with its default cut off correspond. -/
theorem withoutDefault?_commented :
    Option.Rel (CounterpartIn root) (withoutDefault? node) (withoutDefault? other) := by
  unfold withoutDefault?
  rw [counterpart.rawKind]
  split
  · exact counterpart.field? "left"
  · exact .some counterpart

/-- An entry of a pattern binds the same name to the same export. -/
theorem ofPatternEntry?_commented :
    ofPatternEntry? other = ofPatternEntry? node := by
  unfold ofPatternEntry?
  rw [counterpart.rawKind]
  split
  · next shorthand =>
      have identifier : node.isKind .identifier = true := by
        simp [Node.isKind, Node.kind, shorthand, Kind.ofGrammar]
      rw [counterpart.text_of_identifier aside identifier]
  · next withDefault =>
      have isName : "left" ∈ nameFields node.rawKind := by
        simp [withDefault, nameFields]
      refine map_eq_of_rel (counterpart.name? aside "left" isName) ?_
      rintro left otherLeft ⟨_, text⟩
      rw [text]
  · next pair =>
      have isName : "key" ∈ nameFields node.rawKind := by
        simp [pair, nameFields]
      refine bind_eq_of_rel (counterpart.name? aside "key" isName) ?_
      rintro key otherKey ⟨sameKey, keyText⟩
      have spelledAlike := spelled_commented aside sameKey keyText
      refine bind_eq_of_rel (counterpart.field? "value") ?_
      intro value otherValue sameValue
      refine bind_eq_of_rel (withoutDefault?_commented sameValue) ?_
      intro target otherTarget same
      rw [same.rawKind, spelledAlike]
      split
      · next identifier =>
          rw [same.text_of_rawKind_identifier aside identifier]
      · rfl
  · rfl

/-- A pattern binds the same names to the same exports. -/
theorem ofPattern_commented : ofPattern other = ofPattern node := by
  unfold ofPattern
  rw [counterpart.rawKind]
  split
  · next identifier =>
      rw [counterpart.text_of_rawKind_identifier aside identifier]
  · exact counterpart.namedChildren.filterMap_eq
      (fun _ _ same => ofPatternEntry?_commented aside same)
      (fun _ comment => by simp [ ofPatternEntry?, Node.IsComment.rawKind comment])
  · rfl

end LocalBinding

namespace ModuleLoad

/-- An import declaration names the same module. -/
theorem sourceOf?_commented : sourceOf? other = sourceOf? node := by
  unfold sourceOf?
  rcases rel_cases (counterpart.field? "source") with
    ⟨missing, otherMissing⟩ | ⟨source, otherSource, found, otherFound, same⟩
  · rw [missing, otherMissing, Option.none_or, Option.none_or]
    refine bind_eq_of_rel (counterpart.childOfKind? "string" (by decide)) ?_
    rintro literal otherLiteral ⟨same, _⟩
    exact same.stringValue? aside
  · rw [found, otherFound]
    exact same.stringValue? aside

/-- An import declaration is the same load. -/
theorem ofImport?_commented : ofImport? other = ofImport? node := by
  unfold ofImport?
  rw [counterpart.isKind, sourceOf?_commented aside counterpart]
  split
  · rcases rel_cases (counterpart.childOfKind? "import_require_clause" (by decide)) with
      ⟨missing, otherMissing⟩ | ⟨clause, otherClause, found, otherFound, same, _⟩
    · rcases rel_cases (counterpart.childOfKind? "import_clause" (by decide)) with
        ⟨noClause, otherNoClause⟩ | ⟨clause, otherClause, found, otherFound, same, _⟩
      · simp only [missing, otherMissing, noClause, otherNoClause]
      · have bindings :
            otherClause.namedChildren.flatMap LocalBinding.ofClausePart =
              clause.namedChildren.flatMap LocalBinding.ofClausePart :=
          same.namedChildren.flatMap_eq
            (fun _ _ same => LocalBinding.ofClausePart_commented aside same)
            (fun _ comment => by
              simp [LocalBinding.ofClausePart, Node.IsComment.rawKind comment])
        simp only [missing, otherMissing, found, otherFound, bindings]
    · have bindings :
          (otherClause.childOfKind? "identifier").map
              (fun name => LocalBinding.ofNamespace name.text) =
            (clause.childOfKind? "identifier").map
              (fun name => LocalBinding.ofNamespace name.text) := by
        refine map_eq_of_rel (same.childOfKind? "identifier" (by decide)) ?_
        rintro name otherName ⟨sameName, identifier⟩
        rw [sameName.text_of_rawKind_identifier aside identifier]
      simp only [found, otherFound, bindings, sourceOf?_commented aside same]
  · rfl

/-- Arguments that no comment stands among are counted alike. -/
theorem requiredSpecifier?_commented :
    requiredSpecifier? other = requiredSpecifier? node := by
  have plain := aside.arguments other counterpart.among
  unfold requiredSpecifier?
  rw [counterpart.isKind]
  split
  · rcases rel_cases (counterpart.field? "function") with
      ⟨missing, otherMissing⟩ |
        ⟨callee, otherCallee, found, otherFound, sameCallee⟩
    · rw [missing, otherMissing]
      rfl
    rcases rel_cases (counterpart.field? "arguments") with
      ⟨missing, otherMissing⟩ |
        ⟨list, otherList, isList, otherIsList, sameList⟩
    · simp [found, otherFound, missing, otherMissing]
    by_cases identifier : callee.rawKind = "identifier"
    · have text := sameCallee.text_of_rawKind_identifier aside identifier
      by_cases isRequire : callee.text = Vocabulary.requireName
      · have together :
            List.Forall₂ (CounterpartIn root) list.namedChildren
              otherList.namedChildren :=
          sameList.namedChildren.forall₂
            (plain otherCallee otherFound
              ⟨sameCallee.rawKind.trans identifier, text.trans isRequire⟩ otherList
              otherIsList)
        simp only [found, otherFound, isList, otherIsList, sameCallee.rawKind,
          identifier, text, isRequire, Option.bind_eq_bind, Option.bind_some]
        exact soleString?_commented aside together
      · simp [found, otherFound, isList, otherIsList, sameCallee.rawKind, text, isRequire]
    · simp [found, otherFound, isList, otherIsList, sameCallee.rawKind, identifier]
  · rfl

variable (isRoot : root.parent? = none)

include isRoot

omit aside in
/-- The pattern that a call of `require` is assigned to is found on both sides. -/
theorem assignedPattern?_commented :
    Option.Rel (CounterpartIn root) (assignedPattern? node) (assignedPattern? other) := by
  refine rel_bind (counterpart.parent? isRoot) ?_
  intro parent otherParent same
  rw [same.isKind, counterpart.commented.isFieldOfParent]
  split
  · exact same.field? "name"
  · exact .none

/-- A call of `require` is the same load. -/
theorem ofRequire?_commented : ofRequire? other = ofRequire? node := by
  unfold ofRequire?
  rw [requiredSpecifier?_commented aside counterpart]
  rcases rel_cases (assignedPattern?_commented counterpart isRoot) with
    ⟨missing, otherMissing⟩ | ⟨pattern, otherPattern, found, otherFound, same⟩
  · rw [missing, otherMissing]
  · simp only [found, otherFound, LocalBinding.ofPattern_commented aside same]

end ModuleLoad

end Reading

/-- Whether two nodes show the same load, the one at the counterpart of the other. -/
structure Observation.Counterpart (shown other : Observation) : Prop where
  load : other.load? = shown.load?
  node : shown.node.Commented other.node

namespace Observation

/-- A comment is no load. -/
theorem ofNode?_comment
    {node : Node}
    (comment : node.IsComment) :
    ofNode? node = none := by
  rw [ofNode?, comment.kind]
  split <;> rfl

/--
Nodes that correspond are observed alike: the same load from nodes that correspond, or nothing.
-/
theorem ofNode?_commented
    {root node other : Node}
    (isRoot : root.parent? = none)
    (aside : CommentsAside root)
    (counterpart : CounterpartIn root node other) :
    Option.Rel Counterpart (ofNode? node) (ofNode? other) := by
  have commented := counterpart.commented
  unfold ofNode?
  rw [commented.named, commented.kind]
  split
  · split
    · exact .some ⟨ModuleLoad.ofImport?_commented aside counterpart, commented⟩
    · exact .some
        ⟨ModuleLoad.ofRequire?_commented aside counterpart isRoot, commented⟩
    · exact .none
  · exact .none

end Observation

/-- Records of the same name whose nodes are counterparts. -/
structure ImportRecord.Counterpart (record other : ImportRecord) : Prop where
  node : record.node.Commented other.node
  name : other.name = record.name

namespace Tracker

/-- Trackers that say the same of all names and have the same loads in mind. -/
structure Counterpart (tracker other : Tracker) : Prop where
  names : SameNames tracker other
  custom :
    Option.Rel ImportRecord.Counterpart tracker.customModule other.customModule
  library :
    Option.Rel ImportRecord.Counterpart tracker.testingLibrary other.testingLibrary
  framework : other.detectedFramework = tracker.detectedFramework

/-- Trackers that have seen nothing correspond. -/
theorem Counterpart.empty : Counterpart .empty .empty :=
  ⟨⟨rfl, rfl, rfl⟩, .none, .none, rfl⟩

/-- Trackers that say the same of all names do so after more bindings. -/
theorem SameNames.foldl_bindSourced
    {first second : Tracker}
    (same : SameNames first second)
    (settings : Settings)
    (run : List SourcedBinding) :
    SameNames (run.foldl (bindSourced settings) first)
      (run.foldl (bindSourced settings) second) := by
  induction run generalizing first second with
  | nil =>
      exact same
  | cons sourced rest inductionHypothesis =>
      apply inductionHypothesis
      unfold bindSourced bindName
      rw [same.family, same.foreign, same.userEvent]
      split <;> exact ⟨rfl, rfl, rfl⟩

/-- What is said of names after a load is what its bindings leave behind. -/
theorem sameNames_record
    (settings : Settings)
    (node : Node)
    (load : ModuleLoad)
    (tracker : Tracker) :
    SameNames (load.sourcedBindings.foldl (bindSourced settings) tracker)
      (tracker.record settings node load) := by
  have library :=
    sameNames_noteTestingLibrary node load.specifier (.of load.specifier settings)
      (load.sourcedBindings.foldl (bindSourced settings) tracker)
  have custom :=
    sameNames_noteCustomModule settings node load
      (noteTestingLibrary node load.specifier (.of load.specifier settings)
        (load.sourcedBindings.foldl (bindSourced settings) tracker))
  rw [record_eq_notes]
  exact ⟨custom.family.trans library.family, custom.foreign.trans library.foreign,
    custom.userEvent.trans library.userEvent⟩

/-- The same load recorded for two nodes leaves trackers of the same names. -/
theorem SameNames.record
    {first second : Tracker}
    (same : SameNames first second)
    (settings : Settings)
    (node other : Node)
    (load : ModuleLoad) :
    SameNames (first.record settings node load)
      (second.record settings other load) := by
  have bound := same.foldl_bindSourced settings load.sourcedBindings
  have left := sameNames_record settings node load first
  have right := sameNames_record settings other load second
  exact ⟨by rw [right.family, bound.family, left.family],
    by rw [right.foreign, bound.foreign, left.foreign],
    by rw [right.userEvent, bound.userEvent, left.userEvent]⟩

section Run

variable
  {settings : Settings}
  {tracker other : Tracker}

/-- Trackers stay counterparts when both record a load, each from its own node. -/
theorem Counterpart.record
    (counterparts : tracker.Counterpart other)
    {node otherNode : Node}
    (commented : node.Commented otherNode)
    (load : ModuleLoad) :
    (tracker.record settings node load).Counterpart
      (other.record settings otherNode load) where
  names := counterparts.names.record settings node otherNode load
  custom := by
    rw [customModule_record, customModule_record]
    split
    · exact .some ⟨commented, rfl⟩
    · exact counterparts.custom
  library := by
    rw [testingLibrary_record, testingLibrary_record]
    split
    · exact .some ⟨commented, rfl⟩
    · exact counterparts.library
  framework := by
    rw [detectedFramework_record, detectedFramework_record, counterparts.framework]

/-- Trackers stay counterparts when each observes its own side. -/
theorem Counterpart.observe
    (counterparts : tracker.Counterpart other)
    {shown otherShown : Observation}
    (same : shown.Counterpart otherShown) :
    (tracker.observe settings shown).Counterpart
      (other.observe settings otherShown) := by
  rw [observe_eq, observe_eq, same.load]
  cases shown.load? with
  | none => exact counterparts
  | some load => exact counterparts.record same.node load

/-- Comments show nothing to a tracker, so they may stand anywhere in a run. -/
theorem Counterpart.run
    {root : Node}
    (isRoot : root.parent? = none)
    (aside : CommentsAside root)
    {nodes otherNodes : List Node}
    (counterparts : tracker.Counterpart other)
    (commented : Interspersed (CounterpartIn root) Node.IsComment nodes otherNodes) :
    ((nodes.filterMap Observation.ofNode?).foldl (Tracker.observe settings)
        tracker).Counterpart
      ((otherNodes.filterMap Observation.ofNode?).foldl (Tracker.observe settings)
        other) := by
  induction commented generalizing tracker other with
  | nil =>
      exact counterparts
  | keep same _ inductionHypothesis =>
      rcases rel_cases (Observation.ofNode?_commented isRoot aside same) with
        ⟨missing, otherMissing⟩ | ⟨shown, otherShown, found, otherFound, sameShown⟩
      · rw [List.filterMap_cons_none missing, List.filterMap_cons_none otherMissing]
        exact inductionHypothesis counterparts
      · rw [List.filterMap_cons_some found, List.filterMap_cons_some otherFound]
        exact inductionHypothesis (counterparts.observe sameShown)
  | extra isComment _ inductionHypothesis =>
      rw [List.filterMap_cons_none (Observation.ofNode?_comment isComment)]
      exact inductionHypothesis counterparts

end Run

end Tracker

end UsageLint.Imports

namespace UsageLint

open UsageLint.Syntax
open UsageLint.Imports
open UsageLint.Usage
open UsageLint.Walk

/-- The tracking listeners take in nodes as they come, and anonymous ones never. -/
theorem foldl_visitNode_tracking
    (settings : Settings)
    (visited nodes : List Node) :
    nodes.foldl tracking.visitNode (viewAfter settings visited) =
      viewAfter settings (visited ++ nodes) := by
  induction nodes generalizing visited with
  | nil =>
      simp
  | cons node rest inductionHypothesis =>
      have step :
          tracking.visitNode (viewAfter settings visited) node =
            viewAfter settings (visited ++ [node]) := by
        unfold Listeners.visitNode
        split
        · next named =>
            exact callWhere_tracking settings visited named
        · next anonymous =>
            rw [viewAfter, viewAfter, importsOf_concat, Observation.ofNode?,
              if_neg anonymous]
      rw [List.foldl_cons, step, inductionHypothesis]
      simp

/-- What the tracking listeners alone come to know of a file. -/
theorem walk_tracking (settings : Settings) (tree : SourceTree) :
    walk tracking tree (.initial settings) =
      (viewAfter settings tree.root.preorder).finish := by
  rw [Listeners.walk_eq_foldl, callWhere_tracking_exit]
  exact congrArg View.finish
    (foldl_visitNode_tracking settings [] tree.root.preorder)

end UsageLint
