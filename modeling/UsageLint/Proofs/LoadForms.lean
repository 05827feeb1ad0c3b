import UsageLint.Proofs.CommentedLoads
import UsageLint.Proofs.LiveRoot
import UsageLint.Proofs.Sketches

namespace UsageLint.Imports

open UsageLint.Syntax
open UsageLint.Usage

/-!
# Two ways to write one load

A module is loaded by an import declaration or by a call of `require`, and for
each thing that a declaration can bind there is a pattern that binds it. Here
both are written down as sketches, entry by entry. Whatever fits one of them is
read as the same load, and a tracker takes in a load in the same way wherever it
comes from, so two forms of one load differ in nothing but the node in mind.
-/

/-- The quotes around a string. -/
inductive Quote where
  | single
  | double
deriving Repr, DecidableEq

namespace Quote

/-- The character at both ends of the string. -/
def character : Quote → Char
  | single => '\''
  | double => '"'

/-- A string literal of these contents. -/
def around (quote : Quote) (contents : String) : String :=
  .ofList (quote.character :: (contents.toList ++ [quote.character]))

/-- A string literal as it stands in a source. -/
def literal (quote : Quote) (field : Option String) (contents : String) : Sketch :=
  .leaf "string" field (quote.around contents)

end Quote

/-- How a name that a module exports is written. -/
inductive Spelling where
  | plain
  | quoted (quote : Quote)
deriving Repr, DecidableEq

namespace Spelling

/-- The kind of a name that is of a given kind when it is plain. -/
def kind (spelling : Spelling) (plainKind : String) : String :=
  match spelling with
  | plain => plainKind
  | quoted _ => "string"

/-- The text of a name. -/
def text (spelling : Spelling) (name : String) : String :=
  match spelling with
  | plain => name
  | quoted quote => quote.around name

/-- An exported name as it stands in a source. -/
def sketch (spelling : Spelling) (plainKind field name : String) : Sketch :=
  .leaf (spelling.kind plainKind) (some field) (spelling.text name)

end Spelling

/-- An exported name and the local name for it, an identifier. -/
structure NamedEntry where
  exported : String
  localName : String
deriving Repr, DecidableEq

/-- The binding that an entry makes. -/
def NamedEntry.binding (entry : NamedEntry) : LocalBinding :=
  .named entry.exported entry.localName

/-- The specifiers that an import declaration may have for a name. -/
inductive NamedEntry.HasSpecifier : NamedEntry → Sketch → Prop where
  /-- Written `name`. -/
  | plain (spelling : Spelling) (name : String) :
      HasSpecifier ⟨name, name⟩
        (.branch "import_specifier" none [spelling.sketch "identifier" "name" name])
  /-- Written `exported as localName`. -/
  | renamed (spelling : Spelling) (exported localName : String) :
      HasSpecifier ⟨exported, localName⟩
        (.branch "import_specifier" none
          [spelling.sketch "identifier" "name" exported,
            .leaf "identifier" (some "alias") localName])

/-- The patterns that a name may have among those of an object pattern. -/
inductive NamedEntry.HasPattern : NamedEntry → Sketch → Prop where
  /-- Written `name`. -/
  | plain (name : String) :
      HasPattern ⟨name, name⟩
        (.leaf "shorthand_property_identifier_pattern" none name)
  /-- Written `name = fallback`. -/
  | plainOr (name : String) (fallback : Sketch) :
      HasPattern ⟨name, name⟩
        (.branch "object_assignment_pattern" none
          [.leaf "shorthand_property_identifier_pattern" (some "left") name, fallback])
  /-- Written `exported: localName`. -/
  | renamed (spelling : Spelling) (exported localName : String) :
      HasPattern ⟨exported, localName⟩
        (.branch "pair_pattern" none
          [spelling.sketch "property_identifier" "key" exported,
            .leaf "identifier" (some "value") localName])
  /-- Written `exported: localName = fallback`. -/
  | renamedOr (spelling : Spelling) (exported localName : String) (fallback : Sketch) :
      HasPattern ⟨exported, localName⟩
        (.branch "pair_pattern" none
          [spelling.sketch "property_identifier" "key" exported,
            .branch "assignment_pattern" (some "value")
              [.leaf "identifier" (some "left") localName, fallback]])

/-- What of a module a load binds. -/
inductive BoundPart where
  | names (entries : List NamedEntry)
  | wholeModule (localName : String)
  | nothing
deriving Repr, DecidableEq

/-- The bindings that a load of this part makes. -/
def BoundPart.bindings : BoundPart → List LocalBinding
  | names entries => entries.map NamedEntry.binding
  | wholeModule localName => [.ofNamespace localName]
  | nothing => []

/-- A call of `require` with the literal of a specifier. -/
def requireCall (quote : Quote) (specifier : String) (field : Option String) : Sketch :=
  .branch "call_expression" field
    [.leaf "identifier" (some "function") "require",
      .branch "arguments" (some "arguments") [quote.literal none specifier]]

/-- A declarator of what a call of `require` gives. -/
def requireDeclarator (quote : Quote) (specifier : String) (pattern : Sketch) : Sketch :=
  .branch "variable_declarator" none
    [pattern, requireCall quote specifier (some "value")]

/--
The forms in which a source may load a part of a module: four of declarations,
and three of calls, of which two are found as the value of a declarator.
-/
inductive Observation.Loads (specifier : String) : BoundPart → Observation → Prop where
  /-- Written `import { name, exported as localName } from 'specifier'`. -/
  | importNames
      {entries : List NamedEntry}
      {specifiers : List Sketch}
      (quote : Quote)
      {node : Node}
      (written : List.Forall₂ NamedEntry.HasSpecifier entries specifiers)
      (fits :
        (Sketch.branch "import_statement" none
          [.branch "import_clause" none [.branch "named_imports" none specifiers],
            quote.literal (some "source") specifier]).Fits node) :
      Loads specifier (.names entries) (.declaration node)
  /-- Written `import * as localName from 'specifier'`. -/
  | importModule
      {localName : String}
      (quote : Quote)
      {node : Node}
      (fits :
        (Sketch.branch "import_statement" none
          [.branch "import_clause" none
              [.branch "namespace_import" none [.leaf "identifier" none localName]],
            quote.literal (some "source") specifier]).Fits node) :
      Loads specifier (.wholeModule localName) (.declaration node)
  /-- Written `import localName = require('specifier')`. -/
  | importRequire
      {localName : String}
      (quote : Quote)
      {node : Node}
      (fits :
        (Sketch.branch "import_statement" none
          [.branch "import_require_clause" none
            [.leaf "identifier" none localName,
              quote.literal (some "source") specifier]]).Fits node) :
      Loads specifier (.wholeModule localName) (.declaration node)
  /-- Written `import 'specifier'`. -/
  | importNothing
      (quote : Quote)
      {node : Node}
      (fits :
        (Sketch.branch "import_statement" none
          [quote.literal (some "source") specifier]).Fits node) :
      Loads specifier .nothing (.declaration node)
  /-- Written `const { name, exported: localName } = require('specifier')`. -/
  | requireNames
      {entries : List NamedEntry}
      {patterns : List Sketch}
      (quote : Quote)
      {declarator call : Node}
      (written : List.Forall₂ NamedEntry.HasPattern entries patterns)
      (fits :
        (requireDeclarator quote specifier
          (.branch "object_pattern" (some "name") patterns)).Fits declarator)
      (value : declarator.field? "value" = some call) :
      Loads specifier (.names entries) (.call call)
  /-- Written `const localName = require('specifier')`. -/
  | requireModule
      {localName : String}
      (quote : Quote)
      {declarator call : Node}
      (fits :
        (requireDeclarator quote specifier
          (.leaf "identifier" (some "name") localName)).Fits declarator)
      (value : declarator.field? "value" = some call) :
      Loads specifier (.wholeModule localName) (.call call)
  /-- Written `require('specifier')`. -/
  | requireNothing
      (quote : Quote)
      {call : Node}
      (fits : (requireCall quote specifier none).Fits call) :
      Loads specifier .nothing (.call call)

/-! ## Names and literals -/

theorem unquote?_around (quote : Quote) (contents : String) :
    Node.unquote? (quote.around contents).toList = some contents.toList := by
  cases quote <;> simp [Quote.around, Quote.character, Node.unquote?, Node.isQuote]

/-- A literal says what is between its quotes. -/
theorem stringValue?_of_literal
    {quote : Quote}
    {field : Option String}
    {contents : String}
    {node : Node}
    (fits : (quote.literal field contents).Fits node) :
    node.stringValue? = some contents := by
  have isLiteral : node.isKind .stringLiteral = true := fits.isKind .stringLiteral
  rw [Node.stringValue?, if_pos isLiteral, fits.text, unquote?_around]
  simp

/-- An exported name is read alike however it is spelled. -/
theorem spelled_of_fits
    {spelling : Spelling}
    {plainKind field name : String}
    {node : Node}
    (notLiteral : Kind.ofGrammar plainKind ≠ .stringLiteral)
    (fits : (spelling.sketch plainKind field name).Fits node) :
    LocalBinding.spelled node = name := by
  cases spelling with
  | plain =>
      have noLiteral : node.isKind .stringLiteral = false := by
        rw [fits.isKind]
        exact beq_false_of_ne notLiteral
      simp [LocalBinding.spelled, Node.stringValue?, noLiteral, fits.text, Spelling.text]
  | quoted quote =>
      rw [LocalBinding.spelled, stringValue?_of_literal fits]
      rfl

/-! ## Entries -/

section Entries

variable
  {entry : NamedEntry}
  {sketch : Sketch}
  {node : Node}

theorem ofImportSpecifier?_of_fits
    (written : entry.HasSpecifier sketch)
    (fits : sketch.Fits node) :
    LocalBinding.ofImportSpecifier? node = some entry.binding := by
  cases written with
  | plain spelling name =>
      obtain ⟨nameNode, named, nameFits⟩ := exists_of_rel (fits.field? "name") rfl
      have noAlias := eq_none_of_rel (fits.field? "alias") rfl
      have spelled := spelled_of_fits (by decide) nameFits
      simp [LocalBinding.ofImportSpecifier?, fits.rawKind, named, noAlias,
        spelled, NamedEntry.binding]
  | renamed spelling exported localName =>
      obtain ⟨nameNode, named, nameFits⟩ := exists_of_rel (fits.field? "name") rfl
      obtain ⟨aliasNode, given, aliasFits⟩ := exists_of_rel (fits.field? "alias") rfl
      have spelled := spelled_of_fits (by decide) nameFits
      simp [LocalBinding.ofImportSpecifier?, fits.rawKind, named, given,
        spelled, aliasFits.text, NamedEntry.binding]

theorem ofPatternEntry?_of_fits
    (written : entry.HasPattern sketch)
    (fits : sketch.Fits node) :
    LocalBinding.ofPatternEntry? node = some entry.binding := by
  cases written with
  | plain name =>
      simp [LocalBinding.ofPatternEntry?, fits.rawKind, fits.text,
        NamedEntry.binding]
  | plainOr name fallback =>
      obtain ⟨left, held, leftFits⟩ := exists_of_rel (fits.field? "left") rfl
      simp [LocalBinding.ofPatternEntry?, fits.rawKind, held, leftFits.text,
        NamedEntry.binding]
  | renamed spelling exported localName =>
      obtain ⟨key, keyHeld, keyFits⟩ := exists_of_rel (fits.field? "key") rfl
      obtain ⟨value, valueHeld, valueFits⟩ := exists_of_rel (fits.field? "value") rfl
      have spelled := spelled_of_fits (by decide) keyFits
      simp [LocalBinding.ofPatternEntry?, fits.rawKind, keyHeld, valueHeld,
        LocalBinding.withoutDefault?, valueFits.rawKind, spelled, valueFits.text,
        NamedEntry.binding]
  | renamedOr spelling exported localName fallback =>
      obtain ⟨key, keyHeld, keyFits⟩ := exists_of_rel (fits.field? "key") rfl
      obtain ⟨value, valueHeld, valueFits⟩ := exists_of_rel (fits.field? "value") rfl
      obtain ⟨left, leftHeld, leftFits⟩ := exists_of_rel (valueFits.field? "left") rfl
      have spelled := spelled_of_fits (by decide) keyFits
      simp [LocalBinding.ofPatternEntry?, fits.rawKind, keyHeld, valueHeld,
        LocalBinding.withoutDefault?, valueFits.rawKind, leftHeld, leftFits.rawKind,
        spelled, leftFits.text, NamedEntry.binding]

end Entries

/-- Entries written one by one are read one by one. -/
theorem filterMap_eq_of_written
    {Written : NamedEntry → Sketch → Prop}
    {read : Node → Option LocalBinding}
    (reads :
      ∀ entry sketch node,
        Written entry sketch → sketch.Fits node → read node = some entry.binding)
    {entries : List NamedEntry}
    {sketches : List Sketch}
    {nodes : List Node}
    (written : List.Forall₂ Written entries sketches)
    (fit : List.Forall₂ Sketch.Fits sketches nodes) :
    nodes.filterMap read = entries.map NamedEntry.binding := by
  induction written generalizing nodes with
  | nil =>
      cases fit
      rfl
  | cons first _ inductionHypothesis =>
      cases fit with
      | cons firstFits restFit =>
          rw [List.filterMap_cons_some (reads _ _ _ first firstFits),
            inductionHypothesis restFit, List.map_cons]

/-! ## Loads -/

section Reading

variable
  {quote : Quote}
  {specifier : String}

/-- A specifier is read wherever its literal is the source. -/
theorem sourceOf?_of_fits
    {kind : String}
    {field : Option String}
    {parts : List Sketch}
    {node : Node}
    (fits : (Sketch.branch kind field parts).Fits node)
    (shown :
      parts.find? (·.field == some "source") =
        some (quote.literal (some "source") specifier)) :
    ModuleLoad.sourceOf? node = some specifier := by
  obtain ⟨source, held, sourceFits⟩ := exists_of_rel (fits.field? "source") shown
  simp [ModuleLoad.sourceOf?, held, stringValue?_of_literal sourceFits]

/-- A declaration without a clause of its own for `require` is read by its source. -/
theorem ofImport?_of_fits
    {parts : List Sketch}
    {node : Node}
    {bindings : List LocalBinding}
    (fits : (Sketch.branch "import_statement" none parts).Fits node)
    (noRequire : parts.find? (·.kind == "import_require_clause") = none)
    (shown :
      parts.find? (·.field == some "source") =
        some (quote.literal (some "source") specifier))
    (binds :
      (node.childOfKind? "import_clause").elim []
          (·.namedChildren.flatMap LocalBinding.ofClausePart) =
        bindings) :
    ModuleLoad.ofImport? node = some ⟨specifier, bindings⟩ := by
  have isImport : node.isKind .importDeclaration = true := fits.isKind .importDeclaration
  have noClause := eq_none_of_rel (fits.childOfKind? "import_require_clause") noRequire
  subst binds
  rw [ModuleLoad.ofImport?, if_pos isImport, noClause]
  simp only [sourceOf?_of_fits fits shown, Option.map_some]
  cases node.childOfKind? "import_clause" <;> rfl

/-- A call of `require` is read by its literal. -/
theorem requiredSpecifier?_of_fits
    {field : Option String}
    {call : Node}
    (fits : (requireCall quote specifier field).Fits call) :
    ModuleLoad.requiredSpecifier? call = some specifier := by
  have isCall : call.isKind .callExpression = true := fits.isKind .callExpression
  obtain ⟨callee, calleeHeld, calleeFits⟩ := exists_of_rel (fits.field? "function") rfl
  obtain ⟨arguments, held, argumentsFit⟩ := exists_of_rel (fits.field? "arguments") rfl
  obtain ⟨literal, sole, literalFits⟩ := argumentsFit.exists_namedChildren_eq
  simp [ModuleLoad.requiredSpecifier?, isCall, calleeHeld, held, calleeFits.rawKind,
    calleeFits.text, Vocabulary.requireName, sole,
    stringValue?_of_literal literalFits]

/-- What a call of `require` is declared as is read by the pattern. -/
theorem ofRequire?_of_declarator
    {pattern : Sketch}
    {declarator call : Node}
    {bindings : List LocalBinding}
    (isName : pattern.field = some "name")
    (fits : (requireDeclarator quote specifier pattern).Fits declarator)
    (value : declarator.field? "value" = some call)
    (binds : ∀ target, pattern.Fits target → LocalBinding.ofPattern target = bindings) :
    ModuleLoad.ofRequire? call = some ⟨specifier, bindings⟩ := by
  have isDeclarator : declarator.isKind .variableDeclarator = true :=
    fits.isKind .variableDeclarator
  obtain ⟨target, named, targetFits⟩ :
      ∃ target, declarator.field? "name" = some target ∧ pattern.Fits target :=
    exists_of_rel (fits.field? "name") (by simp [isName])
  have isValue : (requireCall quote specifier (some "value")).field = some "value" := rfl
  obtain ⟨child, held, callFits⟩ :
      ∃ child,
        declarator.field? "value" = some child ∧
          (requireCall quote specifier (some "value")).Fits child :=
    exists_of_rel (fits.field? "value") (by simp [isName, isValue])
  cases value.symm.trans held
  have assigned : ModuleLoad.assignedPattern? call = some target := by
    simp [ModuleLoad.assignedPattern?, Node.parent?_of_field? value, isDeclarator,
      Node.isFieldOfParent_of_field? value, named]
  simp [ModuleLoad.ofRequire?, requiredSpecifier?_of_fits callFits, assigned,
    binds target targetFits]

/-- A call that is held under no field is the value of no declarator. -/
theorem assignedPattern?_of_no_field
    {call : Node}
    (free : call.label.field = none) :
    ModuleLoad.assignedPattern? call = none := by
  have notValue : call.isFieldOfParent "value" = false := by
    rw [Bool.eq_false_iff]
    intro held
    have field := Node.label_field_of_isFieldOfParent held
    cases free.symm.trans field
  simp [ModuleLoad.assignedPattern?, notValue]

end Reading

/-- Whatever form it has, a load is read as what it loads and binds. -/
theorem Observation.Loads.load?
    {specifier : String}
    {part : BoundPart}
    {observation : Observation}
    (loads : observation.Loads specifier part) :
    observation.load? = some ⟨specifier, part.bindings⟩ := by
  cases loads with
  | importNames quote written fits =>
      obtain ⟨clause, clauseFound, clauseFits⟩ :=
        exists_of_rel (fits.childOfKind? "import_clause") rfl
      obtain ⟨names, sole, namesFit⟩ := clauseFits.exists_namedChildren_eq
      apply ofImport?_of_fits fits rfl rfl
      simp only [clauseFound, Option.elim_some, sole, List.flatMap_singleton]
      rw [LocalBinding.ofClausePart, namesFit.rawKind]
      exact filterMap_eq_of_written
        (fun _ _ _ written fits => ofImportSpecifier?_of_fits written fits)
        written namesFit.namedChildren
  | importModule quote fits =>
      obtain ⟨clause, clauseFound, clauseFits⟩ :=
        exists_of_rel (fits.childOfKind? "import_clause") rfl
      obtain ⟨namespaceImport, sole, namespaceFits⟩ := clauseFits.exists_namedChildren_eq
      obtain ⟨name, nameFound, nameFits⟩ :=
        exists_of_rel (namespaceFits.childOfKind? "identifier") rfl
      apply ofImport?_of_fits fits rfl rfl
      simp [clauseFound, sole, LocalBinding.ofClausePart, namespaceFits.rawKind,
        nameFound, nameFits.text, BoundPart.bindings]
  | importRequire quote fits =>
      have isImport : Node.isKind _ .importDeclaration = true :=
        fits.isKind .importDeclaration
      obtain ⟨clause, clauseFound, clauseFits⟩ :=
        exists_of_rel (fits.childOfKind? "import_require_clause") rfl
      obtain ⟨name, nameFound, nameFits⟩ :=
        exists_of_rel (clauseFits.childOfKind? "identifier") rfl
      simp [Observation.load?, ModuleLoad.ofImport?, isImport, clauseFound,
        sourceOf?_of_fits clauseFits rfl, nameFound, nameFits.text, BoundPart.bindings]
  | importNothing quote fits =>
      have noClause := eq_none_of_rel (fits.childOfKind? "import_clause") rfl
      apply ofImport?_of_fits fits rfl rfl
      rw [noClause]
      rfl
  | requireNames quote written fits value =>
      apply ofRequire?_of_declarator rfl fits value
      intro target targetFits
      rw [LocalBinding.ofPattern, targetFits.rawKind]
      exact filterMap_eq_of_written
        (fun _ _ _ written fits => ofPatternEntry?_of_fits written fits)
        written targetFits.namedChildren
  | requireModule quote fits value =>
      apply ofRequire?_of_declarator rfl fits value
      intro target targetFits
      simp [LocalBinding.ofPattern, targetFits.rawKind, targetFits.text,
        BoundPart.bindings]
  | requireNothing quote fits =>
      have unassigned := assignedPattern?_of_no_field fits.field
      simp [Observation.load?, ModuleLoad.ofRequire?, requiredSpecifier?_of_fits fits,
        unassigned, BoundPart.bindings]

/-! ## Trackers -/

namespace Tracker

/-- Trackers that differ in nothing but the nodes of the loads in mind. -/
structure SameButNodes (first second : Tracker) : Prop where
  names : SameNames first second
  framework : second.detectedFramework = first.detectedFramework
  custom :
    second.customModule.map ImportRecord.name = first.customModule.map ImportRecord.name
  library :
    second.testingLibrary.map ImportRecord.name =
      first.testingLibrary.map ImportRecord.name

theorem SameButNodes.refl (tracker : Tracker) : SameButNodes tracker tracker :=
  ⟨⟨rfl, rfl, rfl⟩, rfl, rfl, rfl⟩

/-- Where a load comes from makes no difference but to the node in mind. -/
theorem SameButNodes.record
    {first second : Tracker}
    (same : SameButNodes first second)
    (settings : Settings)
    (node other : Node)
    (load : ModuleLoad) :
    SameButNodes (first.record settings node load)
      (second.record settings other load) where
  names := same.names.record settings node other load
  framework := by
    rw [detectedFramework_record, detectedFramework_record, same.framework]
  custom := by
    rw [customModule_record, customModule_record]
    split
    · rfl
    · exact same.custom
  library := by
    rw [testingLibrary_record, testingLibrary_record]
    split
    · rfl
    · exact same.library

end Tracker

section Observing

variable
  {specifier : String}
  {part : BoundPart}
  {shown other : Observation}

theorem Observation.Loads.observe_eq_record
    (loads : shown.Loads specifier part)
    (settings : Settings)
    (tracker : Tracker) :
    tracker.observe settings shown =
      tracker.record settings shown.node ⟨specifier, part.bindings⟩ := by
  rw [Tracker.observe_eq, loads.load?]

/-- Two forms of one load leave alike trackers alike. -/
theorem Tracker.SameButNodes.observe
    {first second : Tracker}
    (same : SameButNodes first second)
    (settings : Settings)
    (loads : shown.Loads specifier part)
    (otherLoads : other.Loads specifier part) :
    SameButNodes (first.observe settings shown) (second.observe settings other) := by
  rw [loads.observe_eq_record, otherLoads.observe_eq_record]
  exact same.record settings shown.node other.node _

end Observing

/-- Two files that load the same, each in forms of its own, leave the same behind. -/
theorem Tracker.sameButNodes_after
    (settings : Settings)
    {observations others : List Observation}
    (together :
      List.Forall₂
        (fun shown other =>
          ∃ specifier part, shown.Loads specifier part ∧ other.Loads specifier part)
        observations others) :
    SameButNodes (after settings observations) (after settings others) := by
  have fromAlike
      {first second : Tracker}
      (same : SameButNodes first second) :
      SameButNodes (observations.foldl (observe settings) first)
        (others.foldl (observe settings) second) := by
    induction together generalizing first second with
    | nil =>
        exact same
    | cons forms _ inductionHypothesis =>
        obtain ⟨_, _, loads, otherLoads⟩ := forms
        exact inductionHypothesis (same.observe settings loads otherLoads)
  exact fromAlike (.refl .empty)

/--
All forms in which a source may load the same part of a module, import
declarations and calls of `require`, are taken in as that load. They leave the
same names, the same framework, and records of the same names behind.
-/
theorem Tracker.forms_of_one_load_are_tracked_alike
    (settings : Settings)
    (tracker : Tracker)
    {specifier : String}
    {part : BoundPart}
    {shown other : Observation}
    (loads : shown.Loads specifier part)
    (otherLoads : other.Loads specifier part) :
    tracker.observe settings shown =
        tracker.record settings shown.node ⟨specifier, part.bindings⟩ ∧
      tracker.observe settings other =
        tracker.record settings other.node ⟨specifier, part.bindings⟩ ∧
      SameButNodes (tracker.observe settings shown) (tracker.observe settings other) :=
  ⟨loads.observe_eq_record settings tracker,
    otherLoads.observe_eq_record settings tracker,
    (SameButNodes.refl tracker).observe settings loads otherLoads⟩

/-- A punctuation mark or a keyword. -/
def tokenTree (text : String) (start stop : Nat) : Tree :=
  .node
    { kind := text, field := none, start, stop
      named := false, isError := false, isMissing := false, hasError := false } []

/-- A declaration that imports two names. -/
def importedNames : Node :=
  .root
    (.ofString "import \x7b render, 'screen' as s \x7d from '@testing-library/react'")
    (.node (View.namedLabel "import_statement" none 0 62)
      [tokenTree "import" 0 6,
        .node (View.namedLabel "import_clause" none 7 32)
          [.node (View.namedLabel "named_imports" none 7 32)
            [tokenTree "\x7b" 7 8,
              .node (View.namedLabel "import_specifier" none 9 15)
                [.node (View.namedLabel "identifier" (some "name") 9 15) []],
              tokenTree "," 15 16,
              .node (View.namedLabel "import_specifier" none 17 30)
                [.node (View.namedLabel "string" (some "name") 17 25) [],
                  tokenTree "as" 26 28,
                  .node (View.namedLabel "identifier" (some "alias") 29 30) []],
              tokenTree "\x7d" 31 32]],
        tokenTree "from" 33 37,
        .node (View.namedLabel "string" (some "source") 38 62) []])

/-- A declarator that takes the same two names from what is required. -/
def requiredNames : Node :=
  .root
    (.ofString
      "const \x7b render, 'screen': s = x \x7d = require('@testing-library/react')")
    (.node (View.namedLabel "variable_declarator" none 6 69)
      [.node (View.namedLabel "object_pattern" (some "name") 6 33)
          [tokenTree "\x7b" 6 7,
            .node (View.namedLabel "shorthand_property_identifier_pattern" none 8 14) [],
            tokenTree "," 14 15,
            .node (View.namedLabel "pair_pattern" none 16 31)
              [.node (View.namedLabel "string" (some "key") 16 24) [],
                tokenTree ":" 24 25,
                .node (View.namedLabel "assignment_pattern" (some "value") 26 31)
                  [.node (View.namedLabel "identifier" (some "left") 26 27) [],
                    tokenTree "=" 28 29,
                    .node (View.namedLabel "identifier" (some "right") 30 31) []]],
            tokenTree "\x7d" 32 33],
        tokenTree "=" 34 35,
        .node (View.namedLabel "call_expression" (some "value") 36 69)
          [.node (View.namedLabel "identifier" (some "function") 36 43) [],
            .node (View.namedLabel "arguments" (some "arguments") 43 69)
              [tokenTree "(" 43 44,
                .node (View.namedLabel "string" none 44 68) [],
                tokenTree ")" 68 69]]])

/-- Two names leave the same behind, whether they are imported or required. -/
theorem Tracker.two_names_are_tracked_alike :
    ∃ call,
      requiredNames.field? "value" = some call ∧
        Observation.Loads "@testing-library/react"
          (.names [⟨"render", "render"⟩, ⟨"screen", "s"⟩]) (.declaration importedNames) ∧
        Observation.Loads "@testing-library/react"
          (.names [⟨"render", "render"⟩, ⟨"screen", "s"⟩]) (.call call) ∧
        SameButNodes (Tracker.empty.observeImport .default importedNames)
          (Tracker.empty.observeRequire .default call) := by
  have imported :
      Observation.Loads "@testing-library/react"
        (.names [⟨"render", "render"⟩, ⟨"screen", "s"⟩]) (.declaration importedNames) :=
    .importNames .single
      (.cons (.plain .plain "render")
        (.cons (.renamed (.quoted .single) "screen" "s") .nil))
      (by decide +kernel)
  obtain ⟨call, value⟩ : ∃ call, requiredNames.field? "value" = some call := ⟨_, rfl⟩
  have required :
      Observation.Loads "@testing-library/react"
        (.names [⟨"render", "render"⟩, ⟨"screen", "s"⟩]) (.call call) :=
    .requireNames .single
      (.cons (.plain "render")
        (.cons
          (.renamedOr (.quoted .single) "screen" "s" (.leaf "identifier" (some "right") "x"))
          .nil))
      (by decide +kernel) value
  have alike :=
    Tracker.forms_of_one_load_are_tracked_alike .default .empty imported required
  exact ⟨call, value, imported, required, alike.2.2⟩

end UsageLint.Imports
