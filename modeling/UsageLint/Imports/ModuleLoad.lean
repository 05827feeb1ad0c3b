import UsageLint.Syntax.Node
import UsageLint.Vocabulary

namespace UsageLint.Imports

open UsageLint.Syntax

/-!
# Module loads

A file loads a module by an import declaration or by a call of `require`.
Either way the load has a specifier and binds local names, each to a name that
the module exports, to its default export, or to the module as a whole. This
module reads both forms off a tree into one `ModuleLoad`.
-/

/-- What of a module a local name is bound to. -/
inductive BindingKind where
  | named
  | default
  | wholeModule
deriving Repr, DecidableEq

/-- The name under which a binding kind is shown. -/
def BindingKind.label : BindingKind → String
  | named => "Named"
  | default => "Default"
  | wholeModule => "Namespace"

/-- One local name that a load binds. -/
structure LocalBinding where
  localName : String
  /-- The exported name; `default` and `*` for the other kinds. -/
  exported : String
  kind : BindingKind
deriving Repr, DecidableEq

/-- A module that is loaded, and the names bound by that. -/
structure ModuleLoad where
  specifier : String
  bindings : List LocalBinding
deriving Repr, DecidableEq

namespace LocalBinding

/-- A local name for an exported one. -/
def named (exported localName : String) : LocalBinding :=
  ⟨localName, exported, .named⟩

/-- A local name for the default export. -/
def ofDefault (localName : String) : LocalBinding :=
  ⟨localName, "default", .default⟩

/-- A local name for the module as a whole. -/
def ofNamespace (localName : String) : LocalBinding :=
  ⟨localName, "*", .wholeModule⟩

/-- What a name node says: the contents of a string, or its text. -/
def spelled (name : Node) : String :=
  name.stringValue?.getD name.text

/-- The binding of one specifier between braces. -/
def ofImportSpecifier? (node : Node) : Option LocalBinding :=
  if node.rawKind = "import_specifier" then
    (node.field? "name").map fun name =>
      let localName :=
        match node.field? "alias" with
        | some given => given.text
        | none => spelled name
      named (spelled name) localName
  else
    none

/-- The bindings of one part of an import clause. -/
def ofClausePart (node : Node) : List LocalBinding :=
  match node.rawKind with
  | "identifier" => [ofDefault node.text]
  | "namespace_import" =>
      ((node.childOfKind? "identifier").map fun name =>
        ofNamespace name.text).toList
  | "named_imports" => node.namedChildren.filterMap ofImportSpecifier?
  | _ => []

/-- The node that a default value stands beside, or the node itself. -/
def withoutDefault? (node : Node) : Option Node :=
  if node.rawKind = "assignment_pattern" then
    node.field? "left"
  else
    some node

/-- The binding of one entry of an object pattern. -/
def ofPatternEntry? (node : Node) : Option LocalBinding :=
  match node.rawKind with
  | "shorthand_property_identifier_pattern" => some (named node.text node.text)
  | "object_assignment_pattern" =>
      (node.field? "left").map fun left => named left.text left.text
  | "pair_pattern" => do
      let key ← node.field? "key"
      let value ← withoutDefault? (← node.field? "value")
      if value.rawKind = "identifier" then
        return named (spelled key) value.text
      else
        none
  | _ => none

/-- The bindings of a pattern to which a loaded module is assigned. -/
def ofPattern (node : Node) : List LocalBinding :=
  match node.rawKind with
  | "identifier" => [ofNamespace node.text]
  | "object_pattern" => node.namedChildren.filterMap ofPatternEntry?
  | _ => []

end LocalBinding

namespace ModuleLoad

/-- The specifier below a declaration or clause. -/
def sourceOf? (node : Node) : Option String :=
  ((node.field? "source").or (node.childOfKind? "string")).bind Node.stringValue?

/-- What an import declaration loads. -/
def ofImport? (node : Node) : Option ModuleLoad :=
  if node.isKind .importDeclaration then
    match node.childOfKind? "import_require_clause" with
    | some clause =>
        (sourceOf? clause).map fun specifier =>
          ⟨specifier,
            ((clause.childOfKind? "identifier").map fun name =>
              LocalBinding.ofNamespace name.text).toList⟩
    | none =>
        (sourceOf? node).map fun specifier =>
          ⟨specifier,
            match node.childOfKind? "import_clause" with
            | some clause => clause.namedChildren.flatMap LocalBinding.ofClausePart
            | none => []⟩
  else
    none

/-- The specifier of a call of `require` with a string as its one argument. -/
def requiredSpecifier? (node : Node) : Option String :=
  if node.isKind .callExpression then do
    let callee ← node.field? "function"
    let arguments ← node.field? "arguments"
    if callee.rawKind = "identifier" && callee.text = Vocabulary.requireName then
      match arguments.namedChildren with
      | [argument] => argument.stringValue?
      | _ => none
    else
      none
  else
    none

/-- The pattern of the declarator that a call is the value of. -/
def assignedPattern? (node : Node) : Option Node :=
  node.parent?.bind fun parent =>
    if parent.isKind .variableDeclarator && node.isFieldOfParent "value" then
      parent.field? "name"
    else
      none

/-- What a call of `require` loads. -/
def ofRequire? (node : Node) : Option ModuleLoad :=
  (requiredSpecifier? node).map fun specifier =>
    ⟨specifier,
      match assignedPattern? node with
      | some pattern => LocalBinding.ofPattern pattern
      | none => []⟩

end ModuleLoad

end UsageLint.Imports
