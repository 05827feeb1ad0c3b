namespace UsageLint.Syntax

/-!
# Node kinds

A grammar names the nodes of its trees in its own words. Rules are written
against a short list of node types instead, so several grammar kinds may fold
into one `Kind`; every kind that no rule can name folds into `Kind.other`.
-/

/-- The node types that selectors and detection distinguish. -/
inductive Kind where
  | program
  | importDeclaration
  | callExpression
  | memberExpression
  | identifier
  | variableDeclarator
  | stringLiteral
  | other
deriving Repr, DecidableEq

namespace Kind

/-- Every kind. -/
def all : List Kind :=
  [program, importDeclaration, callExpression, memberExpression, identifier,
    variableDeclarator, stringLiteral, other]

/-- Fold a grammar kind; plain, property and shorthand identifiers are one kind. -/
def ofGrammar (kind : String) : Kind :=
  match kind with
  | "program" => .program
  | "import_statement" => .importDeclaration
  | "call_expression" => .callExpression
  | "member_expression" => .memberExpression
  | "identifier"
  | "property_identifier"
  | "shorthand_property_identifier"
  | "shorthand_property_identifier_pattern" => .identifier
  | "variable_declarator" => .variableDeclarator
  | "string" => .stringLiteral
  | _ => .other

/-- The kind a selector means by a node-type name. -/
def ofTypeName? (name : String) : Option Kind :=
  match name with
  | "Program" => some .program
  | "ImportDeclaration" => some .importDeclaration
  | "CallExpression" => some .callExpression
  | "MemberExpression" => some .memberExpression
  | "Identifier" => some .identifier
  | "VariableDeclarator" => some .variableDeclarator
  | "Literal" => some .stringLiteral
  | _ => none

/-- The name under which a kind is shown. -/
def label : Kind → String
  | program => "Program"
  | importDeclaration => "ImportDeclaration"
  | callExpression => "CallExpression"
  | memberExpression => "MemberExpression"
  | identifier => "Identifier"
  | variableDeclarator => "VariableDeclarator"
  | stringLiteral => "StringLiteral"
  | other => "Other"

end Kind

end UsageLint.Syntax
