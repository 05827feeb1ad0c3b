import UsageLint.Syntax.Kind
import UsageLint.Text.Blank

namespace UsageLint.Walk

open UsageLint.Syntax

/-!
# Selectors

A selector says which nodes a handler is called for: the nodes of one kind,
those of them below a node of another kind, or the end of the file. Selectors
are written as one or two node-type names, or as `Program:exit`.
-/

/-- What a handler is called for. -/
inductive Selector where
  /-- Every node of a kind. -/
  | every (kind : Kind)
  /-- Every node of a kind below a node of another. -/
  | below (ancestor kind : Kind)
  /-- The root, once the whole tree was visited. -/
  | programExit
deriving Repr, DecidableEq

/-- Why a text is no selector. -/
inductive SelectorError where
  | unknownNodeType (name : String)
  | unsupported (text : String)
deriving Repr, DecidableEq

/-- The text shown for a selector error. -/
def SelectorError.message : SelectorError → String
  | unknownNodeType name => s!"unknown node type `{name}` in selector"
  | unsupported text => s!"unsupported selector `{text}`"

namespace Selector

/-- Whether a selector picks a node of this kind below nodes of these kinds. -/
def picks (selector : Selector) (found : Kind) (ancestors : List Kind) : Bool :=
  match selector with
  | every kind => kind == found
  | below ancestor kind =>
      kind == found && ancestors.contains ancestor
  | programExit => false

/-- Look up a node-type name. -/
def kindOf (name : List Char) : Except SelectorError Kind :=
  match Kind.ofTypeName? (String.ofList name) with
  | some kind => .ok kind
  | none => .error (.unknownNodeType (String.ofList name))

/-- Read a selector. -/
def parse (text : String) : Except SelectorError Selector :=
  if String.ofList (Text.trim text.toList) = "Program:exit" then
    .ok .programExit
  else
    match Text.words text.toList with
    | [name] =>
        (kindOf name).map .every
    | [outer, inner] => do
        let ancestor ← kindOf outer
        let kind ← kindOf inner
        return .below ancestor kind
    | _ => .error (.unsupported text)

/-- The text shown for a selector. -/
def label : Selector → String
  | every kind => "Kind(" ++ kind.label ++ ")"
  | below ancestor kind =>
      "Descendant \x7b ancestor: " ++ ancestor.label ++
        ", kind: " ++ kind.label ++ " \x7d"
  | programExit => "ProgramExit"

end Selector

end UsageLint.Walk
