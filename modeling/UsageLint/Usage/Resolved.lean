import UsageLint.Usage.Chain
import UsageLint.Usage.View

namespace UsageLint.Usage

open UsageLint.Syntax
open UsageLint.Imports

/-!
# Resolved identifiers

An identifier is resolved against the imports: a plain one by its own name, and
a property by the identifier its chain starts from. What is foreign is never
the library's, and what no import binds is so only in aggressive settings.
-/

/-- Where an identifier comes from. -/
inductive Standing where
  /-- An import of the library's family binds it. -/
  | family
  /-- An unrelated import bound it last. -/
  | foreign
  /-- No import binds it. -/
  | unbound
deriving Repr, DecidableEq

/-- An identifier as the imports see it. -/
structure Resolved where
  localName : String
  /-- The exported name, where the identifier is bound by name. -/
  canonical : Option String
  standing : Standing
deriving Repr, DecidableEq

namespace Resolved

/-- Whether an identifier has a name, as written or as exported. -/
def isNamed (resolved : Resolved) (name : String) : Bool :=
  resolved.localName == name || resolved.canonical == some name

/-- The listed name an identifier is known by, the exported one first. -/
def namedIn? (resolved : Resolved) (names : List String) : Option String :=
  (names.find? fun name => resolved.canonical == some name).or
    (names.find? fun name => resolved.localName == name)

/-- Whether either name of an identifier passes a test. -/
def either (resolved : Resolved) (test : String → Bool) : Bool :=
  test resolved.localName || resolved.canonical.any test

end Resolved

/-- Where a name comes from. -/
def standingOf (imports : Tracker) (name : String) : Standing :=
  if (imports.binding? name).isSome then
    .family
  else if imports.isForeign name then
    .foreign
  else
    .unbound

/-- Where the start of a chain comes from; a chain without one is unbound. -/
def chainStanding (imports : Tracker) (object : Option Node) : Standing :=
  match object.bind chainStart? with
  | some start => standingOf imports start.text
  | none => .unbound

/-- The exported name of what is bound by name. -/
def canonicalName (imports : Tracker) (name : String) : Option String :=
  (imports.binding? name).bind fun binding =>
    if binding.kind = .named then
      some binding.exported
    else
      none

/-- Whether a name stands for a module as a whole. -/
def isModuleName (imports : Tracker) (name : String) : Bool :=
  (imports.binding? name).any CanonicalBinding.isNamespace

namespace View

/--
Resolve an identifier.

A property has no exported name of its own. A plain identifier that stands for
a module as a whole names no function and is not resolved.
-/
def resolve? (view : View) (node : Node) : Option Resolved :=
  if node.isKind .identifier then
    match memberOf? node with
    | some member =>
        some
          { localName := node.text
            canonical := none
            standing := chainStanding view.imports (member.field? "object") }
    | none =>
        if isModuleName view.imports node.text then
          none
        else
          some
            { localName := node.text
              canonical := canonicalName view.imports node.text
              standing := standingOf view.imports node.text }
  else
    none

/-- Whether an identifier may be the library's. -/
def isPotential (view : View) (resolved : Resolved) : Bool :=
  match resolved.standing with
  | .family => true
  | .foreign => false
  | .unbound => view.settings.aggressiveModules

end View

end UsageLint.Usage
