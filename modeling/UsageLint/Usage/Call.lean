import UsageLint.Usage.Category
import UsageLint.Usage.Resolved

namespace UsageLint.Usage

open UsageLint.Syntax
open UsageLint.Imports

/-!
# Identifiers

What an identifier is follows from a list of checks, of which the first that
succeeds decides. Beside that, a few questions are asked of it directly.
-/

namespace View

/-- The name of the user-event object. -/
def userEventName? (view : View) : Option String :=
  view.imports.userEventName.or
    (if view.settings.aggressiveModules then
      some Vocabulary.userEventName
    else
      none)

/-- Whether a node is a method of the user-event object. -/
def isMethodOfUserEvent (view : View) (node : Node) : Bool :=
  match view.userEventName?, memberOf? node with
  | some userEvent, some member =>
      node.text != userEvent &&
        node.text != Vocabulary.userEventName &&
        (member.field? "object").any (isPlainIdentifier · userEvent) &&
        !view.imports.isForeign userEvent
  | _, _ => false

/-- Whether an identifier is named as a render function is. -/
def isNamedLikeRender (view : View) (resolved : Resolved) : Bool :=
  if view.settings.aggressiveRenders then
    Vocabulary.mentionsRender resolved.localName ||
      resolved.canonical == some Vocabulary.renderName
  else
    resolved.isNamed Vocabulary.renderName ||
      view.settings.customRenders.names.any resolved.isNamed

/-- Whether an identifier is one of some functions of the library. -/
def isFunction (view : View) (node : Node) (names : List String) : Bool :=
  (view.resolve? node).any fun resolved =>
    (resolved.namedIn? names).isSome && view.isPotential resolved

/-- Whether either name of an identifier passes a test. -/
def isNamedBy (view : View) (node : Node) (test : String → Bool) : Bool :=
  (view.resolve? node).any (·.either test)

end View

/-- One question asked of an identifier to find its category. -/
inductive CallCheck where
  | render
  | asyncUtil
  | userEventMethod
  | customQuery
  | getQuery
  | queryQuery
  | findQuery
deriving Repr, DecidableEq

namespace CallCheck

/-- The checks in the order in which they are made. -/
def precedence : List CallCheck :=
  [render, asyncUtil, userEventMethod, customQuery, getQuery, queryQuery,
    findQuery]

/-- The name under which a check is shown. -/
def label : CallCheck → String
  | render => "Render"
  | asyncUtil => "AsyncUtil"
  | userEventMethod => "UserEventMethod"
  | customQuery => "CustomQuery"
  | getQuery => "GetQueryVariant"
  | queryQuery => "QueryQueryVariant"
  | findQuery => "FindQueryVariant"

/-- The category a check gives, if it succeeds. -/
def category?
    (check : CallCheck)
    (view : View)
    (node : Node)
    (resolved : Resolved) :
    Option Category :=
  let given := fun (succeeds : Bool) (category : Category) =>
    if succeeds then some category else none
  match check with
  | render =>
      given (view.isNamedLikeRender resolved && view.isPotential resolved) .render
  | asyncUtil =>
      if view.isPotential resolved then
        (resolved.namedIn? Vocabulary.asyncUtils).map .asyncUtil
      else
        none
  | userEventMethod => given (view.isMethodOfUserEvent node) .userEventMethod
  | customQuery =>
      given (resolved.either view.settings.customQueries.contains) .customQuery
  | getQuery =>
      given (resolved.either (Vocabulary.continuesOne Vocabulary.getPrefixes)) .getQuery
  | queryQuery =>
      given (resolved.either (Vocabulary.continuesOne Vocabulary.queryPrefixes)) .queryQuery
  | findQuery =>
      given (resolved.either (Vocabulary.continuesOne Vocabulary.asyncPrefixes)) .findQuery

end CallCheck

namespace View

/-- The category of an identifier: that of the first check that succeeds. -/
def callCategory (view : View) (node : Node) : Category :=
  match view.resolve? node with
  | none => .unrelated
  | some resolved =>
      (CallCheck.precedence.findSome? fun check =>
        check.category? view node resolved).getD .unrelated

/-- Whether an identifier is the function that dispatches events. -/
def isFireEventUtil (view : View) (node : Node) : Bool :=
  view.isFunction node [Vocabulary.fireEventName]

/-- Whether an identifier is what is called of the function that dispatches events. -/
def isFireEventMethod (view : View) (node : Node) : Bool :=
  if node.isKind .identifier then
    match memberOf? node with
    | none => isCallee node && view.isFireEventUtil node
    | some member =>
        if isCallee member && node.text != Vocabulary.fireEventName then
          match member.field? "object" with
          | none => false
          | some object =>
              match object.rawKind with
              | "identifier" => view.isFireEventUtil object
              | "member_expression" =>
                  (object.field? "property").any view.isFireEventUtil
              | _ => false
        else
          false
  else
    false

/-- Whether an identifier is a function that helps to debug. -/
def isDebugUtil (view : View) (node : Node) : Bool :=
  let onConsole :=
    ((memberOf? node).bind (·.field? "object")).any
      (isPlainIdentifier · Vocabulary.consoleName)
  !onConsole && view.isFunction node Vocabulary.debugUtils

/-- Whether an identifier is the function that wraps updates. -/
def isActUtil (view : View) (node : Node) : Bool :=
  view.isFunction node [Vocabulary.actName]

/-- Whether an identifier is named as one of the library's own queries. -/
def isBuiltInQuery (view : View) (node : Node) : Bool :=
  view.isNamedBy node Vocabulary.isBuiltInQueryName

/-- Whether an identifier is named as a query that answers at once. -/
def isSyncQuery (view : View) (node : Node) : Bool :=
  view.isNamedBy node Vocabulary.isSyncQueryName

/-- Whether an identifier is named as a query that waits. -/
def isAsyncQuery (view : View) (node : Node) : Bool :=
  view.isNamedBy node Vocabulary.isAsyncQueryName

end View

end UsageLint.Usage
