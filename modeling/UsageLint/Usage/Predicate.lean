import UsageLint.Usage.Assertion
import UsageLint.Usage.Call

namespace UsageLint.Usage

open UsageLint.Syntax

/-!
# Predicates

The category of any node, and the yes-or-no questions that rules may ask of
one. Every answer depends on the view and the node alone.
-/

/-- The category of a node. -/
def View.category (view : View) (node : Node) : Category :=
  match node.kind with
  | .identifier => view.callCategory node
  | .memberExpression => assertion node
  | _ => .unrelated

/-- The name of the waiting function a node is. -/
def View.asyncUtilName? (view : View) (node : Node) : Option String :=
  match view.category node with
  | .asyncUtil name => some name
  | _ => none

/-- A yes-or-no question about a node. -/
inductive Predicate where
  | renderUtil
  | asyncUtil
  | userEventMethod
  | customQuery
  | getQuery
  | queryQuery
  | findQuery
  | presenceAssertion
  | absenceAssertion
  | fireEventUtil
  | fireEventMethod
  | debugUtil
  | actUtil
  | builtInQuery
  | syncQuery
  | asyncQuery
deriving Repr, DecidableEq

namespace Predicate

/-- Every question. -/
def all : List Predicate :=
  [renderUtil, asyncUtil, userEventMethod, customQuery, getQuery, queryQuery,
    findQuery, presenceAssertion, absenceAssertion, fireEventUtil,
    fireEventMethod, debugUtil, actUtil, builtInQuery, syncQuery, asyncQuery]

/-- The name of a question. -/
def name : Predicate → String
  | renderUtil => "is_render_util"
  | asyncUtil => "is_async_util"
  | userEventMethod => "is_user_event_method"
  | customQuery => "is_custom_query"
  | getQuery => "is_get_query_variant"
  | queryQuery => "is_query_query_variant"
  | findQuery => "is_find_query_variant"
  | presenceAssertion => "is_presence_assert"
  | absenceAssertion => "is_absence_assert"
  | fireEventUtil => "is_fire_event_util"
  | fireEventMethod => "is_fire_event_method"
  | debugUtil => "is_debug_util"
  | actUtil => "is_act_util"
  | builtInQuery => "is_built_in_query"
  | syncQuery => "is_sync_query"
  | asyncQuery => "is_async_query"

/-- The question with a name. -/
def ofName? (name : String) : Option Predicate :=
  all.find? (·.name == name)

/-- The answer to a question about a node. -/
def holds (predicate : Predicate) (view : View) (node : Node) : Bool :=
  match predicate with
  | renderUtil => view.category node == .render
  | asyncUtil => (view.asyncUtilName? node).isSome
  | userEventMethod => view.category node == .userEventMethod
  | customQuery => view.category node == .customQuery
  | getQuery => view.category node == .getQuery
  | queryQuery => view.category node == .queryQuery
  | findQuery => view.category node == .findQuery
  | presenceAssertion => view.category node == .presenceAssertion
  | absenceAssertion => view.category node == .absenceAssertion
  | fireEventUtil => view.isFireEventUtil node
  | fireEventMethod => view.isFireEventMethod node
  | debugUtil => view.isDebugUtil node
  | actUtil => view.isActUtil node
  | builtInQuery => view.isBuiltInQuery node
  | syncQuery => view.isSyncQuery node
  | asyncQuery => view.isAsyncQuery node

end Predicate

end UsageLint.Usage
