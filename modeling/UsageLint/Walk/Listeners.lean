import UsageLint.Syntax.SourceTree
import UsageLint.Walk.Cursor
import UsageLint.Walk.Selector

namespace UsageLint.Walk

open UsageLint.Syntax

/-!
# Listeners

Listeners are handlers, each with the selector it is called for. A walk takes
a cursor through a tree and calls, at every named node, the handlers whose
selectors pick it, in the order in which they were registered; at the end it
calls the handlers for the end of the file with the root. Handlers pass a
context on to one another.
-/

/-- A handler and what it is called for. -/
structure Listener (C : Type) where
  selector : Selector
  handle : Node → C → C

/-- Handlers in the order in which they were registered. -/
structure Listeners (C : Type) where
  entries : List (Listener C)

namespace Listeners

variable {C D : Type}

/-- No handlers. -/
def empty : Listeners C :=
  ⟨[]⟩

/-- Register one more handler. -/
def register (listeners : Listeners C) (selector : Selector) (handle : Node → C → C) :
    Listeners C :=
  ⟨listeners.entries ++ [⟨selector, handle⟩]⟩

/-- Register all handlers of a second set after those of the first. -/
def chain (first second : Listeners C) : Listeners C :=
  ⟨first.entries ++ second.entries⟩

/-- The number of handlers. -/
def size (listeners : Listeners C) : Nat :=
  listeners.entries.length

/-- Whether there are no handlers. -/
def isEmpty (listeners : Listeners C) : Bool :=
  listeners.entries.isEmpty

/-- Let handlers work on a part of a larger context. -/
def within (listeners : Listeners C) (part : D → C) (replace : D → C → D) :
    Listeners D :=
  ⟨listeners.entries.map fun entry =>
    ⟨entry.selector, fun node whole =>
      replace whole (entry.handle node (part whole))⟩⟩

/-- Call the handlers that pick a node. -/
def dispatch
    (listeners : Listeners C)
    (node : Node)
    (ancestors : List Kind)
    (context : C) :
    C :=
  listeners.entries.foldl
    (fun context entry =>
      if entry.selector.picks node.kind ancestors then
        entry.handle node context
      else
        context)
    context

/-- Call the handlers for the end of the file. -/
def dispatchExit (listeners : Listeners C) (root : Node) (context : C) : C :=
  listeners.entries.foldl
    (fun context entry =>
      if entry.selector = .programExit then
        entry.handle root context
      else
        context)
    context

/-- Visit the node under a cursor and every node ahead of it. -/
def visit (listeners : Listeners C) (cursor : Cursor) (context : C) : C :=
  let context :=
    if cursor.node.label.named then
      listeners.dispatch cursor.node cursor.ancestors context
    else
      context
  match moved : cursor.next? with
  | some next =>
      have := Cursor.ahead_lt_of_next? moved
      listeners.visit next context
  | none => context
termination_by cursor.ahead

end Listeners

/-- Walk a tree from the root to the end of the file. -/
def walk {C : Type} (listeners : Listeners C) (tree : SourceTree) (context : C) : C :=
  listeners.dispatchExit tree.root
    (listeners.visit (Cursor.start tree.root) context)

end UsageLint.Walk
