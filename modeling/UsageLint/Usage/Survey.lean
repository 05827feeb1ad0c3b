import UsageLint.Config
import UsageLint.Usage.Predicate
import UsageLint.Usage.Tracking

namespace UsageLint.Usage

open UsageLint.Syntax
open UsageLint.Walk

/-!
# Surveys

A survey asks every question of every node of a file and keeps the nodes of
which something is true. It asks either on the way, when only the imports at
or above a node are known, or at the end, when all are.

A survey is configured under a name of its own like a rule, and like a rule it
may be turned off.
-/

/-- A node of which something is true. -/
structure Sighting where
  node : Node
  category : Category
  predicates : List Predicate

/-- When to ask about a node. -/
inductive Moment where
  /-- When the walk comes to it. -/
  | onTheWay
  /-- When the walk is over. -/
  | atTheEnd
deriving Repr, DecidableEq

/-- What a survey found, and what is known at the end of the file. -/
structure Survey where
  sightings : List Sighting
  view : View

/-- What is true of a node, if anything is. -/
def View.sight? (view : View) (node : Node) : Option Sighting :=
  let category := view.category node
  let predicates := Predicate.all.filter (·.holds view node)
  if category = .unrelated && predicates.isEmpty then
    none
  else
    some ⟨node, category, predicates⟩

namespace Survey

/-- Nothing was found before the walk. -/
def start (settings : Settings) : Survey :=
  ⟨[], .initial settings⟩

/-- Ask about a node. -/
def ask (node : Node) (survey : Survey) : Survey :=
  { survey with
    sightings := survey.sightings ++ (survey.view.sight? node).toList }

/-- The same survey with another view. -/
def withView (survey : Survey) (view : View) : Survey :=
  { survey with view := view }

/-- The listeners that ask at a moment. -/
def asking (moment : Moment) : Listeners Survey :=
  match moment with
  | .onTheWay =>
      ⟨Kind.all.map fun kind => ⟨.every kind, ask⟩⟩
  | .atTheEnd =>
      ⟨[⟨.programExit, fun root survey =>
        root.descendants.foldl (fun survey node => survey.ask node) survey⟩]⟩

/-- Survey a file. -/
def ofTree (moment : Moment) (settings : Settings) (tree : SourceTree) : Survey :=
  walk
    ((tracking.within Survey.view Survey.withView).chain (asking moment))
    tree
    (start settings)

/-- The name under which a survey is configured. -/
def name : String := "probe"

/-- Survey a file as configured, unless surveys are turned off. -/
def ofConfig? (config : Config) (moment : Moment) (tree : SourceTree) : Option Survey :=
  if config.isEnabled name then
    some (ofTree moment (config.settingsFor name) tree)
  else
    none

end Survey

end UsageLint.Usage
