namespace UsageLint

/-!
# Frameworks

The frameworks that a test may be written for. A framework is configured by
name or by a flag of its own; when several flags are set, the first in
`Framework.flagPriority` wins.
-/

/-- The framework a test is written for. -/
inductive Framework where
  | dom
  | angular
  | react
  | vue
  | marko
deriving Repr, DecidableEq

/-- A text without the difference between capital and small ASCII letters. -/
def foldCase (text : String) : List Char :=
  text.toList.map Char.toLower

namespace Framework

/-- Every framework, in the order in which their flags win. -/
def flagPriority : List Framework :=
  [angular, react, vue, marko, dom]

/-- The name of a framework, which is also the key of its flag. -/
def name : Framework → String
  | dom => "dom"
  | angular => "angular"
  | react => "react"
  | vue => "vue"
  | marko => "marko"

/-- The framework with a name, whatever its capital letters. -/
def ofName? (name : String) : Option Framework :=
  flagPriority.find? fun framework => foldCase framework.name == foldCase name

/-- The framework with exactly this name. -/
def ofExactName? (name : String) : Option Framework :=
  flagPriority.find? fun framework => framework.name == name

end Framework

end UsageLint
