namespace UsageLint

/-!
# Severities

How much a violation matters. Severities are ordered, and only errors make a
run fail.
-/

/-- How much a violation matters. -/
inductive Severity where
  | info
  | warning
  | error
deriving Repr, DecidableEq

namespace Severity

/-- The place of a severity in the order. -/
def rank : Severity → Nat
  | info => 0
  | warning => 1
  | error => 2

/-- How two severities compare. -/
def compare (left right : Severity) : Ordering :=
  Ord.compare left.rank right.rank

/-- Whether a severity is at least another. -/
def reaches (severity threshold : Severity) : Bool :=
  threshold.rank ≤ severity.rank

/-- The name by which a severity is written. -/
def name : Severity → String
  | info => "info"
  | warning => "warning"
  | error => "error"

/-- The severity with a name. -/
def ofName? (name : String) : Option Severity :=
  match name with
  | "info" => some .info
  | "warning" => some .warning
  | "error" => some .error
  | _ => none

/-- The name under which a severity is shown on its own. -/
def label : Severity → String
  | info => "Info"
  | warning => "Warning"
  | error => "Error"

end Severity

end UsageLint
