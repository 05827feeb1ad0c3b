import UsageLint.Text.Quoted

namespace UsageLint.Usage

/-!
# Categories

What a node is, as far as the use of the testing library goes.
-/

/-- What a node is. -/
inductive Category where
  /-- The render function or a wrapper of it. -/
  | render
  /-- A function that waits, by its exported name where that is known. -/
  | asyncUtil (name : String)
  /-- A method of the user-event object. -/
  | userEventMethod
  /-- A configured query. -/
  | customQuery
  /-- A query that fails at once. -/
  | getQuery
  /-- A query that may find nothing. -/
  | queryQuery
  /-- A query that waits. -/
  | findQuery
  /-- An assertion that an element is there. -/
  | presenceAssertion
  /-- An assertion that an element is not there. -/
  | absenceAssertion
  /-- Anything else. -/
  | unrelated
deriving Repr, DecidableEq

/-- The name under which a category is shown. -/
def Category.label : Category → String
  | render => "Render"
  | asyncUtil name => "AsyncUtil(" ++ Text.quote name ++ ")"
  | userEventMethod => "UserEventMethod"
  | customQuery => "CustomQuery"
  | getQuery => "GetQueryVariant"
  | queryQuery => "QueryQueryVariant"
  | findQuery => "FindQueryVariant"
  | presenceAssertion => "PresenceAssert"
  | absenceAssertion => "AbsenceAssert"
  | unrelated => "None"

end UsageLint.Usage
