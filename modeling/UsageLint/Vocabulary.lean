import UsageLint.Framework
import UsageLint.Text.Occurrence

namespace UsageLint.Vocabulary

/-!
# Vocabulary

The names that tell a use of the testing library: its modules, its functions,
the conventions by which its queries are named, and the matchers of the
assertions that go with it.
-/

/-- The library's modules, each with the framework it implies. -/
def modules : List (String × Option Framework) :=
  [("@testing-library/dom", some .dom),
    ("@testing-library/angular", some .angular),
    ("@testing-library/react", some .react),
    ("@testing-library/vue", some .vue),
    ("@testing-library/preact", none),
    ("@testing-library/svelte", none),
    ("@marko/testing-library", some .marko)]

/-- Earlier names of some modules. -/
def legacyModules : List (String × Option Framework) :=
  [("dom-testing-library", some .dom),
    ("react-testing-library", some .react),
    ("vue-testing-library", some .vue)]

/-- The module of simulated user events. -/
def userEventModule : String := "@testing-library/user-event"

/-- The name of the user-event object where no import gives it another. -/
def userEventName : String := "userEvent"

/-- The render function. -/
def renderName : String := "render"

/-- The functions that wait. -/
def asyncUtils : List String :=
  ["waitFor", "waitForElementToBeRemoved", "wait", "waitForElement",
    "waitForDomChange"]

/-- How the names of queries that fail at once begin. -/
def getPrefixes : List String := ["getBy", "getAllBy"]

/-- How the names of queries that may find nothing begin. -/
def queryPrefixes : List String := ["queryBy", "queryAllBy"]

/-- How the names of queries that answer at once begin. -/
def syncPrefixes : List String := getPrefixes ++ queryPrefixes

/-- How the names of queries that wait begin. -/
def asyncPrefixes : List String := ["findBy", "findAllBy"]

/-- What the names of the library's own queries end with. -/
def queryMethods : List String :=
  ["LabelText", "PlaceholderText", "Text", "AltText", "Title", "DisplayValue",
    "Role", "TestId"]

/-- The matchers that assert that an element is there. -/
def presenceMatchers : List String :=
  ["toBeInTheDocument", "toBeTruthy", "toBeDefined"]

/-- The matchers that assert that an element is not there. -/
def absenceMatchers : List String :=
  ["toBeNull", "toBeFalsy"]

/-- The modifier that negates a matcher. -/
def notName : String := "not"

/-- The function that opens an assertion. -/
def expectName : String := "expect"

/-- The function that dispatches events. -/
def fireEventName : String := "fireEvent"

/-- The functions that help to debug. -/
def debugUtils : List String :=
  ["debug", "logTestingPlaygroundURL", "prettyDOM", "logRoles", "logDOM",
    "prettyFormat"]

/-- The object whose methods are no helpers of the library. -/
def consoleName : String := "console"

/-- The function that wraps updates. -/
def actName : String := "act"

/-- The function that loads a module. -/
def requireName : String := "require"

/--
The framework that a module of the library implies, if it implies one; none at
all if the specifier names no such module.
-/
def testingLibraryModule? (specifier : String) : Option (Option Framework) :=
  ((modules ++ legacyModules).find? fun (name, _) => name == specifier).map (·.2)

/--
Whether a specifier names the custom module: it is the very name, or a path
that ends with a slash and the name.
-/
def matchesCustomModule (specifier custom : String) : Bool :=
  let specifier := specifier.toList
  let custom := custom.toList
  if custom.isEmpty then
    false
  else
    specifier == custom ||
      (custom.isSuffixOf specifier &&
        (specifier.take (specifier.length - custom.length)).getLast? == some '/')

/-- What follows a beginning. -/
def after? (beginning name : String) : Option (List Char) :=
  if beginning.toList.isPrefixOf name.toList then
    some (name.toList.drop beginning.toList.length)
  else
    none

/-- Whether a name goes on after one of these beginnings. -/
def continuesOne (beginnings : List String) (name : String) : Bool :=
  beginnings.any fun beginning =>
    match after? beginning name with
    | some rest => !rest.isEmpty
    | none => false

/-- Whether a name is that of a query that answers at once. -/
def isSyncQueryName (name : String) : Bool :=
  continuesOne syncPrefixes name

/-- Whether a name is that of a query that waits. -/
def isAsyncQueryName (name : String) : Bool :=
  continuesOne asyncPrefixes name

/-- Whether a name is that of one of the library's own queries. -/
def isBuiltInQueryName (name : String) : Bool :=
  (syncPrefixes ++ asyncPrefixes).any fun beginning =>
    match after? beginning name with
    | some rest => queryMethods.any (·.toList == rest)
    | none => false

/-- Whether `render` occurs in a name, whatever its capital letters. -/
def mentionsRender (name : String) : Bool :=
  Text.occursIn renderName.toList (foldCase name)

end UsageLint.Vocabulary
