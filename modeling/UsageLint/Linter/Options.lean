import UsageLint.Config
import UsageLint.Rule

namespace UsageLint

/-!
# Linter options

A linter is made from options. What the options leave open is taken from the
configuration, and what that leaves open too has a fixed value.
-/

/-- What a linter is made from. -/
structure LinterOptions where
  root : Option Path := none
  rules : List Rule := []
  excludes : List String := []
  config : Option Config := none
  failsOnSyntaxError : Bool := false

/-- Rules with a configuration, and the files to run them on. -/
structure Linter where
  /-- The directory below which sources are looked for. -/
  root : Path
  rules : List Rule
  excludes : List String
  config : Config
  /-- Whether a syntax error ends a run. -/
  failsOnSyntaxError : Bool

namespace LinterOptions

/-- The pattern of paths left out where nothing says what to leave out. -/
def fallbackExclude : String := "**/node_modules/**"

/-- The patterns of paths to leave out. -/
def allExcludes (options : LinterOptions) : List String :=
  let given :=
    options.excludes ++ (options.config.map (·.analyzer.exclude)).getD []
  if given.isEmpty then [fallbackExclude] else given

/-- The directory to look in, as given, as configured, or the current one. -/
def chosenRoot (options : LinterOptions) : Path :=
  (options.root.or (options.config.map (·.analyzer.root))).getD
    AnalyzerConfig.defaultRoot

/-- The linter for a current directory. -/
def build (options : LinterOptions) (directory : Path) : Linter :=
  { root := directory.join options.chosenRoot
    rules := options.rules
    excludes := options.allExcludes
    config := options.config.getD .default
    failsOnSyntaxError := options.failsOnSyntaxError }

end LinterOptions

end UsageLint
