import UsageLint.Glob.Pattern
import UsageLint.Linter.Options
import UsageLint.Workspace

namespace UsageLint

open UsageLint.Syntax
open UsageLint.Report
open UsageLint.Files (ReadError)
open UsageLint.Glob (PatternError)

/-!
# Linting a source

A linter runs its enabled rules over the tree of a source. Each rule walks the
tree by itself, so what one rule reports depends on no other rule.

Results and warnings are told by separate functions of the same inputs.
-/

/-- Why a run comes to no result. -/
inductive LintError where
  | unreadable (cause : ReadError)
  | syntaxError (path : Path) (position : Position)
  | badPattern (cause : PatternError)
deriving Repr, DecidableEq

/-- The text shown for a run without a result. -/
def LintError.display : LintError → String
  | unreadable cause => "IO error: " ++ cause.message
  | syntaxError path position =>
      "Syntax error in " ++ path.text ++ " at " ++ position.render
  | badPattern cause => "Invalid glob pattern: " ++ cause.message

/-- What keeps a run from a result: the same text, but of a pattern only what is wrong. -/
def LintError.message : LintError → String
  | badPattern cause => cause.fault.message
  | error => error.display

namespace Linter

/-- The dialect of sources whose extension tells none. -/
def fallbackDialect : Dialect := .tsx

/-- The dialect in which a source is read. -/
def dialectFor (path : Path) : Dialect :=
  (Dialect.ofPath? path).getD fallbackDialect

/-- The tree of a source. -/
def readSource (grammar : Grammar) (path : Path) (text : String) : SourceTree :=
  .read grammar (dialectFor path) (.ofString text)

/-- The rules that run. -/
def enabledRules (linter : Linter) : List Rule :=
  linter.rules.filter fun rule => linter.config.isEnabled rule.name

/-- What a rule reports of a tree, with the severity configured for it. -/
def runRule (linter : Linter) (path : Path) (tree : SourceTree) (rule : Rule) :
    List Violation :=
  let found := rule.violations path (linter.config.settingsFor rule.name) tree
  match linter.config.severity? rule.name with
  | some severity => found.map (·.withSeverity severity)
  | none => found

/-- What all enabled rules report of a tree, rule by rule. -/
def lintTree (linter : Linter) (path : Path) (tree : SourceTree) : List Violation :=
  linter.enabledRules.flatMap (linter.runRule path tree)

/-- Lint a text as if it was read from a path. -/
def lintSource (linter : Linter) (grammar : Grammar) (path : Path) (text : String) :
    Except LintError (List Violation) :=
  let tree := readSource grammar path text
  match tree.firstError? with
  | some position =>
      if linter.failsOnSyntaxError then
        .error (.syntaxError path position)
      else
        .ok (linter.lintTree path tree)
  | none => .ok (linter.lintTree path tree)

/-- The warnings that come with linting a text. -/
def sourceWarnings (linter : Linter) (grammar : Grammar) (path : Path) (text : String) :
    List Warning :=
  let ofSettings :=
    linter.enabledRules.flatMap fun rule => linter.config.warningsFor rule.name
  match (readSource grammar path text).firstError? with
  | some position =>
      if linter.failsOnSyntaxError then
        []
      else
        .recoveredSyntaxError path position :: ofSettings
  | none => ofSettings

/-- Lint a file. -/
def lintFile (linter : Linter) (workspace : Workspace) (path : Path) :
    Except LintError (List Violation) :=
  match workspace.files.readText path with
  | .ok text => linter.lintSource workspace.grammar path text
  | .error cause => .error (.unreadable cause)

/-- The warnings that come with linting a file. -/
def fileWarnings (linter : Linter) (workspace : Workspace) (path : Path) :
    List Warning :=
  match workspace.files.readText path with
  | .ok text => linter.sourceWarnings workspace.grammar path text
  | .error _ => []

end Linter

end UsageLint
