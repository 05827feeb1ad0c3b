import UsageLint.Glob.Discovery
import UsageLint.Glob.Exclusion
import UsageLint.Linter.Source
import UsageLint.Report.LintResult

namespace UsageLint

open UsageLint.Syntax
open UsageLint.Report

/-!
# Linting all sources

A linter finds the sources below its root, lints them one by one in the order
of their paths, and puts what it found into one result. What is found in one
source depends on no other source.
-/

namespace Linter

/-- The pattern of the sources with one extension below the root. -/
def patternFor (linter : Linter) (extension : String) : String :=
  linter.root.text ++ "/**/*." ++ extension

/-- The sources below the root that are not left out, in order. -/
def discover (linter : Linter) (workspace : Workspace) : Except LintError (List Path) :=
  match Dialect.extensions.mapM fun extension =>
      Glob.discover workspace.files (linter.patternFor extension) with
  | .error cause => .error (.badPattern cause)
  | .ok found =>
      let kept := found.flatten.filter (!Glob.isExcluded linter.excludes ·)
      .ok (kept.mergeSort fun left right => (left.compare right).isLE)

/-- The path under which a source is reported: relative to the root, if it can be. -/
def shownPath (linter : Linter) (path : Path) : Path :=
  (path.relativeTo? linter.root).getD path

/-- What is found in a discovered source; one that is no text is skipped. -/
def check (linter : Linter) (workspace : Workspace) (path : Path) :
    Except LintError (Option (List Violation)) :=
  match workspace.files.readText path with
  | .ok text =>
      (linter.lintSource workspace.grammar (linter.shownPath path) text).map some
  | .error .notText => .ok none
  | .error cause => .error (.unreadable cause)

/-- The warnings that come with checking a discovered source. -/
def checkWarnings (linter : Linter) (workspace : Workspace) (path : Path) :
    List Warning :=
  match workspace.files.readText path with
  | .ok text => linter.sourceWarnings workspace.grammar (linter.shownPath path) text
  | .error .notText => [.skippedFile (linter.shownPath path)]
  | .error _ => []

/-- The result of the violations found in each checked source. -/
def resultOf (checked : List (List Violation)) : LintResult :=
  { violations :=
      checked.flatten.mergeSort fun left right => (left.compare right).isLE
    filesChecked := checked.length }

/-- Lint all sources below the root. -/
def analyze (linter : Linter) (workspace : Workspace) : Except LintError LintResult := do
  let paths ← linter.discover workspace
  let checked ← paths.mapM (linter.check workspace)
  return resultOf (checked.filterMap id)

/-- The warnings of checking sources one after another, up to a failure. -/
def warningsOf (linter : Linter) (workspace : Workspace) : List Path → List Warning
  | [] => []
  | path :: rest =>
      linter.checkWarnings workspace path ++
        match linter.check workspace path with
        | .ok _ => linter.warningsOf workspace rest
        | .error _ => []

/-- The warnings that come with linting all sources below the root. -/
def analyzeWarnings (linter : Linter) (workspace : Workspace) : List Warning :=
  match linter.discover workspace with
  | .ok paths => linter.warningsOf workspace paths
  | .error _ => []

end Linter

end UsageLint
