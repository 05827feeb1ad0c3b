import UsageLint.Report.Violation

namespace UsageLint.Report

/-!
# Lint results

A lint result is what a run over many files found: the violations in order,
and how many files were checked.
-/

/-- What a run found. -/
structure LintResult where
  violations : List Violation
  filesChecked : Nat
deriving Repr, DecidableEq

namespace LintResult

/-- Nothing found in no files. -/
def empty : LintResult :=
  ⟨[], 0⟩

/-- Whether a violation is at least as severe as a threshold. -/
def hasViolationsAt (result : LintResult) (threshold : Severity) : Bool :=
  result.violations.any (·.severity.reaches threshold)

/-- Whether a violation is an error. -/
def hasErrors (result : LintResult) : Bool :=
  result.hasViolationsAt .error

/-- The number of violations of one severity. -/
def count (result : LintResult) (severity : Severity) : Nat :=
  result.violations.countP (·.severity = severity)

/-- What was found, in one line. -/
def summary (result : LintResult) : String :=
  let errors := result.count .error
  let warnings := result.count .warning
  let infos := result.count .info
  let files := result.filesChecked
  s!"Found {errors} error(s), {warnings} warning(s), {infos} info(s) in {files} file(s)"

end LintResult

end UsageLint.Report
