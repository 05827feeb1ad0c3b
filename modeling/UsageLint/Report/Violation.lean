import UsageLint.Path
import UsageLint.Severity
import UsageLint.Syntax.Node

namespace UsageLint.Report

open UsageLint.Syntax

/-!
# Violations

A violation says which rule was broken, how much that matters, and where. It
is shown as one line for tools, as two lines for readers, or as a message with
a labelled span of the source.
-/

/-- Where in which file. -/
structure Location where
  file : Path
  line : Nat
  /-- The column in bytes, counted from one. -/
  column : Nat
  /-- The number of bytes before. -/
  offset : Nat
  /-- The number of bytes covered. -/
  length : Nat
deriving Repr, DecidableEq

namespace Location

/-- The location that a node covers. -/
def ofNode (file : Path) (node : Node) : Location :=
  { file := file
    line := node.position.line
    column := node.position.column
    offset := node.label.start
    length := node.byteLength }

/-- A location without a span. -/
def ofPosition (file : Path) (position : Position) : Location :=
  { file := file
    line := position.line
    column := position.column
    offset := 0
    length := 0 }

/-- The text `file:line:column`. -/
def render (location : Location) : String :=
  location.file.text ++ ":" ++
    (Position.mk location.line location.column).render

end Location

/-- A rule broken at a place. -/
structure Violation where
  code : String
  rule : String
  severity : Severity
  location : Location
  message : String
deriving Repr, DecidableEq

/-- A span of the source with a text beside it. -/
structure SpanLabel where
  offset : Nat
  length : Nat
  text : String
deriving Repr, DecidableEq

/-- A message with the spans of the source it is about. -/
structure Diagnostic where
  message : String
  labels : List SpanLabel
deriving Repr, DecidableEq

namespace Violation

/-- The one-line form. -/
def render (violation : Violation) : String :=
  violation.location.render ++ ": " ++ violation.severity.name ++
    " [" ++ violation.code ++ "] " ++ violation.message

/-- The two-line form. -/
def format (violation : Violation) : String :=
  violation.code ++ " " ++ violation.rule ++
    " at " ++ violation.location.render ++ "\n  " ++
    violation.severity.name ++ ": " ++ violation.message ++ "\n"

/-- The form with a labelled span. -/
def diagnostic (violation : Violation) : Diagnostic :=
  { message := "[" ++ violation.code ++ "] " ++ violation.message
    labels :=
      [⟨violation.location.offset, violation.location.length, violation.rule⟩] }

/-- The same violation with another severity. -/
def withSeverity (violation : Violation) (severity : Severity) : Violation :=
  { violation with severity := severity }

/-- Violations are listed by file, then line, then column. -/
def compare (left right : Violation) : Ordering :=
  (left.location.file.compare right.location.file).then
    ((Ord.compare left.location.line right.location.line).then
      (Ord.compare left.location.column right.location.column))

end Violation

end UsageLint.Report
