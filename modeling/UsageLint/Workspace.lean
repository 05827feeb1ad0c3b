import UsageLint.Config
import UsageLint.Files.Entry
import UsageLint.Syntax.SourceTree

namespace UsageLint

open UsageLint.Syntax
open UsageLint.Files (Entry ReadError)

/-!
# Workspaces

A workspace is all that a linter works on and with: how sources are read into
trees, what is on the disk, and which directory is the current one.
-/

/-- Where a linter works. -/
structure Workspace where
  grammar : Grammar
  /-- The topmost directory. -/
  files : Entry
  /-- The directory that relative paths start from. -/
  directory : Path

/-- Why a configuration cannot be loaded. -/
inductive ConfigError where
  | unreadable (path : Path) (cause : ReadError)
  | malformed
deriving Repr, DecidableEq

/-- The text shown for a configuration that cannot be loaded. -/
def ConfigError.message : ConfigError → String
  | unreadable path cause =>
      "Failed to read config file " ++ path.text ++ ": " ++ cause.message
  | malformed => "Failed to parse config"

/-- Load a configuration from a file. -/
def Config.load (workspace : Workspace) (path : Path) : Except ConfigError Config :=
  match workspace.files.readText path with
  | .error cause => .error (.unreadable path cause)
  | .ok text =>
      match Config.parse? text with
      | some config => .ok config
      | none => .error .malformed

end UsageLint
