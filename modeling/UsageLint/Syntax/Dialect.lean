import UsageLint.Path

namespace UsageLint.Syntax

/-!
# Dialects

The extension of a file picks the dialect its text is read in.
-/

/-- The dialects a source may be written in. -/
inductive Dialect where
  /-- TypeScript without element syntax. -/
  | typeScript
  /-- TypeScript or JavaScript with element syntax. -/
  | tsx
deriving Repr, DecidableEq

namespace Dialect

/-- The extensions of source files, without the dot. -/
def extensions : List String :=
  ["js", "jsx", "mjs", "cjs", "ts", "tsx", "mts", "cts"]

/-- The dialect of an extension. -/
def ofExtension? (extension : String) : Option Dialect :=
  match extension with
  | "ts" | "mts" | "cts" => some .typeScript
  | "tsx" | "js" | "jsx" | "mjs" | "cjs" => some .tsx
  | _ => none

/-- The dialect of a file; files of other extensions are no sources. -/
def ofPath? (path : Path) : Option Dialect :=
  path.extension?.bind ofExtension?

/-- The name under which a dialect is shown. -/
def label : Dialect → String
  | typeScript => "TypeScript"
  | tsx => "Tsx"

end Dialect

end UsageLint.Syntax
