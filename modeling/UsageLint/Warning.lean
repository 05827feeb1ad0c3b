import UsageLint.Path
import UsageLint.Syntax.Source
import UsageLint.Toml.Text

namespace UsageLint

/-!
# Warnings

A warning tells of something that a run passed over: a setting it could not
use, a file it could not read as text, or a syntax error it linted around.
-/

/-- Something a run passed over. -/
inductive Warning where
  | malformedSetting (key : String) (value : Toml.Value)
  | unknownFramework (name : String)
  | recoveredSyntaxError (path : Path) (position : Syntax.Position)
  | skippedFile (path : Path)
deriving Repr

/-- What is wrong with a file whose bytes are not the encoding of a text. -/
def notTextMessage : String :=
  "stream did not contain valid UTF-8"

/-- The text of a warning. -/
def Warning.message : Warning → String
  | malformedSetting key value =>
      s!"ignoring malformed setting `{key}` = " ++ value.renderAlone
  | unknownFramework name =>
      s!"unknown framework `{name}`, ignoring"
  | recoveredSyntaxError path position =>
      "Syntax error in " ++ path.text ++ " at " ++ position.render ++
        ", linting recovered tree"
  | skippedFile path =>
      "Skipping " ++ path.text ++ ": " ++ notTextMessage

end UsageLint
