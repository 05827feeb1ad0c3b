import UsageLint.Glob.Matching
import UsageLint.Path

namespace UsageLint.Glob

/-!
# Exclusion

A path is left out if a pattern matches the whole of it, or if what remains of
the pattern without its pairs of stars occurs in it. A text that is no pattern
leaves out paths in the second way only.
-/

/-- A text without its pairs of stars. -/
def withoutStarPairs : List Char → List Char
  | '*' :: '*' :: rest => withoutStarPairs rest
  | character :: rest => character :: withoutStarPairs rest
  | [] => []

/-- Whether a pattern matches the whole of a path. -/
def matchesPath (pattern : String) (path : Path) : Bool :=
  match Pattern.parse pattern with
  | .ok parsed => parsed.isMatch path.text.toList
  | .error _ => false

/-- Whether the plain part of a pattern occurs in a path. -/
def occursInPath (pattern : String) (path : Path) : Bool :=
  let word := withoutStarPairs pattern.toList
  !word.isEmpty && Text.occursIn word path.text.toList

/-- Whether one of some patterns leaves out a path. -/
def isExcluded (patterns : List String) (path : Path) : Bool :=
  patterns.any fun pattern =>
    matchesPath pattern path || occursInPath pattern path

end UsageLint.Glob
