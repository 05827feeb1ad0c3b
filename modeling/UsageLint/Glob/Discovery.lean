import UsageLint.Files.Entry
import UsageLint.Glob.Matching

namespace UsageLint.Glob

open UsageLint.Files (Entry Place)

/-!
# Discovery

Discovery finds the places in a file tree that an absolute pattern matches. The
pattern is taken component by component: a component without wildcards is
entered by name, one with wildcards is tried on every entry of a directory, and
a run of components goes on with everything below a directory.
-/

/-- A place in a file tree and the path by which it was reached. -/
structure Spot where
  path : Path
  place : Place

namespace Spot

/-- The topmost directory. -/
def top (entry : Entry) : Spot :=
  ⟨⟨"/"⟩, .top entry⟩

/-- Whether a directory is there. -/
def isDirectory (spot : Spot) : Bool :=
  spot.place.entry.isDirectory

/-- Follow a segment, if it leads anywhere. -/
def enter? (spot : Spot) (segment : String) : Option Spot :=
  match spot.place.step segment with
  | .ok place => some ⟨spot.path.join ⟨segment⟩, place⟩
  | .error _ => none

/-- A segment that is followed leads on from the path and from the place. -/
theorem enter?_eq_some_iff {spot next : Spot} {segment : String} :
    spot.enter? segment = some next ↔
      next.path = spot.path.join ⟨segment⟩ ∧ spot.place.step segment = .ok next.place := by
  rcases next with ⟨path, place⟩
  unfold enter?
  cases spot.place.step segment with
  | error cause =>
      simp
  | ok reached =>
      simp [eq_comm]

mutual

/-- Everything below an entry with the name it lies under, outer places first. -/
def belowEntry (path : Path) (above : List Entry) : Entry → List (String × Spot)
  | .file _ => []
  | .directory entries =>
      belowEntries path (.directory entries :: above) entries

/-- Some entries of a directory and everything below them. -/
def belowEntries (path : Path) (above : List Entry) :
    List (String × Entry) → List (String × Spot)
  | [] => []
  | (name, entry) :: rest =>
      (name, ⟨path.join ⟨name⟩, ⟨entry, above⟩⟩) ::
        (belowEntry (path.join ⟨name⟩) above entry ++
          belowEntries path above rest)

end

/-- Everything below a spot, each with its own name. -/
def below (spot : Spot) : List (String × Spot) :=
  belowEntry spot.path spot.place.above spot.place.entry

/-- The entries of a directory, each with its own name. -/
def entries (spot : Spot) : List (String × Spot) :=
  match spot.place.entry with
  | .file _ => []
  | .directory named =>
      named.map fun (name, entry) =>
        (name, ⟨spot.path.join ⟨name⟩, ⟨entry, spot.place.entry :: spot.place.above⟩⟩)

end Spot

/-- One step from places to places. -/
inductive Step where
  /-- Follow a segment. -/
  | enter (segment : String)
  /-- Go to the entries whose names match. -/
  | among (pattern : Pattern)
  /-- Go to everything below whose name matches. -/
  | anywhere (pattern : Pattern)
  /-- Go to every directory below. -/
  | directories
deriving Repr, DecidableEq

namespace Step

/-- The spots of which the names match. -/
def matching (pattern : Pattern) (named : List (String × Spot)) : List Spot :=
  (named.filter fun (name, _) => pattern.isMatch name.toList).map (·.2)

/--
The dots that match a pattern.

They are no entries of a directory, and only a pattern that starts with a dot
can match them.
-/
def dots (pattern : Pattern) (spot : Spot) : List Spot :=
  if spot.isDirectory && pattern.tokens.head? == some (.literal '.') then
    ([("..".toList), (".".toList)].filter pattern.isMatch).filterMap fun segment =>
      spot.enter? (String.ofList segment)
  else
    []

/-- The spots that a step leads to. -/
def targets (step : Step) (spot : Spot) : List Spot :=
  match step with
  | enter segment => (spot.enter? segment).toList
  | among pattern => dots pattern spot ++ matching pattern spot.entries
  | anywhere pattern => matching pattern spot.below
  | directories => (spot.below.map (·.2)).filter Spot.isDirectory

/-- The step of a component that is no run of components. -/
def ofComponent (pattern : Pattern) : Step :=
  match pattern.literalText? with
  | some text => .enter (String.ofList text)
  | none => .among pattern

/-- The steps of a pattern; a run of components joins what follows it. -/
def ofComponents : List Pattern → List Step
  | [] => []
  | pattern :: rest =>
      if pattern.isRecursive then
        match rest with
        | [] => [.directories]
        | next :: others =>
            if next.isRecursive then
              ofComponents (next :: others)
            else
              .anywhere next :: ofComponents others
      else
        ofComponent pattern :: ofComponents rest

end Step

/-- The steps of an absolute pattern, which has to be a pattern as a whole too. -/
def stepsOf (pattern : String) : Except PatternError (List Step) := do
  let _ ← Pattern.parse pattern
  let components ←
    (Text.segments pattern.toList).tail.mapM fun segment =>
      Pattern.parse (String.ofList segment)
  return Step.ofComponents components

/-- The spots that steps lead to from the topmost directory. -/
def follow (top : Entry) (steps : List Step) : List Spot :=
  steps.foldl (fun spots step => spots.flatMap step.targets) [Spot.top top]

/-- The paths that an absolute pattern matches. -/
def discover (top : Entry) (pattern : String) : Except PatternError (List Path) := do
  let steps ← stepsOf pattern
  return (follow top steps).map (·.path)

end UsageLint.Glob
