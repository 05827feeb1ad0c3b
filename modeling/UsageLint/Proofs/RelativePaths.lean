import UsageLint.Proofs.PathOrder

namespace UsageLint.Path

open UsageLint.Text

/-!
# Relative paths

A path of which each segment is a step keeps its text below a directory: what is left
of the result below the directory is the path again, and two such results are ordered
as the paths are, whatever the directory is.
-/

/-- Each segment of the path is a step. -/
def IsTidy (path : Path) : Prop :=
  ∀ segment ∈ segments path.text.toList, isStep segment = true

namespace IsTidy

variable {path : Path} (tidy : path.IsTidy)

include tidy

/-- An absolute path opens with a segment that is no step. -/
theorem relative : path.isAbsolute = false := by
  rw [← Bool.not_eq_true]
  intro absolute
  obtain ⟨rest, shape⟩ := segments_of_isAbsolute absolute
  have isStep := tidy [] (by rw [shape]; exact List.mem_cons_self ..)
  cases isStep

theorem nonempty : path.text.isEmpty = false := by
  rw [String.isEmpty_eq_false_iff]
  intro isEmpty
  have isStep := tidy [] (by rw [isEmpty]; exact List.mem_cons_self ..)
  cases isStep

theorem components_eq : path.components = steps (segments path.text.toList) := by
  cases shape : segments path.text.toList with
  | nil =>
      exact absurd shape (segments_ne_nil _)
  | cons first others =>
      apply components_of_isStep shape
      exact tidy first (by rw [shape]; exact List.mem_cons_self ..)

end IsTidy

/-- A relative path goes behind a slash where the directory does not end in one. -/
theorem join_of_relative
    {directory below : Path}
    (nonempty : directory.text.isEmpty = false)
    (relative : below.isAbsolute = false) :
    directory.join below =
      if directory.text.toList.getLast? = some '/' then
        ⟨directory.text ++ below.text⟩
      else
        ⟨directory.text ++ "/" ++ below.text⟩ := by
  simp [join, relative, nonempty]

/-- A path can be put below a directory in two goes. -/
theorem join_join
    {directory middle below : Path}
    (nonempty : directory.text.isEmpty = false)
    (middleNonempty : middle.text.isEmpty = false)
    (middleRelative : middle.isAbsolute = false)
    (relative : below.isAbsolute = false) :
    (directory.join middle).join below = directory.join (middle.join below) := by
  have letters : middle.text.toList ≠ [] := by
    rw [ne_eq, String.toList_eq_nil_iff, ← String.isEmpty_iff, middleNonempty]
    exact Bool.false_ne_true
  -- The middle decides how what comes before it and after it ends and opens.
  have opens : (middle.join below).isAbsolute = false := by
    obtain ⟨first, others, shape⟩ := List.exists_cons_of_ne_nil letters
    rw [isAbsolute, shape] at middleRelative
    rw [join_of_relative middleNonempty relative]
    split <;> simpa [isAbsolute, shape] using middleRelative
  obtain ⟨front, shape⟩ := suffix_join directory middle
  have ends :
      (directory.join middle).text.toList.getLast? = middle.text.toList.getLast? := by
    rw [← shape, List.getLast?_append, List.getLast?_eq_some_getLast letters,
      Option.some_or]
  have joinedNonempty : (directory.join middle).text.isEmpty = false := by
    rw [String.isEmpty_eq_false_iff, ne_eq, ← String.toList_eq_nil_iff, ← shape]
    simp [letters]
  rw [join_of_relative joinedNonempty relative, join_of_relative nonempty opens,
    join_of_relative middleNonempty relative]
  simp only [ends]
  rw [join_of_relative nonempty middleRelative]
  split <;> split <;> simp [String.append_assoc]

/-- What is put below a single segment goes on after it. -/
theorem segments_join_of_segment
    {segment : String}
    (nonempty : segment.isEmpty = false)
    (noSlash : '/' ∉ segment.toList)
    {below : Path}
    (relative : below.isAbsolute = false) :
    segments (join ⟨segment⟩ below).text.toList =
      segment.toList :: segments below.text.toList := by
  have segmentNonempty : (Path.mk segment).text.isEmpty = false := nonempty
  obtain ⟨front, joined, isFront⟩ := exists_front_of_relative segmentNonempty relative
  rcases isFront with isWhole | endsInSlash
  · rw [joined, ← isWhole, segments_append_slash, segments_of_noSlash noSlash]
    rfl
  · apply absurd noSlash
    rw [endsInSlash]
    simp

/-- A segment that is not empty is in a joined path if it is in one of its parts. -/
theorem mem_segments_join
    {directory below : Path}
    (nonempty : directory.text.isEmpty = false)
    (relative : below.isAbsolute = false)
    {segment : List Char}
    (letters : segment ≠ []) :
    segment ∈ segments (directory.join below).text.toList ↔
      segment ∈ segments directory.text.toList ∨ segment ∈ segments below.text.toList := by
  obtain ⟨front, joined, isFront⟩ := exists_segments_of_relative nonempty relative
  rw [joined, List.mem_append]
  rcases isFront with isWhole | endsInSlash
  · rw [isWhole]
  · rw [endsInSlash, List.mem_append, List.mem_singleton, or_iff_left letters]

theorem compareComponents_append (front left right : List Component) :
    compareComponents (front ++ left) (front ++ right) = compareComponents left right := by
  induction front with
  | nil =>
      rfl
  | cons step rest inductionHypothesis =>
      have same : step.compare step = .eq := Std.ReflCmp.compare_self
      rw [List.cons_append, List.cons_append, compareComponents, same, inductionHypothesis]
      rfl

/-- Tidy paths are ordered below a directory as they are by themselves. -/
theorem compare_join
    {directory left right : Path}
    (absolute : directory.isAbsolute = true)
    (leftTidy : left.IsTidy)
    (rightTidy : right.IsTidy) :
    (directory.join left).compare (directory.join right) = left.compare right := by
  rw [compare, components_join_of_relative absolute leftTidy.relative,
    components_join_of_relative absolute rightTidy.relative, compareComponents_append,
    compare, leftTidy.components_eq, rightTidy.components_eq]

/-- Dropping the steps of some segments leaves what follows them, after idle ones. -/
theorem exists_dropSteps?_append (front rest : List (List Char)) :
    ∃ idle,
      (∀ segment ∈ idle, isStep segment = false) ∧
        dropSteps? (steps front) (front ++ rest) = some (idle ++ rest) := by
  induction front with
  | nil =>
      exact ⟨[], nofun, by simp [steps, dropSteps?]⟩
  | cons segment later inductionHypothesis =>
      obtain ⟨idle, allIdle, dropped⟩ := inductionHypothesis
      cases isIdle : isStep segment with
      | true =>
          obtain ⟨step, found, stepsEq⟩ := steps_cons_of_isStep isIdle later
          refine ⟨idle, allIdle, ?_⟩
          rw [stepsEq, List.cons_append, dropSteps?, found]
          simpa using dropped
      | false =>
          rw [steps_cons_of_not_isStep isIdle]
          have missing : Component.ofSegment? segment = none := by
            simpa [isStep] using isIdle
          cases left : steps later with
          | nil =>
              rw [left] at dropped
              refine ⟨segment :: idle, List.forall_mem_cons.mpr ⟨isIdle, allIdle⟩, ?_⟩
              simpa [dropSteps?] using dropped
          | cons step others =>
              refine ⟨idle, allIdle, ?_⟩
              rw [left] at dropped
              simpa [dropSteps?, missing] using dropped

theorem trimSegments_append
    {idle rest : List (List Char)}
    (allIdle : ∀ segment ∈ idle, isStep segment = false)
    (allSteps : ∀ segment ∈ rest, isStep segment = true) :
    trimSegments (idle ++ rest) = rest := by
  have opens : (idle ++ rest).dropWhile (!isStep ·) = rest := by
    rw [List.dropWhile_append_of_pos (by simpa using allIdle)]
    cases rest with
    | nil =>
        rfl
    | cons first others =>
        simp [allSteps first (List.mem_cons_self ..)]
  have ends : rest.reverse.dropWhile (!isStep ·) = rest.reverse := by
    cases shape : rest.reverse with
    | nil =>
        rfl
    | cons last others =>
        have isLast : last ∈ rest.reverse := shape ▸ List.mem_cons_self ..
        simp [allSteps last (List.mem_reverse.mp isLast)]
  rw [trimSegments, opens, ends, List.reverse_reverse]

/-- What is left of a tidy path below a directory is the path as it was written. -/
theorem relativeTo?_join
    {directory root below : Path}
    (absolute : directory.isAbsolute = true)
    (rootAbsolute : root.isAbsolute = true)
    (same : directory.components = root.components)
    (tidy : below.IsTidy) :
    (directory.join below).relativeTo? root = some below := by
  obtain ⟨front, joined, isFront⟩ :=
    exists_segments_of_relative (isEmpty_of_isAbsolute absolute) tidy.relative
  have rootSteps : root.components.tail = steps (segments front) := by
    rw [← same, components_of_isAbsolute absolute, List.tail_cons]
    rcases isFront with isWhole | endsInSlash
    · rw [isWhole]
    · rw [endsInSlash, steps_append]
      exact List.append_nil _
  obtain ⟨idle, allIdle, dropped⟩ :=
    exists_dropSteps?_append (segments front) (segments below.text.toList)
  rw [relativeTo?, isAbsolute_join absolute, rootAbsolute, rootSteps, joined, dropped]
  simp [trimSegments_append allIdle tidy, joinSegments_segments]

end UsageLint.Path
