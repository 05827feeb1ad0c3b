import UsageLint.Path
import UsageLint.Proofs.StableSort

namespace UsageLint.Path

open UsageLint.Text

/-!
# The order of paths

Paths are ordered as the lists of their components are, and components of one
sort as lists of characters. Below one directory the order is that of what is
left of the paths there, because what is left has all components but those of
the directory.
-/

namespace Component

/-- The characters of a name; the other steps have none. -/
def spelling : Component → List Char
  | name segment => segment
  | _ => []

/-- Components compare by their rank first and then by their spelling. -/
theorem compare_eq_compareLex :
    Component.compare =
      compareLex (compareOn rank) fun left right =>
        compareOfLessAndEq left.spelling right.spelling := by
  funext left right
  cases left <;> cases right <;> rfl

instance : Std.TransCmp fun left right : List Char => compareOfLessAndEq left right := by
  apply Std.TransOrd.compareOfLessAndEq_of_lt_trans_of_lt_iff
  · intro first second third
    exact List.lt_trans
  · intro first second
    constructor
    · intro before
      refine ⟨List.lt_asymm before, ?_⟩
      rintro rfl
      exact List.lt_irrefl first before
    · rintro ⟨notAfter, differ⟩
      apply Classical.byContradiction
      intro notBefore
      exact differ (List.le_antisymm (List.not_lt.mp notAfter) (List.not_lt.mp notBefore))

instance : Std.TransCmp Component.compare := by
  have spellings :
      Std.TransCmp fun left right : Component =>
        compareOfLessAndEq left.spelling right.spelling :=
    transCmp_on (fun first second : List Char => compareOfLessAndEq first second) spelling
  rw [compare_eq_compareLex]
  infer_instance

/-- Steps that are neither before nor after one another are the same step. -/
instance : Std.LawfulEqCmp Component.compare where
  compare_self {step} := by
    cases step <;> simp [Component.compare, compareOfLessAndEq]
  eq_of_compare {left right} same := by
    cases left with
    | name first =>
        cases right with
        | name second =>
            have equal : first = second := by
              simp only [Component.compare, compareOfLessAndEq] at same
              split at same
              · cases same
              · split at same
                · assumption
                · cases same
            rw [equal]
        | root | current | parent =>
            cases same
    | root | current | parent =>
        cases right <;> first | rfl | cases same

end Component

/-- Paths compare as lists do, by the first components that differ. -/
theorem compareComponents_eq :
    compareComponents = List.compareLex Component.compare := by
  funext left right
  induction left generalizing right with
  | nil =>
      cases right <;> rfl
  | cons step rest inductionHypothesis =>
      cases right with
      | nil =>
          rfl
      | cons other others =>
          rw [compareComponents, inductionHypothesis, List.compareLex_cons_cons]

instance : Std.TransCmp Path.compare where
  eq_swap {left right} := by
    simp only [Path.compare, compareComponents_eq]
    exact Std.OrientedCmp.eq_swap
  isLE_trans {left middle right} := by
    simp only [Path.compare, compareComponents_eq]
    exact Std.TransCmp.isLE_trans

/-- Paths are equal in order if they have the same components. -/
theorem compare_eq_eq_iff (left right : Path) :
    left.compare right = .eq ↔ left.components = right.components := by
  simp only [Path.compare, compareComponents_eq, Std.LawfulEqCmp.compare_eq_iff_eq]

/-- The steps that segments stand for, away from the start of a path. -/
def steps (segments : List (List Char)) : List Component :=
  segments.filterMap Component.ofSegment?

/-- Paths that compare as equal end in the same file name. -/
theorem fileName?_eq_of_compare
    {left right : Path}
    (same : left.compare right = .eq) :
    left.fileName? = right.fileName? := by
  rw [fileName?, fileName?, (compare_eq_eq_iff left right).mp same]

theorem steps_append (first second : List (List Char)) :
    steps (first ++ second) = steps first ++ steps second :=
  List.filterMap_append

/-- A segment that is a step gives its component. -/
theorem steps_cons_of_isStep
    {segment : List Char}
    (isStep : Path.isStep segment = true)
    (rest : List (List Char)) :
    ∃ step,
      Component.ofSegment? segment = some step ∧
        steps (segment :: rest) = step :: steps rest := by
  obtain ⟨step, found⟩ := Option.isSome_iff_exists.mp isStep
  exact ⟨step, found, List.filterMap_cons_some found⟩

/-- A segment that is no step, empty or a single dot, gives nothing. -/
theorem steps_cons_of_not_isStep
    {segment : List Char}
    (isNoStep : Path.isStep segment = false)
    (rest : List (List Char)) :
    steps (segment :: rest) = steps rest := by
  have missing : Component.ofSegment? segment = none := by
    simpa [Path.isStep] using isNoStep
  exact List.filterMap_cons_none missing

/-- An absolute path opens with an empty segment. -/
theorem segments_of_isAbsolute
    {path : Path}
    (absolute : path.isAbsolute = true) :
    ∃ rest, segments path.text.toList = [] :: segments rest := by
  unfold isAbsolute at absolute
  cases shape : path.text.toList with
  | nil =>
      simp [shape] at absolute
  | cons character rest =>
      have isSlash : character = '/' := by simpa [shape] using absolute
      exact ⟨rest, by simp [segments, isSlash]⟩

theorem isAbsolute_slash : isAbsolute ⟨"/"⟩ = true := by
  decide

theorem isEmpty_of_isAbsolute
    {path : Path}
    (absolute : path.isAbsolute = true) :
    path.text.isEmpty = false := by
  rw [String.isEmpty_eq_false_iff]
  intro isEmpty
  rw [isAbsolute, isEmpty] at absolute
  cases absolute

/-- What is put below an absolute directory is absolute. -/
theorem isAbsolute_join
    {directory : Path}
    (absolute : directory.isAbsolute = true)
    (path : Path) :
    (directory.join path).isAbsolute = true := by
  have opens : directory.text.toList.head? = some '/' := by
    simpa [isAbsolute] using absolute
  unfold join
  rw [isEmpty_of_isAbsolute absolute, Bool.or_false]
  split
  · assumption
  · split <;> simp [isAbsolute, List.head?_append, opens]

/-- A relative path is put behind a slash, of which the directory may bring its own. -/
theorem exists_front_of_relative
    {directory below : Path}
    (nonempty : directory.text.isEmpty = false)
    (relative : below.isAbsolute = false) :
    ∃ front,
      (directory.join below).text.toList = front ++ '/' :: below.text.toList ∧
        (directory.text.toList = front ∨ directory.text.toList = front ++ ['/']) := by
  unfold join
  rw [relative, nonempty]
  simp only [Bool.or_self, Bool.false_eq_true, if_false]
  split
  next endsInSlash =>
    obtain ⟨front, shape⟩ := List.getLast?_eq_some_iff.mp endsInSlash
    exact ⟨front, by simp [shape], Or.inr shape⟩
  next =>
    exact ⟨directory.text.toList, by simp, Or.inl rfl⟩

/-- A segment without slashes is a relative path. -/
theorem isAbsolute_of_noSlash
    {segment : String}
    (noSlash : '/' ∉ segment.toList) :
    isAbsolute ⟨segment⟩ = false := by
  rw [isAbsolute, beq_eq_false_iff_ne]
  intro opens
  exact noSlash (List.mem_of_mem_head? opens)

/--
Joining writes a slash and the segment, behind the directory or behind a slash it had already.
-/
theorem exists_front_of_join
    {directory : Path}
    (absolute : directory.isAbsolute = true)
    {segment : String}
    (noSlash : '/' ∉ segment.toList) :
    ∃ front,
      (directory.join ⟨segment⟩).text.toList = front ++ '/' :: segment.toList ∧
        (directory.text.toList = front ∨ directory.text.toList = front ++ ['/']) :=
  exists_front_of_relative (isEmpty_of_isAbsolute absolute) (isAbsolute_of_noSlash noSlash)

/-- What is put below a directory ends as it was written. -/
theorem suffix_join (directory path : Path) :
    path.text.toList <:+ (directory.join path).text.toList := by
  unfold join
  split
  · exact List.suffix_refl _
  · split
    · rw [String.toList_append]
      exact List.suffix_append ..
    · rw [String.toList_append]
      exact List.suffix_append ..

/-- The components of an absolute path are the root and its steps. -/
theorem components_of_isAbsolute
    {path : Path}
    (absolute : path.isAbsolute = true) :
    path.components = .root :: steps (segments path.text.toList) := by
  obtain ⟨rest, shape⟩ := segments_of_isAbsolute absolute
  unfold components
  rw [shape]
  cases others : segments rest with
  | nil =>
      exact absurd others (segments_ne_nil rest)
  | cons first others =>
      rfl

/-- A segment with a letter other than a dot is the component of that name. -/
theorem ofSegment?_of_letter
    {segment : List Char}
    (letter : ∃ character ∈ segment, character ≠ '.') :
    Component.ofSegment? segment = some (.name segment) := by
  unfold Component.ofSegment?
  split <;> simp_all

/-- An absolute path that ends in an extension names a file that does. -/
theorem exists_fileName_of_suffix
    {path : Path}
    (absolute : path.isAbsolute = true)
    {extension : List Char}
    (noSlash : '/' ∉ extension)
    (letter : ∃ character ∈ extension, character ≠ '.')
    (ends : '.' :: extension <:+ path.text.toList) :
    ∃ name, path.fileName? = some name ∧ '.' :: extension <:+ name := by
  obtain ⟨front, split⟩ := ends
  obtain ⟨before, name, shape, nameEnds⟩ :=
    exists_last_segment (by simp [noSlash] : '/' ∉ '.' :: extension) front
  obtain ⟨character, among, isLetter⟩ := letter
  have isName : Component.ofSegment? name = some (.name name) :=
    ofSegment?_of_letter
      ⟨character, nameEnds.subset (List.mem_cons_of_mem _ among), isLetter⟩
  have components : path.components = .root :: steps before ++ [.name name] := by
    rw [components_of_isAbsolute absolute, ← split, shape, steps_append]
    simp [steps, isName]
  refine ⟨name, ?_, nameEnds⟩
  rw [fileName?, components, List.getLast?_concat]

/-- A path that opens with a step has the components that its segments stand for. -/
theorem components_of_isStep
    {path : Path}
    {first : List Char}
    {others : List (List Char)}
    (shape : segments path.text.toList = first :: others)
    (isStep : Path.isStep first = true) :
    path.components = steps (first :: others) := by
  obtain ⟨step, found, stepsEq⟩ := steps_cons_of_isStep isStep others
  have nonempty : first ≠ [] := by
    rintro rfl
    cases isStep
  have noDot : first ≠ ['.'] := by
    rintro rfl
    cases isStep
  unfold components
  rw [shape, stepsEq]
  simp only [found]
  split
  · exact absurd rfl nonempty
  · exact absurd rfl nonempty
  · exact absurd rfl noDot
  · rfl

/-- A relative path below a directory has the segments of both, but for an idle one. -/
theorem exists_segments_of_relative
    {directory below : Path}
    (nonempty : directory.text.isEmpty = false)
    (relative : below.isAbsolute = false) :
    ∃ front,
      segments (directory.join below).text.toList =
          segments front ++ segments below.text.toList ∧
        (segments directory.text.toList = segments front ∨
          segments directory.text.toList = segments front ++ [[]]) := by
  obtain ⟨front, joined, isFront⟩ := exists_front_of_relative nonempty relative
  refine ⟨front, by rw [joined, segments_append_slash], ?_⟩
  rcases isFront with isWhole | endsInSlash
  · exact Or.inl (by rw [isWhole])
  · exact Or.inr (by rw [endsInSlash, segments_append_slash]; rfl)

/-- What is put below an absolute directory goes on where the directory ends. -/
theorem components_join_of_relative
    {directory below : Path}
    (absolute : directory.isAbsolute = true)
    (relative : below.isAbsolute = false) :
    (directory.join below).components =
      directory.components ++ steps (segments below.text.toList) := by
  obtain ⟨front, joined, isFront⟩ :=
    exists_segments_of_relative (isEmpty_of_isAbsolute absolute) relative
  have sameSteps : steps (segments directory.text.toList) = steps (segments front) := by
    rcases isFront with isWhole | endsInSlash
    · rw [isWhole]
    · rw [endsInSlash, steps_append]
      exact List.append_nil _
  rw [components_of_isAbsolute (isAbsolute_join absolute _),
    components_of_isAbsolute absolute, joined, steps_append, sameSteps]
  rfl

/-- Joining a segment adds its step to the components of the directory. -/
theorem components_join
    {directory : Path}
    (absolute : directory.isAbsolute = true)
    {segment : String}
    (noSlash : '/' ∉ segment.toList) :
    (directory.join ⟨segment⟩).components =
      directory.components ++ steps [segment.toList] := by
  rw [components_join_of_relative absolute (isAbsolute_of_noSlash noSlash),
    segments_of_noSlash noSlash]

/-- Dropping leading segments that are no steps keeps the steps. -/
theorem steps_dropWhile (segments : List (List Char)) :
    steps (segments.dropWhile (!Path.isStep ·)) = steps segments := by
  induction segments with
  | nil =>
      rfl
  | cons segment rest inductionHypothesis =>
      by_cases isStep : Path.isStep segment = true
      · simp [isStep]
      · rw [Bool.not_eq_true] at isStep
        simp [isStep, inductionHypothesis, steps_cons_of_not_isStep isStep]

/-- The steps of reversed segments are the reversed steps. -/
theorem steps_reverse (segments : List (List Char)) :
    steps segments.reverse = (steps segments).reverse :=
  List.filterMap_reverse

/-- Trimming segments at both ends keeps the steps. -/
theorem steps_trimSegments (segments : List (List Char)) :
    steps (trimSegments segments) = steps segments := by
  simp only [trimSegments, steps_reverse, steps_dropWhile, List.reverse_reverse]

/-- What is left after trimming opens with a step. -/
theorem isStep_of_trimSegments
    {segments rest : List (List Char)}
    {first : List Char}
    (trimmed : trimSegments segments = first :: rest) :
    Path.isStep first = true := by
  have opens :
      ∀ later,
        segments.dropWhile (!Path.isStep ·) = first :: later →
        Path.isStep first = true := by
    intro later shape
    have notDropped := List.head?_dropWhile_not (!Path.isStep ·) segments
    rw [shape] at notDropped
    simpa using notDropped
  have isPrefix :
      trimSegments segments <+: segments.dropWhile (!Path.isStep ·) := by
    have isSuffix :=
      List.dropWhile_suffix (!Path.isStep ·)
        (l := (segments.dropWhile (!Path.isStep ·)).reverse)
    simpa [trimSegments] using List.reverse_prefix.mpr isSuffix
  rw [trimmed] at isPrefix
  obtain ⟨later, shape⟩ := isPrefix
  exact opens (rest ++ later) (by rw [← shape]; rfl)

/-- What is left after dropping steps has all the steps but these. -/
theorem steps_of_dropSteps?
    {dropped : List Component}
    {segments left : List (List Char)}
    (found : dropSteps? dropped segments = some left) :
    steps segments = dropped ++ steps left := by
  fun_induction dropSteps? dropped segments with
  | case1 segments =>
      cases found
      rfl
  | case2 =>
      cases found
  | case3 step others segment segments isNoStep inductionHypothesis =>
      have skipped : Path.isStep segment = false := by
        simp [Path.isStep, isNoStep]
      rw [steps_cons_of_not_isStep skipped]
      exact inductionHypothesis found
  | case4 others segment segments step isStep inductionHypothesis =>
      rw [steps, List.filterMap_cons_some isStep]
      exact congrArg (step :: ·) (inductionHypothesis found)
  | case5 =>
      cases found

/-- Steps that segments open with can be dropped. -/
theorem exists_dropSteps?_of_steps
    {dropped rest : List Component}
    {segments : List (List Char)}
    (opens : steps segments = dropped ++ rest) :
    ∃ left, dropSteps? dropped segments = some left := by
  fun_induction dropSteps? dropped segments with
  | case1 segments =>
      exact ⟨segments, rfl⟩
  | case2 =>
      cases opens
  | case3 step others segment segments isNoStep inductionHypothesis =>
      have skipped : Path.isStep segment = false := by
        simp [Path.isStep, isNoStep]
      rw [steps_cons_of_not_isStep skipped] at opens
      exact inductionHypothesis opens
  | case4 others segment segments step isStep inductionHypothesis =>
      rw [steps, List.filterMap_cons_some isStep] at opens
      exact inductionHypothesis (List.cons.inj opens).2
  | case5 step others segment segments found isStep differs =>
      rw [steps, List.filterMap_cons_some isStep] at opens
      exact (differs (List.cons.inj opens).1).elim

/-- Dropping a prefix leaves a suffix of the segments. -/
theorem suffix_of_dropSteps?
    {dropped : List Component}
    {segments left : List (List Char)}
    (found : dropSteps? dropped segments = some left) :
    left <:+ segments := by
  fun_induction dropSteps? dropped segments with
  | case1 segments =>
      cases found
      exact List.suffix_refl _
  | case2 | case5 =>
      cases found
  | case3 _ _ _ _ _ inductionHypothesis =>
      exact (inductionHypothesis found).trans (List.suffix_cons ..)
  | case4 _ _ _ _ _ inductionHypothesis =>
      exact (inductionHypothesis found).trans (List.suffix_cons ..)

/-- Trimming leaves segments in their order. -/
theorem sublist_trimSegments (segments : List (List Char)) :
    (trimSegments segments).Sublist segments := by
  unfold trimSegments
  have inner := List.dropWhile_sublist (!Path.isStep ·) (l := segments)
  have outer :=
    List.dropWhile_sublist (!Path.isStep ·)
      (l := (segments.dropWhile (!Path.isStep ·)).reverse)
  exact (List.reverse_sublist.mp (by simpa using outer)).trans inner

/-- Only the start of a path stands for the root. -/
theorem root_not_mem_steps (segments : List (List Char)) :
    .root ∉ steps segments := by
  intro among
  obtain ⟨segment, _, found⟩ := List.mem_filterMap.mp among
  unfold Component.ofSegment? at found
  split at found <;> cases found

/-- Segments put together, of which the first is a step, are read as their steps. -/
theorem components_joinSegments
    {first : List Char}
    {others : List (List Char)}
    (isStep : Path.isStep first = true)
    (noSlash : ∀ segment ∈ first :: others, '/' ∉ segment) :
    components ⟨String.ofList (joinSegments (first :: others))⟩ =
      steps (first :: others) := by
  apply components_of_isStep _ isStep
  rw [String.toList_ofList]
  exact segments_joinSegments (by simp) noSlash

/--
A relative path has no other components than steps away from the start, and they
go on where the components of the directory end.
-/
theorem components_relativeTo?
    {path directory relative : Path}
    (found : path.relativeTo? directory = some relative) :
    path.components = directory.components ++ relative.components ∧
      .root ∉ relative.components := by
  unfold relativeTo? at found
  split at found
  case isFalse =>
    cases found
  next absolute =>
    rw [Bool.and_eq_true] at absolute
    obtain ⟨left, dropped, rfl⟩ := Option.map_eq_some_iff.mp found
    have noSlash : ∀ segment ∈ trimSegments left, '/' ∉ segment := by
      intro segment among
      have fromPath : segment ∈ segments path.text.toList :=
        (suffix_of_dropSteps? dropped).subset
          ((sublist_trimSegments left).subset among)
      exact noSlash_of_mem_segments fromPath
    have relativeSteps :
        components ⟨String.ofList (joinSegments (trimSegments left))⟩ = steps left := by
      rw [← steps_trimSegments left]
      cases trimmed : trimSegments left with
      | nil =>
          rfl
      | cons first others =>
          exact components_joinSegments (isStep_of_trimSegments trimmed)
            (trimmed ▸ noSlash)
    rw [relativeSteps]
    constructor
    · rw [components_of_isAbsolute absolute.1, components_of_isAbsolute absolute.2,
        List.cons_append, steps_of_dropSteps? dropped,
        components_of_isAbsolute absolute.2, List.tail_cons]
    · exact root_not_mem_steps left

/-- A path that is not absolute does not have the root among its components. -/
theorem root_not_mem_of_relative
    {path : Path}
    (relative : path.isAbsolute = false) :
    .root ∉ path.components := by
  cases text : path.text.toList with
  | nil =>
      simp [components, text, segments]
  | cons character rest =>
      have noSlash : character ≠ '/' := by
        rintro rfl
        simp [isAbsolute, text] at relative
      obtain ⟨first, others, _, shape⟩ := exists_segments_cons noSlash rest
      cases isStep : Path.isStep (character :: first) with
      | true =>
          rw [← text] at shape
          rw [components_of_isStep shape isStep]
          exact root_not_mem_steps _
      | false =>
          have isDot : character :: first = ['.'] := by
            unfold Path.isStep Component.ofSegment? at isStep
            split at isStep <;> simp_all
          have inSteps := root_not_mem_steps others
          unfold components
          rw [text, shape, isDot]
          simpa [steps] using inSteps

/-- Something is left of an absolute path below a directory that it opens with. -/
theorem exists_relativeTo?_of_prefix
    {path directory : Path}
    (absolute : path.isAbsolute = true)
    (opens : directory.components <+: path.components)
    (nonempty : directory.components ≠ []) :
    ∃ relative, path.relativeTo? directory = some relative := by
  obtain ⟨rest, shape⟩ := opens
  rw [components_of_isAbsolute absolute] at shape
  cases directoryAbsolute : directory.isAbsolute with
  | false =>
      -- The first component of the path is the root, and the directory has no root.
      obtain ⟨first, others, isFirst⟩ := List.exists_cons_of_ne_nil nonempty
      rw [isFirst, List.cons_append, List.cons.injEq] at shape
      have isRoot : .root ∈ directory.components := by
        rw [isFirst, shape.1]
        exact List.mem_cons_self ..
      exact (root_not_mem_of_relative directoryAbsolute isRoot).elim
  | true =>
      rw [components_of_isAbsolute directoryAbsolute] at shape
      obtain ⟨left, dropped⟩ := exists_dropSteps?_of_steps (List.cons.inj shape).2.symm
      rw [relativeTo?, absolute, directoryAbsolute,
        components_of_isAbsolute directoryAbsolute, List.tail_cons, dropped]
      exact ⟨_, rfl⟩

end UsageLint.Path
