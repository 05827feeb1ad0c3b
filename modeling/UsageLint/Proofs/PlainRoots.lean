import UsageLint.Proofs.DiscoveredPaths
import UsageLint.Proofs.FileTrees

namespace UsageLint.Glob

open UsageLint.Files
open UsageLint.Text

/-!
# Plain roots

A root without wildcards is entered segment by segment. So what is discovered for
an extension is what lies below the root under a name with the extension, be it a
file or a directory, and a path that was discovered leads back to what was found.
-/

theorem tokensFrom_append_of_isPlain
    {front : List Char}
    (plain : IsPlain front)
    {rest : List Char}
    {tokens : List Token}
    (later : tokensFrom true rest = .ok tokens)
    (opens : Bool) :
    tokensFrom opens (front ++ '/' :: rest) =
      .ok (front.map .literal ++ .literal '/' :: tokens) := by
  induction front generalizing opens with
  | nil =>
      rw [List.nil_append, tokensFrom.eq_def]
      simp [later, Except.map]
  | cons character others inductionHypothesis =>
      obtain ⟨isPlain, othersPlain⟩ := List.forall_mem_cons.mp plain
      have rest := inductionHypothesis othersPlain (character == '/')
      rw [List.cons_append, tokensFrom.eq_def]
      split <;> simp_all [Except.map]

theorem isPlain_of_subset
    {text part : List Char}
    (plain : IsPlain text)
    (subset : part ⊆ text) :
    IsPlain part := by
  intro character among
  exact plain character (subset among)

/-- Literal components are entered one by one, and a run before a name looks for it anywhere. -/
theorem ofComponents_literally_append
    {run named : Pattern}
    (isRun : run.isRecursive = true)
    (isNamed : named.isRecursive = false)
    (front : List (List Char)) :
    Step.ofComponents (front.map literally ++ [run, named]) =
      front.map (fun segment => .enter (String.ofList segment)) ++ [.anywhere named] := by
  induction front with
  | nil =>
      simp [Step.ofComponents, isRun, isNamed]
  | cons segment rest inductionHypothesis =>
      have isNoRun : ¬ (literally segment).isRecursive = true := by
        simp [Pattern.isRecursive, literally]
      rw [List.map_cons, List.cons_append, ofComponents_cons_of_not_isRecursive isNoRun,
        inductionHypothesis, ofComponent_literally]
      rfl

/-- Below a plain root, sources are looked for by entering it and looking everywhere. -/
theorem stepsOf_of_isPlain
    {root extension : List Char}
    {pattern : String}
    (isPattern :
      pattern.toList = root ++ '/' :: '*' :: '*' :: '/' :: '*' :: '.' :: extension)
    (rootPlain : IsPlain root)
    (noSlash : '/' ∉ extension)
    (plain : IsPlain extension) :
    stepsOf pattern =
      .ok
        ((segments root).tail.map (fun segment => .enter (String.ofList segment)) ++
          [.anywhere (anyEndingIn ('.' :: extension))]) := by
  have endingPlain : IsPlain ('.' :: extension) := isPlain_cons_dot plain
  rw [stepsOf_eq_ok_iff]
  constructor
  · have run :
        tokensFrom true ('*' :: '*' :: '/' :: '*' :: '.' :: extension) =
          .ok (.anyComponents :: (anyEndingIn ('.' :: extension)).tokens) := by
      rw [tokensFrom]
      simp [tokensFrom_anyEndingIn endingPlain, Except.map]
    rw [Pattern.parse, isPattern, tokensFrom_append_of_isPlain rootPlain run]
    exact ⟨_, rfl⟩
  · refine
      ⟨(segments root).tail.map literally ++ [anyRun, anyEndingIn ('.' :: extension)],
        ?_, ?_⟩
    · rw [tail_segments_of_isPattern isPattern noSlash, List.map_append, List.map_append]
      congr 1
      · rw [List.map_map]
        apply List.map_congr_left
        intro segment among
        apply parse_of_isPlain
        apply isPlain_of_subset rootPlain
        exact subset_of_mem_segments (List.mem_of_mem_tail among)
      · simp only [List.map_cons, List.map_nil, parse_run, parse_anyEndingIn endingPlain]
    · rw [ofComponents_literally_append]
      · rfl
      · simp [Pattern.isRecursive, anyEndingIn]

/-- Where a root leads, entered segment by segment. -/
def rootSpot? (top : Entry) (root : Path) : Option Spot :=
  (segments root.text.toList).tail.foldlM
    (fun spot segment => spot.enter? (String.ofList segment))
    (Spot.top top)

/-- Everything below a root, each with its own name. -/
def belowRoot (top : Entry) (root : Path) : List (String × Spot) :=
  (rootSpot? top root).toList.flatMap Spot.below

/-- Entering segments one after another leads to where the path of the last spot leads. -/
theorem isFound_of_foldlM
    {top : Entry}
    {front : List (List Char)}
    (noSlash : ∀ segment ∈ front, '/' ∉ segment)
    {start spot : Spot}
    (isFound : start.IsFound top)
    (entered :
      front.foldlM (fun spot segment => spot.enter? (String.ofList segment)) start =
        some spot) :
    spot.IsFound top := by
  induction front generalizing start with
  | nil =>
      cases entered
      exact isFound
  | cons segment rest inductionHypothesis =>
      rw [List.forall_mem_cons] at noSlash
      rw [List.foldlM_cons] at entered
      obtain ⟨next, first, later⟩ := Option.bind_eq_some_iff.mp entered
      apply inductionHypothesis noSlash.2 _ later
      apply isFound.enter? _ first
      rw [String.toList_ofList]
      exact noSlash.1

/-- An absolute root leads to where it is found, if it leads anywhere. -/
theorem isFound_of_rootSpot?
    {top : Entry}
    (wellFormed : top.IsWellFormed)
    {root : Path}
    (absolute : root.isAbsolute = true)
    {spot : Spot}
    (entered : rootSpot? top root = some spot) :
    spot.IsFound top := by
  have noSlash : ∀ segment ∈ (segments root.text.toList).tail, '/' ∉ segment := by
    intro segment among
    exact noSlash_of_mem_segments (List.mem_of_mem_tail among)
  cases top with
  | directory entries =>
      exact isFound_of_foldlM noSlash (Spot.isFound_top wellFormed) entered
  | file content =>
      -- An absolute path has a segment to enter, and a file cannot be entered.
      obtain ⟨rest, shape⟩ := Path.segments_of_isAbsolute absolute
      rw [rootSpot?, shape, List.tail_cons] at entered
      cases others : segments rest with
      | nil =>
          exact absurd others (segments_ne_nil rest)
      | cons segment later =>
          rw [others] at entered
          cases entered

/-- What lies below the root is where its path leads. -/
theorem isFound_of_mem_belowRoot
    {top : Entry}
    (wellFormed : top.IsWellFormed)
    {root : Path}
    (absolute : root.isAbsolute = true)
    {named : String × Spot}
    (among : named ∈ belowRoot top root) :
    named.2.IsFound top := by
  obtain ⟨spot, isRoot, isBelow⟩ := List.mem_flatMap.mp among
  have rootFound := isFound_of_rootSpot? wellFormed absolute (Option.mem_toList.mp isRoot)
  exact rootFound.below isBelow

theorem foldl_enter
    (start : Option Spot)
    (front : List (List Char)) :
    (front.map fun segment => Step.enter (String.ofList segment)).foldl
        (fun spots step => spots.flatMap step.targets) start.toList =
      (start.bind fun spot =>
        front.foldlM (fun spot segment => spot.enter? (String.ofList segment)) spot).toList := by
  induction front generalizing start with
  | nil =>
      simp [List.foldlM]
  | cons segment rest inductionHypothesis =>
      have entered :
          start.toList.flatMap (Step.enter (String.ofList segment)).targets =
            (start.bind fun spot => spot.enter? (String.ofList segment)).toList := by
        cases start <;> simp [Step.targets]
      rw [List.map_cons, List.foldl_cons, entered, inductionHypothesis, Option.bind_assoc]
      rfl

theorem follow_enter (top : Entry) (root : Path) :
    follow top
        ((segments root.text.toList).tail.map fun segment =>
          .enter (String.ofList segment)) =
      (rootSpot? top root).toList :=
  foldl_enter (some (Spot.top top)) _

/-- Whether a name ends in an extension. -/
def hasExtension (name extension : String) : Bool :=
  ('.' :: extension.toList).isSuffixOf name.toList

/-- What is discovered below a plain root is what has the extension. -/
theorem discover_of_isPlain
    {root : Path}
    {extension pattern : String}
    (isPattern :
      pattern.toList =
        root.text.toList ++ '/' :: '*' :: '*' :: '/' :: '*' :: '.' :: extension.toList)
    (rootPlain : IsPlain root.text.toList)
    (noSlash : '/' ∉ extension.toList)
    (plain : IsPlain extension.toList)
    (top : Entry) :
    discover top pattern =
      .ok
        (((belowRoot top root).filter fun named => hasExtension named.1 extension).map
          fun named => named.2.path) := by
  have isMatch :
      ∀ name : String,
        (anyEndingIn ('.' :: extension.toList)).isMatch name.toList =
          hasExtension name extension := by
    intro name
    rw [Bool.eq_iff_iff, isMatch_anyEndingIn, hasExtension, List.isSuffixOf_iff_suffix]
  rw [discover_eq_ok_iff]
  refine ⟨_, stepsOf_of_isPlain isPattern rootPlain noSlash plain, ?_⟩
  rw [follow_append, follow_enter, belowRoot, List.filter_flatMap, List.map_flatMap,
    List.map_flatMap]
  simp only [Step.targets, Step.matching, isMatch, List.map_map]
  rfl

/-- No two spots below the root have paths that compare as equal. -/
theorem pairwise_belowRoot
    {top : Entry}
    (wellFormed : top.IsWellFormed)
    {root : Path}
    (absolute : root.isAbsolute = true) :
    (belowRoot top root).Pairwise fun left right =>
      left.2.path.compare right.2.path ≠ .eq := by
  unfold belowRoot
  cases entered : rootSpot? top root with
  | none =>
      exact List.Pairwise.nil
  | some spot =>
      have rootFound := isFound_of_rootSpot? wellFormed absolute entered
      simpa using rootFound.pairwise_below

end UsageLint.Glob

namespace UsageLint.Linter

open UsageLint.Files
open UsageLint.Glob

variable {linter : Linter} {workspace : Workspace}

/-- What is found for an extension below a plain root. -/
theorem discover_patternFor
    (plain : IsPlain linter.root.text.toList)
    {extension : String}
    (isExtension : extension ∈ Syntax.Dialect.extensions) :
    Glob.discover workspace.files (linter.patternFor extension) =
      .ok
        (((belowRoot workspace.files linter.root).filter fun named =>
            hasExtension named.1 extension).map fun named => named.2.path) := by
  obtain ⟨extensionPlain, noSlash, _, _⟩ := extension_isPlain extension isExtension
  exact discover_of_isPlain (toList_patternFor linter extension) plain noSlash
    extensionPlain workspace.files

/-- Below a plain root no path is found twice. -/
theorem findsEachOnce_of_isPlain
    (absolute : linter.root.isAbsolute = true)
    (plain : IsPlain linter.root.text.toList)
    (wellFormed : workspace.files.IsWellFormed) :
    linter.FindsEachOnce workspace := by
  intro extension isExtension found discovered
  rw [discover_patternFor plain isExtension] at discovered
  cases discovered
  rw [List.pairwise_map]
  exact (pairwise_belowRoot wellFormed absolute).filter _

end UsageLint.Linter
