import UsageLint.Glob.Discovery
import UsageLint.Proofs.CheckRuns
import UsageLint.Proofs.PathOrder

namespace UsageLint.Glob

open UsageLint.Files
open UsageLint.Text

/-!
# Source patterns

Sources are looked for by a directory, a run of components and a name with an
extension. The last step for such a pattern goes to everything below a directory
whose name ends in the extension, whatever the steps before it are.
-/

/-- A text without wildcards. -/
def IsPlain (text : List Char) : Prop :=
  ∀ character ∈ text, character ≠ '?' ∧ character ≠ '*' ∧ character ≠ '['

theorem isPlain_cons_dot
    {text : List Char}
    (plain : IsPlain text) :
    IsPlain ('.' :: text) := by
  intro character among
  rcases List.mem_cons.mp among with rfl | later
  · decide
  · exact plain character later

/-- The pattern that only one text matches. -/
def literally (text : List Char) : Pattern :=
  ⟨text.map .literal⟩

/-- The pattern of all names that end in a text. -/
def anyEndingIn (ending : List Char) : Pattern :=
  ⟨.anySequence :: ending.map .literal⟩

/-- The pattern of any run of components. -/
def anyRun : Pattern :=
  ⟨[.anyComponents]⟩

/-- A plain text is read letter by letter, wherever in a component it stands. -/
theorem tokensFrom_of_isPlain
    {text : List Char}
    (plain : IsPlain text)
    (opens : Bool) :
    tokensFrom opens text = .ok (text.map .literal) := by
  induction text generalizing opens with
  | nil =>
      rw [tokensFrom]
      rfl
  | cons character rest inductionHypothesis =>
      obtain ⟨isPlain, restPlain⟩ := List.forall_mem_cons.mp plain
      have later := inductionHypothesis restPlain (character == '/')
      rw [tokensFrom.eq_def]
      split <;> simp_all [Except.map]

/-- A plain text parses as the pattern of that text. -/
theorem parse_of_isPlain
    {text : List Char}
    (plain : IsPlain text) :
    Pattern.parse (String.ofList text) = .ok (literally text) := by
  rw [Pattern.parse, String.toList_ofList, tokensFrom_of_isPlain plain]
  rfl

/-- Two stars alone parse as the run over any components. -/
theorem parse_run : Pattern.parse (String.ofList ['*', '*']) = .ok anyRun := by
  rw [Pattern.parse, String.toList_ofList, tokensFrom]
  rfl

/-- A star before a plain ending is read as itself and then the letters of the ending. -/
theorem tokensFrom_anyEndingIn
    {ending : List Char}
    (plain : IsPlain ending)
    (opens : Bool) :
    tokensFrom opens ('*' :: ending) = .ok (anyEndingIn ending).tokens := by
  have later := tokensFrom_of_isPlain plain false
  cases ending with
  | nil =>
      rw [tokensFrom, later]
      · rfl
      · simp
      · simp
  | cons character rest =>
      have noStar : character ≠ '*' := (plain character (List.mem_cons_self ..)).2.1
      rw [tokensFrom, later]
      · rfl
      · simp [noStar]
      · simp [noStar]

/-- A star before a plain ending parses as the pattern of everything with that ending. -/
theorem parse_anyEndingIn
    {ending : List Char}
    (plain : IsPlain ending) :
    Pattern.parse (String.ofList ('*' :: ending)) = .ok (anyEndingIn ending) := by
  rw [Pattern.parse, String.toList_ofList, tokensFrom_anyEndingIn plain]

/-- Single characters match the start of a text, and what follows them the rest. -/
theorem matchesAll_literals_append
    (expected : List Char)
    (tokens : List Token)
    (text : List Char) :
    matchesAll (expected.map .literal ++ tokens) text = true ↔
      ∃ rest, text = expected ++ rest ∧ matchesAll tokens rest = true := by
  induction expected generalizing text with
  | nil =>
      simp
  | cons character others inductionHypothesis =>
      cases text with
      | nil =>
          simp [matchesAll, Token.leaves]
      | cons first later =>
          by_cases same : character = first
          · simp [matchesAll, Token.leaves, Token.admits, same, inductionHypothesis]
          · simp [matchesAll, Token.leaves, Token.admits, same, Ne.symm same]

/-- Literal tokens match their own text and no other. -/
theorem matchesAll_literals (expected text : List Char) :
    matchesAll (expected.map .literal) text = true ↔ text = expected := by
  have exactly := matchesAll_literals_append expected [] text
  rw [List.append_nil] at exactly
  rw [exactly]
  simp [matchesAll]

/-- After any components there may stand nothing, or whatever follows one of the slashes. -/
theorem mem_afterComponents_iff (text rest : List Char) :
    rest ∈ afterComponents text ↔ rest = [] ∨ ∃ before, text = before ++ '/' :: rest := by
  induction text with
  | nil =>
      simp [afterComponents]
  | cons character later inductionHypothesis =>
      have extended :
          (∃ before, character :: later = before ++ '/' :: rest) ↔
            (character = '/' ∧ later = rest) ∨
              ∃ before, later = before ++ '/' :: rest := by
        constructor
        · rintro ⟨before, split⟩
          cases before with
          | nil =>
              exact .inl (List.cons.inj split)
          | cons _ others =>
              exact .inr ⟨others, (List.cons.inj split).2⟩
        · rintro (⟨rfl, rfl⟩ | ⟨before, rfl⟩)
          · exact ⟨[], rfl⟩
          · exact ⟨character :: before, rfl⟩
      rw [extended, afterComponents]
      split
      · next isSlash =>
          rw [List.mem_cons, inductionHypothesis]
          simp only [isSlash, true_and, eq_comm (a := later)]
          tauto
      · next isNoSlash =>
          rw [inductionHypothesis]
          simp [isNoSlash]

/-- A name matches if it ends in the text. -/
theorem isMatch_anyEndingIn (ending name : List Char) :
    (anyEndingIn ending).isMatch name = true ↔ ending <:+ name := by
  rw [Pattern.isMatch_eq]
  simp [anyEndingIn, matchesAll, Token.leaves, matchesAll_literals, mem_suffixes,
    List.IsSuffix]

/-- A literal pattern gives its text back. -/
theorem literalText?_literally (text : List Char) :
    (literally text).literalText? = some text := by
  induction text with
  | nil =>
      rfl
  | cons character rest inductionHypothesis =>
      unfold Pattern.literalText? literally at inductionHypothesis ⊢
      rw [List.map_cons, List.mapM_cons, inductionHypothesis]
      rfl

/-- A literal component is entered by name and not searched for. -/
theorem ofComponent_literally (text : List Char) :
    Step.ofComponent (literally text) = .enter (String.ofList text) := by
  rw [Step.ofComponent, literalText?_literally]

/-- A component that is no run is one step of its own, put before the steps of the rest. -/
theorem ofComponents_cons_of_not_isRecursive
    {pattern : Pattern}
    (isNoRun : ¬ pattern.isRecursive = true)
    (rest : List Pattern) :
    Step.ofComponents (pattern :: rest) =
      Step.ofComponent pattern :: Step.ofComponents rest := by
  cases rest <;> simp [Step.ofComponents, isNoRun]

/-- A run of components joins the name that follows it, whatever comes before. -/
theorem exists_ofComponents_append
    {run named : Pattern}
    (isRun : run.isRecursive = true)
    (isNamed : named.isRecursive = false) :
    ∀ front : List Pattern,
      ∃ steps, Step.ofComponents (front ++ [run, named]) = steps ++ [.anywhere named]
  | [] =>
      ⟨[], by simp [Step.ofComponents, isRun, isNamed]⟩
  | pattern :: rest => by
      obtain ⟨steps, later⟩ := exists_ofComponents_append isRun isNamed rest
      by_cases recursive : pattern.isRecursive = true
      · cases rest with
        | nil =>
            exact ⟨[], by simp [Step.ofComponents, recursive, isRun, isNamed]⟩
        | cons next others =>
            by_cases nextRecursive : next.isRecursive = true
            · refine ⟨steps, ?_⟩
              simpa [Step.ofComponents, recursive, nextRecursive] using later
            · obtain ⟨steps, later⟩ := exists_ofComponents_append isRun isNamed others
              refine ⟨.anywhere next :: steps, ?_⟩
              simp [Step.ofComponents, recursive, nextRecursive, later]
      · refine ⟨Step.ofComponent pattern :: steps, ?_⟩
        rw [List.cons_append, ofComponents_cons_of_not_isRecursive recursive, later,
          List.cons_append]

/-- A pattern has steps if it is one as a whole and component by component. -/
theorem stepsOf_eq_ok_iff {pattern : String} {steps : List Step} :
    stepsOf pattern = .ok steps ↔
      (∃ whole, Pattern.parse pattern = .ok whole) ∧
        ∃ components,
          ((segments pattern.toList).tail.map fun segment =>
              Pattern.parse (String.ofList segment)) =
            components.map .ok ∧
          steps = Step.ofComponents components := by
  unfold stepsOf
  simp only [← mapM_eq_ok_iff]
  cases Pattern.parse pattern with
  | error cause =>
      simp [bind, Except.bind]
  | ok whole =>
      cases (segments pattern.toList).tail.mapM fun segment =>
          Pattern.parse (String.ofList segment) with
      | error cause =>
          simp [bind, Except.bind]
      | ok components =>
          simp [bind, Except.bind, pure, Except.pure, eq_comm]

section Named

variable
  {root extension : List Char}
  {pattern : String}
  (isPattern : pattern.toList = root ++ '/' :: '*' :: '*' :: '/' :: '*' :: '.' :: extension)
  (noSlash : '/' ∉ extension)

include isPattern noSlash

/-- A source pattern's segments are those of the root, then the run, then the extension. -/
theorem tail_segments_of_isPattern :
    (segments pattern.toList).tail =
      (segments root).tail ++ [['*', '*'], '*' :: '.' :: extension] := by
  have nameSegments :
      segments ('*' :: '*' :: '/' :: '*' :: '.' :: extension) =
        [['*', '*'], '*' :: '.' :: extension] := by
    have split := segments_append_slash ['*', '*'] ('*' :: '.' :: extension)
    rw [segments_of_noSlash (by simp : '/' ∉ ['*', '*']),
      segments_of_noSlash (by simp [noSlash] : '/' ∉ '*' :: '.' :: extension)] at split
    exact split
  rw [isPattern, segments_append_slash, nameSegments]
  exact List.tail_append_of_ne_nil (segments_ne_nil root)

/-- The last step goes to everything below whose name has the extension. -/
theorem exists_front_of_stepsOf
    (plain : IsPlain extension)
    {steps : List Step}
    (found : stepsOf pattern = .ok steps) :
    ∃ front, steps = front ++ [.anywhere (anyEndingIn ('.' :: extension))] := by
  obtain ⟨_, components, parsed, rfl⟩ := stepsOf_eq_ok_iff.mp found
  rw [tail_segments_of_isPattern isPattern noSlash, List.map_append] at parsed
  obtain ⟨front, last, rfl, _, isLast⟩ := List.append_eq_map_iff.mp parsed
  have endingPlain : IsPlain ('.' :: extension) := isPlain_cons_dot plain
  have lastTwo :
      last.map Except.ok =
        [anyRun, anyEndingIn ('.' :: extension)].map
          (Except.ok : Pattern → Except PatternError Pattern) := by
    rw [isLast]
    simp only [List.map_cons, List.map_nil, parse_run, parse_anyEndingIn endingPlain]
  rw [(List.map_inj_right fun _ _ => Except.ok.inj).mp lastTwo]
  apply exists_ofComponents_append
  · rfl
  · simp [Pattern.isRecursive, anyEndingIn]

end Named

namespace Spot

mutual

/-- What is below an entry is reached by its own name from an absolute path. -/
theorem exists_join_of_mem_belowEntry
    {named : String × Spot}
    {path : Path}
    (absolute : path.isAbsolute = true)
    {above : List Entry} :
    ∀ {entry : Entry},
      named ∈ belowEntry path above entry →
      ∃ directory : Path,
        directory.isAbsolute = true ∧ named.2.path = directory.join ⟨named.1⟩
  | .file _, among => by
      simp [belowEntry] at among
  | .directory entries, among => by
      rw [belowEntry] at among
      exact exists_join_of_mem_belowEntries absolute among

/-- Everything listed below the entries of a directory is at a path joined from an absolute one. -/
theorem exists_join_of_mem_belowEntries
    {named : String × Spot}
    {path : Path}
    (absolute : path.isAbsolute = true)
    {above : List Entry} :
    ∀ {entries : List (String × Entry)},
      named ∈ belowEntries path above entries →
      ∃ directory : Path,
        directory.isAbsolute = true ∧ named.2.path = directory.join ⟨named.1⟩
  | [], among => by
      simp [belowEntries] at among
  | (name, entry) :: rest, among => by
      rw [belowEntries, List.mem_cons, List.mem_append] at among
      rcases among with rfl | within | later
      · exact ⟨path, absolute, rfl⟩
      · exact exists_join_of_mem_belowEntry (Path.isAbsolute_join absolute _) within
      · exact exists_join_of_mem_belowEntries absolute later

end

/-- What lies below a spot with an absolute path has an absolute path. -/
theorem isAbsolute_of_mem_below
    {name : String}
    {spot next : Spot}
    (absolute : spot.path.isAbsolute = true)
    (among : (name, next) ∈ spot.below) :
    next.path.isAbsolute = true := by
  obtain ⟨directory, directoryAbsolute, reached⟩ :=
    exists_join_of_mem_belowEntry absolute among
  rw [reached]
  exact Path.isAbsolute_join directoryAbsolute _

/-- Entering a name from an absolute path leads to an absolute path. -/
theorem isAbsolute_of_enter?
    {spot next : Spot}
    {segment : String}
    (absolute : spot.path.isAbsolute = true)
    (entered : spot.enter? segment = some next) :
    next.path.isAbsolute = true := by
  rw [(enter?_eq_some_iff.mp entered).1]
  exact Path.isAbsolute_join absolute _

end Spot

namespace Step

/-- What a pattern keeps of named spots was among them, under a name that matches. -/
theorem exists_of_mem_matching
    {pattern : Pattern}
    {named : List (String × Spot)}
    {spot : Spot}
    (among : spot ∈ matching pattern named) :
    ∃ name, (name, spot) ∈ named ∧ pattern.isMatch name.toList = true := by
  obtain ⟨⟨name, _⟩, kept, rfl⟩ := List.mem_map.mp among
  exact ⟨name, List.mem_filter.mp kept⟩

/-- Steps lead from absolute paths to absolute paths. -/
theorem isAbsolute_of_mem_targets
    {step : Step}
    {spot next : Spot}
    (absolute : spot.path.isAbsolute = true)
    (among : next ∈ step.targets spot) :
    next.path.isAbsolute = true := by
  cases step with
  | enter segment =>
      exact Spot.isAbsolute_of_enter? absolute (Option.mem_toList.mp among)
  | among pattern =>
      rcases List.mem_append.mp among with isDots | isEntry
      · unfold dots at isDots
        split at isDots
        · obtain ⟨segment, _, entered⟩ := List.mem_filterMap.mp isDots
          exact Spot.isAbsolute_of_enter? absolute entered
        · cases isDots
      · obtain ⟨name, isNamed, _⟩ := exists_of_mem_matching isEntry
        unfold Spot.entries at isNamed
        split at isNamed
        · cases isNamed
        · obtain ⟨entry, _, same⟩ := List.mem_map.mp isNamed
          cases same
          exact Path.isAbsolute_join absolute _
  | anywhere pattern =>
      obtain ⟨name, isBelow, _⟩ := exists_of_mem_matching among
      exact Spot.isAbsolute_of_mem_below absolute isBelow
  | directories =>
      obtain ⟨⟨name, _⟩, isBelow, rfl⟩ := List.mem_map.mp (List.mem_filter.mp among).1
      exact Spot.isAbsolute_of_mem_below absolute isBelow

end Step

/-- Following one more step is taking that step from everywhere the earlier ones led. -/
theorem follow_append (top : Entry) (front : List Step) (step : Step) :
    follow top (front ++ [step]) = (follow top front).flatMap step.targets := by
  rw [follow, List.foldl_append]
  rfl

/-- All steps start at the top, so they lead to absolute paths only. -/
theorem isAbsolute_of_mem_follow
    {top : Entry}
    {steps : List Step} :
    ∀ spot ∈ follow top steps, spot.path.isAbsolute = true := by
  refine
    List.foldlRecOn
      (motive := fun spots : List Spot => ∀ spot ∈ spots, spot.path.isAbsolute = true)
      steps _ ?_ ?_
  · intro spot isTop
    rw [List.mem_singleton.mp isTop]
    exact Path.isAbsolute_slash
  · intro spots allAbsolute step _ next isNext
    obtain ⟨spot, isSpot, isTarget⟩ := List.mem_flatMap.mp isNext
    exact Step.isAbsolute_of_mem_targets (allAbsolute spot isSpot) isTarget

/-- Discovery succeeds exactly when the pattern is readable, and then lists where its steps lead. -/
theorem discover_eq_ok_iff {top : Entry} {pattern : String} {paths : List Path} :
    discover top pattern = .ok paths ↔
      ∃ steps, stepsOf pattern = .ok steps ∧ paths = (follow top steps).map (·.path) := by
  unfold discover
  cases stepsOf pattern with
  | error cause =>
      simp [bind, Except.bind]
  | ok steps =>
      simp [bind, Except.bind, pure, Except.pure, eq_comm]

/-- Discovered paths are absolute. -/
theorem isAbsolute_of_discover
    {top : Entry}
    {pattern : String}
    {paths : List Path}
    (discovered : discover top pattern = .ok paths)
    {path : Path}
    (among : path ∈ paths) :
    path.isAbsolute = true := by
  obtain ⟨steps, _, rfl⟩ := discover_eq_ok_iff.mp discovered
  obtain ⟨spot, isSpot, rfl⟩ := List.mem_map.mp among
  exact isAbsolute_of_mem_follow spot isSpot

/-- Discovered paths end in the extension that was looked for. -/
theorem suffix_of_discover
    {root extension : List Char}
    {pattern : String}
    (isPattern :
      pattern.toList = root ++ '/' :: '*' :: '*' :: '/' :: '*' :: '.' :: extension)
    (noSlash : '/' ∉ extension)
    (plain : IsPlain extension)
    {top : Entry}
    {paths : List Path}
    (discovered : discover top pattern = .ok paths)
    {path : Path}
    (among : path ∈ paths) :
    '.' :: extension <:+ path.text.toList := by
  obtain ⟨steps, isSteps, rfl⟩ := discover_eq_ok_iff.mp discovered
  obtain ⟨front, rfl⟩ := exists_front_of_stepsOf isPattern noSlash plain isSteps
  obtain ⟨spot, isSpot, rfl⟩ := List.mem_map.mp among
  rw [follow_append] at isSpot
  obtain ⟨earlier, isEarlier, isTarget⟩ := List.mem_flatMap.mp isSpot
  obtain ⟨name, isBelow, isMatch⟩ := Step.exists_of_mem_matching isTarget
  obtain ⟨directory, _, reached⟩ :=
    Spot.exists_join_of_mem_belowEntry (isAbsolute_of_mem_follow earlier isEarlier) isBelow
  rw [reached]
  exact ((isMatch_anyEndingIn _ _).mp isMatch).trans (Path.suffix_join directory ⟨name⟩)

end UsageLint.Glob
