namespace UsageLint.Text

/-!
# Segments

The slash-separated segments of a text. There is always one segment more than
there are slashes, so a text can be put together again from its segments.
-/

/-- The segments between slashes; empty ones are kept. -/
def segments : List Char → List (List Char)
  | [] => [[]]
  | character :: rest =>
      if character = '/' then
        [] :: segments rest
      else
        match segments rest with
        | [] => [[character]]
        | first :: others => (character :: first) :: others

/-- Put segments together with a slash between neighbours. -/
def joinSegments : List (List Char) → List Char
  | [] => []
  | [segment] => segment
  | segment :: others => segment ++ '/' :: joinSegments others

/-- A text has at least one segment. -/
theorem segments_ne_nil (text : List Char) : segments text ≠ [] := by
  cases text with
  | nil =>
      simp [segments]
  | cons character rest =>
      unfold segments
      split
      · simp
      · split <;> simp

@[simp] theorem segments_slash (rest : List Char) :
    segments ('/' :: rest) = [] :: segments rest :=
  rfl

/-- Any other character than a slash goes to the first segment. -/
theorem exists_segments_cons
    {character : Char}
    (isNoSlash : character ≠ '/')
    (rest : List Char) :
    ∃ first others,
      segments rest = first :: others ∧
        segments (character :: rest) = (character :: first) :: others := by
  obtain ⟨first, others, shape⟩ := List.exists_cons_of_ne_nil (segments_ne_nil rest)
  exact ⟨first, others, shape, by simp [segments, isNoSlash, shape]⟩

theorem joinSegments_cons
    {others : List (List Char)}
    (segment : List Char)
    (nonempty : others ≠ []) :
    joinSegments (segment :: others) = segment ++ '/' :: joinSegments others := by
  cases others with
  | nil =>
      exact (nonempty rfl).elim
  | cons _ _ =>
      rfl

theorem joinSegments_cons_cons
    (character : Char)
    (segment : List Char)
    (others : List (List Char)) :
    joinSegments ((character :: segment) :: others) =
      character :: joinSegments (segment :: others) := by
  cases others <;> rfl

/-- The segments of a text rebuild it. -/
theorem joinSegments_segments
    (text : List Char) :
    joinSegments (segments text) = text := by
  induction text with
  | nil =>
      rfl
  | cons character rest inductionHypothesis =>
      by_cases isSlash : character = '/'
      · rw [isSlash, segments_slash, joinSegments_cons _ (segments_ne_nil rest),
          inductionHypothesis, List.nil_append]
      · obtain ⟨first, others, shape, extended⟩ := exists_segments_cons isSlash rest
        rw [extended, joinSegments_cons_cons, ← shape, inductionHypothesis]

/-- Two runs of segments are put together with one slash between them. -/
theorem joinSegments_append
    {front back : List (List Char)}
    (frontNonempty : front ≠ [])
    (backNonempty : back ≠ []) :
    joinSegments (front ++ back) = joinSegments front ++ '/' :: joinSegments back := by
  induction front with
  | nil =>
      exact (frontNonempty rfl).elim
  | cons segment rest inductionHypothesis =>
      by_cases last : rest = []
      · rw [last, List.singleton_append, joinSegments_cons segment backNonempty]
        rfl
      · rw [List.cons_append, joinSegments_cons segment (by simp [last]),
          inductionHypothesis last, joinSegments_cons segment last, List.append_assoc,
          List.cons_append]

/-- A slash between two texts separates their segments. -/
theorem segments_append_slash (before after : List Char) :
    segments (before ++ '/' :: after) = segments before ++ segments after := by
  induction before with
  | nil =>
      rfl
  | cons character rest inductionHypothesis =>
      by_cases isSlash : character = '/'
      · rw [isSlash, List.cons_append, segments_slash, inductionHypothesis, segments_slash,
          List.cons_append]
      · obtain ⟨first, others, shape, extended⟩ := exists_segments_cons isSlash rest
        rw [extended, List.cons_append, segments, if_neg isSlash, inductionHypothesis, shape]
        rfl

/-- A text without slashes is one segment. -/
theorem segments_of_noSlash
    {text : List Char}
    (noSlash : '/' ∉ text) :
    segments text = [text] := by
  induction text with
  | nil =>
      rfl
  | cons character rest inductionHypothesis =>
      rw [List.mem_cons, not_or] at noSlash
      have isNoSlash : character ≠ '/' := Ne.symm noSlash.1
      simp [segments, isNoSlash, inductionHypothesis noSlash.2]

/-- Segments hold characters of the text, but no slash. -/
theorem mem_of_mem_segments
    {text segment : List Char}
    (among : segment ∈ segments text)
    {character : Char}
    (held : character ∈ segment) :
    character ∈ text ∧ character ≠ '/' := by
  induction text generalizing segment with
  | nil =>
      simp_all [segments]
  | cons head rest inductionHypothesis =>
      have later : ∀ other ∈ segments rest, character ∈ other →
          character ∈ head :: rest ∧ character ≠ '/' := by
        intro other amongOthers heldThere
        obtain ⟨inRest, isNoSlash⟩ := inductionHypothesis amongOthers heldThere
        exact ⟨List.mem_cons_of_mem _ inRest, isNoSlash⟩
      by_cases isSlash : head = '/'
      · rw [isSlash, segments_slash, List.mem_cons] at among
        rcases among with rfl | among
        · cases held
        · exact later segment among held
      · obtain ⟨first, others, shape, extended⟩ := exists_segments_cons isSlash rest
        rw [shape, List.forall_mem_cons] at later
        rw [extended, List.mem_cons] at among
        rcases among with rfl | among
        · rcases List.mem_cons.mp held with rfl | inFirst
          · exact ⟨List.mem_cons_self .., isSlash⟩
          · exact later.1 inFirst
        · exact later.2 segment among held

theorem subset_of_mem_segments
    {text segment : List Char}
    (among : segment ∈ segments text) :
    segment ⊆ text :=
  fun _ held => (mem_of_mem_segments among held).1

theorem noSlash_of_mem_segments
    {text segment : List Char}
    (among : segment ∈ segments text) :
    '/' ∉ segment :=
  fun held => (mem_of_mem_segments among held).2 rfl

/-- What a text ends in without a slash, its last segment ends in. -/
theorem exists_last_segment
    {ending : List Char}
    (noSlash : '/' ∉ ending)
    (front : List Char) :
    ∃ before last, segments (front ++ ending) = before ++ [last] ∧ ending <:+ last := by
  induction front with
  | nil =>
      exact ⟨[], ending, segments_of_noSlash noSlash, List.suffix_refl _⟩
  | cons character rest inductionHypothesis =>
      obtain ⟨before, last, shape, isSuffix⟩ := inductionHypothesis
      by_cases isSlash : character = '/'
      · exact ⟨[] :: before, last, by simp [isSlash, shape], isSuffix⟩
      · obtain ⟨first, others, split, extended⟩ := exists_segments_cons isSlash (rest ++ ending)
        rw [List.cons_append, extended]
        rw [shape] at split
        -- The character goes to the last segment only if that is the first one as well.
        cases before with
        | nil =>
            obtain ⟨rfl, rfl⟩ := List.cons.inj split
            exact ⟨[], character :: last, rfl, isSuffix.trans (List.suffix_cons ..)⟩
        | cons head between =>
            obtain ⟨rfl, rfl⟩ := List.cons.inj split
            exact ⟨(character :: head) :: between, last, rfl, isSuffix⟩

/-- The segments that a text was put together from are found again. -/
theorem segments_joinSegments
    {parts : List (List Char)}
    (nonempty : parts ≠ [])
    (noSlash : ∀ part ∈ parts, '/' ∉ part) :
    segments (joinSegments parts) = parts := by
  induction parts with
  | nil =>
      exact (nonempty rfl).elim
  | cons part rest inductionHypothesis =>
      rw [List.forall_mem_cons] at noSlash
      cases rest with
      | nil =>
          exact segments_of_noSlash noSlash.1
      | cons second others =>
          have later := inductionHypothesis (by simp) noSlash.2
          rw [joinSegments_cons part (by simp), segments_append_slash,
            segments_of_noSlash noSlash.1, later, List.singleton_append]

end UsageLint.Text
