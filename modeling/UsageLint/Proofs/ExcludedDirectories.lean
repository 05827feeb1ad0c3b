import UsageLint.Proofs.PlainRoots

namespace UsageLint

open UsageLint.Text

/-!
# Excluded directories

A directory is left out by a pattern that has its name between two runs of
components. The pattern as a whole matches a path, and its plain part occurs in the
path, exactly if the name is a segment between two slashes. So the two ways in which
a path is left out agree on such patterns, and they leave out what lies below a
directory of just this name.
-/

namespace Text

/-- The segments that stand between two slashes. -/
def innerSegments (text : List Char) : List (List Char) :=
  (segments text).tail.dropLast

/-- A text stands between two slashes as a segment if it does so as it is written. -/
theorem mem_innerSegments_iff
    {text segment : List Char}
    (noSlash : '/' ∉ segment) :
    segment ∈ innerSegments text ↔
      ∃ before after, text = before ++ '/' :: (segment ++ '/' :: after) := by
  constructor
  · intro among
    unfold innerSegments at among
    cases shape : segments text with
    | nil =>
        exact absurd shape (segments_ne_nil text)
    | cons first rest =>
        rw [shape, List.tail_cons] at among
        have nonempty : rest ≠ [] := by
          rintro rfl
          cases among
        obtain ⟨earlier, later, split⟩ := List.mem_iff_append.mp among
        obtain ⟨last, ended⟩ : ∃ last, rest = rest.dropLast ++ [last] :=
          ⟨_, (List.dropLast_concat_getLast nonempty).symm⟩
        have parts : segments text = (first :: earlier) ++ ([segment] ++ (later ++ [last])) := by
          rw [shape, ended, split]
          simp
        refine ⟨joinSegments (first :: earlier), joinSegments (later ++ [last]), ?_⟩
        rw [← joinSegments_segments text, parts, joinSegments_append (by simp) (by simp),
          joinSegments_append (by simp) (by simp)]
        rfl
  · rintro ⟨before, after, rfl⟩
    unfold innerSegments
    rw [segments_append_slash, segments_append_slash, segments_of_noSlash noSlash]
    rw [List.tail_append_of_ne_nil (segments_ne_nil before),
      List.dropLast_append_of_ne_nil (by simp), List.singleton_append,
      List.dropLast_cons_of_ne_nil (segments_ne_nil after)]
    simp

/-- A word occurs in a text if the text goes on with it somewhere. -/
theorem occursIn_iff_infix (word text : List Char) :
    occursIn word text = true ↔ word <:+: text := by
  simp only [occursIn, List.any_eq_true, mem_suffixes, List.isPrefixOf_iff_prefix]
  constructor
  · rintro ⟨_, ⟨before, rfl⟩, after, rfl⟩
    exact ⟨before, after, by simp⟩
  · rintro ⟨before, after, rfl⟩
    exact ⟨word ++ after, ⟨before, by simp⟩, after, rfl⟩

end Text

namespace Glob

/-- A name of a directory without letters that stand for others. -/
structure IsDirectoryName (name : String) : Prop where
  nonempty : name ≠ ""
  noSlash : '/' ∉ name.toList
  plain : IsPlain name.toList

/-- The pattern that leaves out what lies below the directories with a name. -/
def directoryPattern (name : String) : String :=
  "**/" ++ name ++ "/**"

/-- Any text is a run of components. -/
theorem matchesAll_anyRun (text : List Char) : matchesAll anyRun.tokens text = true := by
  have ended : [] ∈ afterComponents text := (mem_afterComponents_iff text []).mpr (.inl rfl)
  simp only [anyRun, matchesAll, Token.leaves, List.any_eq_true]
  exact ⟨[], List.mem_cons_of_mem _ ended, rfl⟩

theorem withoutStarPairs_append
    {front : List Char}
    (plain : IsPlain front)
    (rest : List Char) :
    withoutStarPairs (front ++ rest) = front ++ withoutStarPairs rest := by
  induction front with
  | nil =>
      rfl
  | cons character others inductionHypothesis =>
      obtain ⟨isPlain, othersPlain⟩ := List.forall_mem_cons.mp plain
      rw [List.cons_append, withoutStarPairs, inductionHypothesis othersPlain]
      · rfl
      · intro _ isStar
        exact (isPlain.2.1 isStar).elim

section Directory

variable
  {name : String}
  (isName : IsDirectoryName name)

theorem toList_directoryPattern (name : String) :
    (directoryPattern name).toList =
      '*' :: '*' :: '/' :: (name.toList ++ '/' :: ['*', '*']) := by
  simp [directoryPattern]

include isName

theorem parse_directoryPattern :
    Pattern.parse (directoryPattern name) =
      .ok ⟨.anyComponents ::
        ((name.toList ++ ['/']).map .literal ++ anyRun.tokens)⟩ := by
  have run : tokensFrom true ['*', '*'] = .ok anyRun.tokens := by
    rw [tokensFrom]
    rfl
  have later := tokensFrom_append_of_isPlain isName.plain run true
  rw [Pattern.parse, toList_directoryPattern, tokensFrom]
  simp [later, Except.map]

/-- What is left of the pattern without its stars is the name between slashes. -/
theorem withoutStarPairs_directoryPattern :
    withoutStarPairs (directoryPattern name).toList = '/' :: (name.toList ++ ['/']) := by
  have kept := withoutStarPairs_append isName.plain ('/' :: ['*', '*'])
  simp [toList_directoryPattern, withoutStarPairs, kept]

/-- The plain part of the pattern occurs where the name stands between slashes. -/
theorem occursInPath_directoryPattern (path : Path) :
    occursInPath (directoryPattern name) path = true ↔
      name.toList ∈ innerSegments path.text.toList := by
  unfold occursInPath
  simp only [withoutStarPairs_directoryPattern isName, List.isEmpty_cons, Bool.not_false,
    Bool.true_and, occursIn_iff_infix, mem_innerSegments_iff isName.noSlash]
  constructor
  · rintro ⟨before, after, split⟩
    exact ⟨before, after, by rw [← split]; simp⟩
  · rintro ⟨before, after, split⟩
    exact ⟨before, after, by rw [split]; simp⟩

/-- The pattern as a whole matches where the name stands between slashes. -/
theorem matchesPath_directoryPattern
    {path : Path}
    (absolute : path.isAbsolute = true) :
    matchesPath (directoryPattern name) path = true ↔
      name.toList ∈ innerSegments path.text.toList := by
  have opens : path.text.toList.head? = some '/' := by
    simpa [Path.isAbsolute] using absolute
  -- The name cannot open the path, because a slash does.
  have notFirst : ∀ rest, path.text.toList ≠ name.toList ++ '/' :: rest := by
    intro rest split
    have nonempty : name.toList ≠ [] := by
      simpa using isName.nonempty
    obtain ⟨first, others, shape⟩ := List.exists_cons_of_ne_nil nonempty
    have isSlash : first = '/' := by
      simpa [split, shape] using opens
    apply isName.noSlash
    rw [shape, isSlash]
    exact List.mem_cons_self ..
  unfold matchesPath
  simp only [parse_directoryPattern isName, Pattern.isMatch_eq, matchesAll, Token.leaves,
    List.any_eq_true, List.mem_cons, mem_afterComponents_iff, matchesAll_literals_append,
    matchesAll_anyRun, and_true, List.append_assoc, List.singleton_append,
    mem_innerSegments_iff isName.noSlash]
  constructor
  · rintro ⟨_, whole | ended | ⟨before, split⟩, rest, rfl⟩
    · exact (notFirst rest whole.symm).elim
    · simp at ended
    · exact ⟨before, rest, split⟩
  · rintro ⟨before, after, split⟩
    exact ⟨_, .inr (.inr ⟨before, split⟩), after, rfl⟩

end Directory

end Glob

namespace Path

open UsageLint.Files

/-- An absolute path as a slash before each name, or as a slash if there is no name. -/
def IsNormal (path : Path) : Prop :=
  ∃ names : List String,
    (∀ name ∈ names, IsEntryName name) ∧
      path.text.toList = '/' :: joinSegments (names.map String.toList)

section Normal

variable
  {path : Path}
  {names : List String}
  (areNames : ∀ name ∈ names, IsEntryName name)
  (written : path.text.toList = '/' :: joinSegments (names.map String.toList))

include written

theorem isAbsolute_of_written : path.isAbsolute = true := by
  simp [isAbsolute, written]

include areNames

/-- The names of a path are its segments after the slash that opens it. -/
theorem segments_of_written (nonempty : names ≠ []) :
    segments path.text.toList = [] :: names.map String.toList := by
  have noSlash : ∀ part ∈ names.map String.toList, '/' ∉ part := by
    intro part among
    obtain ⟨name, isName, rfl⟩ := List.mem_map.mp among
    exact (areNames name isName).noSlash
  rw [written, segments, if_pos rfl, segments_joinSegments (by simpa using nonempty) noSlash]

theorem innerSegments_of_written :
    innerSegments path.text.toList = names.dropLast.map String.toList := by
  by_cases nonempty : names = []
  · subst nonempty
    rw [written]
    rfl
  · rw [innerSegments, segments_of_written areNames written nonempty, List.tail_cons,
      List.map_dropLast]

theorem components_of_written :
    path.components = .root :: names.map fun name => .name name.toList := by
  rw [components_of_isAbsolute (isAbsolute_of_written written)]
  by_cases nonempty : names = []
  · subst nonempty
    rw [written]
    rfl
  · have named :
        names.filterMap (Component.ofSegment? ∘ String.toList) =
          names.map fun name => .name name.toList := by
      rw [← List.filterMap_eq_map]
      exact List.filterMap_congr fun name among => (areNames name among).ofSegment?
    rw [segments_of_written areNames written nonempty, steps, List.filterMap_cons_none rfl,
      List.filterMap_map, named]

end Normal

/-- What stands between slashes in a normal path is a name of it, but not the last. -/
theorem mem_innerSegments_of_isNormal
    {path : Path}
    (normal : path.IsNormal)
    (segment : List Char) :
    segment ∈ innerSegments path.text.toList ↔ .name segment ∈ path.components.dropLast := by
  obtain ⟨names, areNames, written⟩ := normal
  rw [innerSegments_of_written areNames written, components_of_written areNames written]
  by_cases nonempty : names = []
  · subst nonempty
    simp
  · rw [List.dropLast_cons_of_ne_nil (by simpa using nonempty), ← List.map_dropLast]
    simp only [List.mem_cons, List.mem_map, reduceCtorEq, false_or, Component.name.injEq]

end Path

namespace Glob

/--
A pattern of a directory leaves out just the paths in which a name before the last
is that of the directory. Names that merely contain it and files of that name are
kept, and the pattern as a whole and its plain part are found in the same paths.
-/
theorem directory_pattern_excludes_what_lies_below
    {directory : String}
    (isName : IsDirectoryName directory)
    {path : Path}
    (normal : path.IsNormal) :
    (isExcluded [directoryPattern directory] path = true ↔
        .name directory.toList ∈ path.components.dropLast) ∧
      matchesPath (directoryPattern directory) path =
        occursInPath (directoryPattern directory) path := by
  obtain ⟨_, _, written⟩ := id normal
  have matched :=
    matchesPath_directoryPattern isName (Path.isAbsolute_of_written written)
  have occurs := occursInPath_directoryPattern isName path
  constructor
  · rw [← Path.mem_innerSegments_of_isNormal normal]
    simp [isExcluded, matched, occurs]
  · rw [Bool.eq_iff_iff, matched, occurs]

/-- Only what lies in `dist` itself is left out, not what is called like it. -/
theorem dist_pattern_excludes_dist_only :
    IsDirectoryName "dist" ∧
      Path.IsNormal ⟨"/app/dist/a.js"⟩ ∧
      Path.IsNormal ⟨"/app/redist/dist.old/dist"⟩ ∧
      isExcluded [directoryPattern "dist"] ⟨"/app/dist/a.js"⟩ = true ∧
      isExcluded [directoryPattern "dist"] ⟨"/app/redist/dist.old/dist"⟩ = false := by
  have isName : IsDirectoryName "dist" := by
    constructor
    · decide
    · decide
    · simp [IsPlain]
  have inside : Path.IsNormal ⟨"/app/dist/a.js"⟩ :=
    ⟨["app", "dist", "a.js"], by decide, by decide⟩
  have alike : Path.IsNormal ⟨"/app/redist/dist.old/dist"⟩ :=
    ⟨["app", "redist", "dist.old", "dist"], by decide, by decide⟩
  refine ⟨isName, inside, alike, ?_, ?_⟩
  · rw [(directory_pattern_excludes_what_lies_below isName inside).1]
    decide
  · rw [← Bool.not_eq_true, (directory_pattern_excludes_what_lies_below isName alike).1]
    decide

end Glob

end UsageLint
