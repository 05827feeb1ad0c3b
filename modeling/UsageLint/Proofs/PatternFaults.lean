import UsageLint.Linter.Analysis
import UsageLint.Proofs.PatternEndings

namespace UsageLint

open UsageLint.Files
open UsageLint.Glob
open UsageLint.Syntax
open UsageLint.Text

/-!
# Pattern faults

A text that is no pattern is refused with a position. Cut there, the text shows the
fault: the bracket that opens no set, the third of some stars, or, at a pair of stars
that shares its component, the character it shares it with. A run over a tree that
ends with such an error names a place in the pattern of its sources, or in one of the
components of that pattern, which are read once more on their own.
-/

namespace Glob

variable {before text : List Char} {opens : Bool} {misfit : Misfit}

/-- Between these two parts of a text is where a fault of the pattern is met. -/
def PatternFault.LiesBetween (fault : PatternFault) (front after : List Char) : Prop :=
  match fault with
  | invalidRange => ∃ rest, after = '[' :: rest ∧ set? rest = none
  | sharedComponent =>
      (['*', '*'] <:+ front ∧ ∃ next rest, after = next :: rest ∧ next ≠ '/') ∨
        ∃ previous rest, after = previous :: '*' :: '*' :: rest ∧ previous ≠ '/'
  | tooManyStars => ['*', '*'] <:+ front ∧ ∃ rest, after = '*' :: rest

/-- The text has a fault at the position of the error. -/
def PatternError.PointsInto (error : PatternError) (text : List Char) : Prop :=
  ∃ front after,
    text = front ++ after ∧
      front.length = error.position ∧
      error.fault.LiesBetween front after

/-- What has been read of a text ends inside a component, not where one starts. -/
def StandsWithin (before : List Char) : Prop :=
  ∃ earlier last, before = earlier ++ [last] ∧ last ≠ '/'

/-- A character other than a slash leaves what is read inside a component. -/
theorem standsWithin_concat
    (before : List Char)
    {last : Char}
    (noSlash : last ≠ '/') :
    StandsWithin (before ++ [last]) :=
  ⟨before, last, rfl, noSlash⟩

/-- Reading that fails behind a token fails with the same misfit. -/
theorem eq_error_of_map_cons
    {token : Token}
    {rest : Except Misfit (List Token)}
    (failed : rest.map (token :: ·) = .error misfit) :
    rest = .error misfit := by
  cases rest with
  | error cause =>
      cases failed
      rfl
  | ok later =>
      cases failed

/--
Reading on after some of a text stops between two parts of the whole with a fault
between them, and the misfit counts the characters of the second.
-/
theorem exists_split_of_tokensFrom
    (within : opens = false → StandsWithin before)
    (failed : tokensFrom opens text = .error misfit) :
    ∃ front after,
      before ++ text = front ++ after ∧
        after.length = misfit.left ∧
        misfit.fault.LiesBetween front after := by
  -- Each step moves what it reads behind what was read before.
  fun_induction tokensFrom opens text generalizing before with
  | case1 | case4 =>
      cases failed
  | case2 _ rest inductionHypothesis =>
      have inside : StandsWithin (before ++ ['?']) := standsWithin_concat before (by decide)
      simpa using inductionHypothesis (fun _ => inside) (eq_error_of_map_cons failed)
  | case3 _ rest =>
      cases failed
      exact ⟨before ++ ['*', '*'], '*' :: rest, by simp, by simp, List.suffix_append .., rest, rfl⟩
  | case5 others _ inductionHypothesis =>
      -- The slash is read with the stars, and a component starts behind it.
      have atStart : true = false → StandsWithin (before ++ ['*', '*', '/']) := by simp
      simpa using inductionHypothesis atStart (eq_error_of_map_cons failed)
  | case6 rest _ notEnd notSlash =>
      cases failed
      cases rest with
      | nil =>
          exact (notEnd rfl).elim
      | cons next others =>
          refine ⟨before ++ ['*', '*'], next :: others, by simp, rfl,
            .inl ⟨List.suffix_append .., next, others, rfl, ?_⟩⟩
          rintro rfl
          exact notSlash others rfl
  | case7 _ rest _ closed =>
      cases failed
      obtain ⟨earlier, previous, rfl, noSlash⟩ := within (by simpa using closed)
      exact ⟨earlier, previous :: '*' :: '*' :: rest, by simp, by simp,
        .inr ⟨previous, rest, rfl, noSlash⟩⟩
  | case8 _ rest _ _ inductionHypothesis =>
      have inside : StandsWithin (before ++ ['*']) := standsWithin_concat before (by decide)
      simpa using inductionHypothesis (fun _ => inside) (eq_error_of_map_cons failed)
  | case9 _ rest token others found _ inductionHypothesis =>
      -- A set is read up to its bracket, which is no slash.
      obtain ⟨_, front, shape⟩ := exists_of_set? found
      have inside : StandsWithin (before ++ '[' :: front ++ [']']) :=
        standsWithin_concat _ (by decide)
      rw [shape]
      simpa using inductionHypothesis (fun _ => inside) (eq_error_of_map_cons failed)
  | case10 _ rest missing =>
      cases failed
      exact ⟨before, '[' :: rest, rfl, rfl, rest, rfl, missing⟩
  | case11 _ character rest _ _ _ _ _ inductionHypothesis =>
      have inside : (character == '/') = false → StandsWithin (before ++ [character]) :=
        fun noSlash => standsWithin_concat before (by simpa using noSlash)
      simpa using inductionHypothesis inside (eq_error_of_map_cons failed)

/-- A text that is no pattern has a fault where its error says. -/
theorem pointsInto_of_parse
    {text : String}
    {error : PatternError}
    (failed : Pattern.parse text = .error error) :
    error.PointsInto text.toList := by
  unfold Pattern.parse at failed
  split at failed
  · cases failed
  · next misfit unread =>
    cases failed
    have atStart : true = false → StandsWithin [] := by simp
    obtain ⟨front, after, split, length, fault⟩ := exists_split_of_tokensFrom atStart unread
    rw [List.nil_append] at split
    refine ⟨front, after, split, ?_, fault⟩
    rw [Misfit.within, split, List.length_append, length, Nat.add_sub_cancel]

variable {top : Entry} {pattern : String} {error : PatternError}

/-- Discovery fails at a fault of the pattern or at one of a component read on its own. -/
theorem pointsInto_of_discover (failed : discover top pattern = .error error) :
    error.PointsInto pattern.toList ∨
      ∃ segment ∈ segments pattern.toList, error.PointsInto segment := by
  rw [discover, stepsOf] at failed
  cases parsed : Pattern.parse pattern with
  | error cause =>
      rw [parsed] at failed
      cases failed
      exact .inl (pointsInto_of_parse parsed)
  | ok whole =>
      rw [parsed] at failed
      cases components :
          (segments pattern.toList).tail.mapM fun segment =>
            Pattern.parse (String.ofList segment) with
      | error cause =>
          simp only [bind, Except.bind, components] at failed
          cases failed
          obtain ⟨segment, among, unread⟩ := exists_of_mapM_eq_error components
          have points := pointsInto_of_parse unread
          rw [String.toList_ofList] at points
          exact .inr ⟨segment, List.mem_of_mem_tail among, points⟩
      | ok patterns =>
          simp only [bind, Except.bind, components] at failed
          cases failed

end Glob

namespace Linter

variable {linter : Linter} {workspace : Workspace} {path : Path} {error : PatternError}

/-- Checking a source is no matter of patterns. -/
theorem check_ne_badPattern : linter.check workspace path ≠ .error (.badPattern error) := by
  unfold check
  split
  · next text _ =>
    rw [lintSource_eq linter workspace.grammar ⟨linter.shownPath path, text⟩]
    split <;> exact nofun
  · exact nofun
  · exact nofun

/--
A run that ends with a bad pattern points at a fault in the pattern of the sources with
one of the extensions, or in a component of it.
-/
theorem pointsInto_of_badPattern
    (failed : linter.analyze workspace = .error (.badPattern error)) :
    ∃ extension ∈ Dialect.extensions,
      error.PointsInto (linter.patternFor extension).toList ∨
        ∃ segment ∈ segments (linter.patternFor extension).toList,
          error.PointsInto segment := by
  rw [analyze] at failed
  cases discovered : linter.discover workspace with
  | ok paths =>
      rw [discovered] at failed
      cases checked : paths.mapM (linter.check workspace) with
      | ok results =>
          simp only [bind, Except.bind, checked] at failed
          cases failed
      | error cause =>
          simp only [bind, Except.bind, checked] at failed
          cases failed
          obtain ⟨path, _, unchecked⟩ := exists_of_mapM_eq_error checked
          exact (check_ne_badPattern unchecked).elim
  | error cause =>
      rw [discovered] at failed
      cases failed
      rw [discover] at discovered
      split at discovered
      · next unfound =>
        cases discovered
        obtain ⟨extension, isExtension, missed⟩ := exists_of_mapM_eq_error unfound
        exact ⟨extension, isExtension, pointsInto_of_discover missed⟩
      · cases discovered

end Linter

end UsageLint
