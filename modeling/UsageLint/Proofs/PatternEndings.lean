import Mathlib.Data.List.Induction
import UsageLint.Proofs.DiscoveredPaths
import UsageLint.Proofs.FileTrees

namespace UsageLint

open UsageLint.Files
open UsageLint.Glob
open UsageLint.Text

/-!
# Pattern endings

A component of a pattern that ends in a plain text matches names that end in it only.
So a path that a pattern leads to has at least as many names with the ending as the
pattern has components with it. The pattern of the sources with an extension has one
more than the root, and hence no source is found under the path of its root.
-/

namespace Glob

/-- A text without wildcards in which names can end. -/
structure IsEnding (ending : List Char) : Prop where
  plain : IsPlain ending
  noSlash : '/' ∉ ending
  noBracket : ']' ∉ ending
  letter : ∃ character ∈ ending, character ≠ '.'

variable {ending : List Char}

theorem IsEnding.nonempty (isEnding : IsEnding ending) : ending ≠ [] := by
  rintro rfl
  obtain ⟨_, among, _⟩ := isEnding.letter
  cases among

section Sets

/-- A set ends at the first bracket that closes it: what is before and after make up the text. -/
theorem exists_of_splitAtBracket?
    {text inside after : List Char}
    (split : splitAtBracket? text = some (inside, after)) :
    text = inside ++ ']' :: after := by
  fun_induction splitAtBracket? text generalizing inside with
  | case1 =>
      cases split
  | case2 rest =>
      cases split
      rfl
  | case3 character rest _ inductionHypothesis =>
      obtain ⟨⟨others, _⟩, isSplit, equal⟩ := Option.map_eq_some_iff.mp split
      cases equal
      rw [inductionHypothesis isSplit, List.cons_append]

/-- Reading a listed set takes a front of the text that ends in a closing bracket. -/
theorem exists_of_listedSet?
    {kind : List CharacterRange → Token}
    {text after : List Char}
    {token : Token}
    (found : listedSet? kind text = some (token, after)) :
    (∃ ranges, token = kind ranges) ∧ ∃ front, text = front ++ ']' :: after := by
  cases text with
  | nil =>
      cases found
  | cons first rest =>
      obtain ⟨⟨inside, _⟩, isSplit, equal⟩ := Option.map_eq_some_iff.mp found
      cases equal
      refine ⟨⟨_, rfl⟩, first :: inside, ?_⟩
      rw [exists_of_splitAtBracket? isSplit, List.cons_append]

/-- A set is a part of its own and ends with a bracket. -/
theorem exists_of_set?
    {text after : List Char}
    {token : Token}
    (found : set? text = some (token, after)) :
    (∃ ranges, token = .oneOf ranges ∨ token = .noneOf ranges) ∧
      ∃ front, text = front ++ ']' :: after := by
  unfold set? at found
  split at found
  · obtain ⟨⟨ranges, isSet⟩, front, shape⟩ := exists_of_listedSet? found
    exact ⟨⟨ranges, Or.inr isSet⟩, '!' :: front, by rw [shape, List.cons_append]⟩
  · obtain ⟨⟨ranges, isSet⟩, shape⟩ := exists_of_listedSet? found
    exact ⟨⟨ranges, Or.inl isSet⟩, shape⟩

/-- An ending without a bracket lies after a set. -/
theorem suffix_after_set
    {front after : List Char}
    (noBracket : ']' ∉ ending)
    (ends : ending <:+ front ++ ']' :: after) :
    ending <:+ after := by
  have whole : ']' :: after <:+ front ++ ']' :: after := List.suffix_append ..
  rcases List.suffix_or_suffix_of_suffix ends whole with within | around
  · rcases List.suffix_cons_iff.mp within with same | later
    · rw [same] at noBracket
      exact (noBracket (List.mem_cons_self ..)).elim
    · exact later
  · exact (noBracket (around.subset (List.mem_cons_self ..))).elim

end Sets

/-- The tokens end in the letters of the ending, and no run of components is among them. -/
def EndLiterally (ending : List Char) (tokens : List Token) : Prop :=
  ending.map .literal <:+ tokens ∧ .anyComponents ∉ tokens

instance (tokens : List Token) : Decidable (EndLiterally ending tokens) :=
  inferInstanceAs (Decidable (_ ∧ _))

/-- A token put in front keeps a literal ending, unless it is the run that may take everything. -/
theorem EndLiterally.cons
    {token : Token}
    {tokens : List Token}
    (later : EndLiterally ending tokens)
    (isNoRun : token ≠ .anyComponents) :
    EndLiterally ending (token :: tokens) := by
  refine ⟨later.1.trans (List.suffix_cons ..), ?_⟩
  rw [List.mem_cons, not_or]
  exact ⟨Ne.symm isNoRun, later.2⟩

/-- A token list read after a first token is that token and the list read behind it. -/
theorem exists_of_map_cons
    {token : Token}
    {rest : Except Misfit (List Token)}
    {tokens : List Token}
    (read : rest.map (token :: ·) = .ok tokens) :
    ∃ later, rest = .ok later ∧ tokens = token :: later := by
  cases rest with
  | error cause =>
      cases read
  | ok later =>
      cases read
      exact ⟨later, rfl, rfl⟩

/-- A component with an ending is read as tokens with it, and stands for no run. -/
theorem endLiterally_of_tokensFrom
    (isEnding : IsEnding ending)
    {opens : Bool}
    {text : List Char}
    {tokens : List Token}
    (noSlash : '/' ∉ text)
    (ends : ending <:+ text)
    (read : tokensFrom opens text = .ok tokens) :
    EndLiterally ending tokens := by
  have afterSpecial :
      ∀ {character : Char} {rest : List Char},
        (character = '?' ∨ character = '*' ∨ character = '[') →
        ending <:+ character :: rest →
        ending <:+ rest := by
    intro character rest special ends
    rcases List.suffix_cons_iff.mp ends with same | later
    · have isPlain := isEnding.plain character (by rw [same]; exact List.mem_cons_self ..)
      rcases special with isSpecial | isSpecial | isSpecial <;> simp [isSpecial] at isPlain
    · exact later
  fun_induction tokensFrom opens text generalizing tokens with
  | case1 =>
      exact (isEnding.nonempty (List.suffix_nil.mp ends)).elim
  | case2 _ rest inductionHypothesis =>
      obtain ⟨later, isLater, rfl⟩ := exists_of_map_cons read
      rw [List.mem_cons, not_or] at noSlash
      exact (inductionHypothesis noSlash.2 (afterSpecial (by simp) ends) isLater).cons nofun
  | case3 | case6 | case7 | case10 =>
      cases read
  | case4 =>
      -- A pair of stars ends in no plain letter.
      have within := afterSpecial (by simp) (afterSpecial (by simp) ends)
      exact (isEnding.nonempty (List.suffix_nil.mp within)).elim
  | case5 =>
      simp at noSlash
  | case8 _ rest _ _ inductionHypothesis =>
      obtain ⟨later, isLater, rfl⟩ := exists_of_map_cons read
      rw [List.mem_cons, not_or] at noSlash
      exact (inductionHypothesis noSlash.2 (afterSpecial (by simp) ends) isLater).cons nofun
  | case9 _ rest token others found _ inductionHypothesis =>
      -- The ending has no bracket, so it lies after that of the set.
      obtain ⟨later, isLater, rfl⟩ := exists_of_map_cons read
      obtain ⟨⟨ranges, isSet⟩, front, shape⟩ := exists_of_set? found
      rw [List.mem_cons, not_or, shape, List.mem_append, not_or, List.mem_cons, not_or]
        at noSlash
      have within := afterSpecial (by simp) ends
      rw [shape] at within
      have afterSet := suffix_after_set isEnding.noBracket within
      apply (inductionHypothesis noSlash.2.2.2 afterSet isLater).cons
      rcases isSet with rfl | rfl <;> exact nofun
  | case11 _ character rest notAny _ _ notStar notSet inductionHypothesis =>
      obtain ⟨later, isLater, rfl⟩ := exists_of_map_cons read
      rcases List.suffix_cons_iff.mp ends with rfl | within
      · -- The ending starts here, and all of it is read literally.
        have restPlain := (List.forall_mem_cons.mp isEnding.plain).2
        rw [tokensFrom_of_isPlain restPlain] at isLater
        cases isLater
        exact ⟨List.suffix_refl _, by simp⟩
      · rw [List.mem_cons, not_or] at noSlash
        exact (inductionHypothesis noSlash.2 within isLater).cons nofun

/-- Single characters of a pattern are characters of its text. -/
theorem mem_of_literal_mem_tokensFrom
    {opens : Bool}
    {text : List Char}
    {tokens : List Token}
    (read : tokensFrom opens text = .ok tokens)
    {character : Char}
    (among : .literal character ∈ tokens) :
    character ∈ text := by
  fun_induction tokensFrom opens text generalizing tokens with
  | case1 | case4 =>
      cases read
      simp at among
  | case3 | case6 | case7 | case10 =>
      cases read
  | case9 _ rest token others found _ inductionHypothesis =>
      obtain ⟨later, isLater, rfl⟩ := exists_of_map_cons read
      obtain ⟨⟨ranges, isSet⟩, front, shape⟩ := exists_of_set? found
      rcases isSet with rfl | rfl <;> simp_all
  | case2 | case5 | case8 =>
      obtain ⟨later, isLater, rfl⟩ := exists_of_map_cons read
      simp_all
  | case11 _ _ _ _ _ _ _ _ inductionHypothesis =>
      obtain ⟨later, isLater, rfl⟩ := exists_of_map_cons read
      rcases List.mem_cons.mp among with isFirst | within
      · cases isFirst
        exact List.mem_cons_self ..
      · exact List.mem_cons_of_mem _ (inductionHypothesis isLater within)

/-- What is left of a text is an ending of it. -/
theorem suffix_of_mem_leaves
    {token : Token}
    {text rest : List Char}
    (left : rest ∈ token.leaves text) :
    rest <:+ text := by
  cases token with
  | anySequence =>
      exact (mem_suffixes text rest).mp left
  | anyComponents =>
      rcases List.mem_cons.mp left with rfl | among
      · exact List.suffix_refl _
      · rcases (mem_afterComponents_iff text rest).mp among with rfl | ⟨before, rfl⟩
        · exact List.nil_suffix
        · exact (List.suffix_cons ..).trans (List.suffix_append ..)
  | _ =>
      cases text with
      | nil =>
          cases left
      | cons character later =>
          simp only [Token.leaves] at left
          split at left
          · rw [List.mem_singleton.mp left]
            exact List.suffix_cons ..
          · cases left

/-- Where tokens match a text, the later ones match some suffix of it. -/
theorem exists_of_matchesAll_append
    {front later : List Token}
    {text : List Char}
    (matched : matchesAll (front ++ later) text = true) :
    ∃ rest, rest <:+ text ∧ matchesAll later rest = true := by
  induction front generalizing text with
  | nil =>
      exact ⟨text, List.suffix_refl _, matched⟩
  | cons token others inductionHypothesis =>
      rw [List.cons_append, matchesAll, List.any_eq_true] at matched
      obtain ⟨left, isLeft, leftMatched⟩ := matched
      obtain ⟨rest, within, restMatched⟩ := inductionHypothesis leftMatched
      exact ⟨rest, within.trans (suffix_of_mem_leaves isLeft), restMatched⟩

/-- What tokens with an ending match has the ending. -/
theorem suffix_of_isMatch
    {pattern : Pattern}
    (endLiterally : EndLiterally ending pattern.tokens)
    {text : List Char}
    (isMatch : pattern.isMatch text = true) :
    ending <:+ text := by
  obtain ⟨⟨front, shape⟩, _⟩ := endLiterally
  rw [Pattern.isMatch_eq, ← shape] at isMatch
  obtain ⟨rest, within, matched⟩ := exists_of_matchesAll_append isMatch
  rw [(matchesAll_literals ending rest).mp matched] at within
  exact within

namespace Step

/-- Whether a step leads to names with the ending only. -/
def forces (ending : List Char) (step : Step) : Bool :=
  match step with
  | enter segment => ending.isSuffixOf segment.toList
  | among pattern | anywhere pattern => decide (EndLiterally ending pattern.tokens)
  | directories => false

end Step

/-- A pattern known by its literal text is made of that text and nothing else. -/
theorem eq_of_literalText?
    {pattern : Pattern}
    {text : List Char}
    (found : pattern.literalText? = some text) :
    pattern = literally text := by
  rcases pattern with ⟨tokens⟩
  unfold Pattern.literalText? at found
  induction tokens generalizing text with
  | nil =>
      cases found
      rfl
  | cons token rest inductionHypothesis =>
      rw [List.mapM_cons] at found
      obtain ⟨character, isLiteral, more⟩ := Option.bind_eq_some_iff.mp found
      obtain ⟨others, isRest, isText⟩ := Option.bind_eq_some_iff.mp more
      cases isText
      have later := congrArg Pattern.tokens (inductionHypothesis isRest)
      split at isLiteral
      · cases isLiteral
        simp only [literally, List.map_cons, Pattern.mk.injEq] at later ⊢
        rw [← later]
      · cases isLiteral

/-- A component that ends literally forces its ending on every name it takes. -/
theorem forces_ofComponent
    {pattern : Pattern}
    (endLiterally : EndLiterally ending pattern.tokens) :
    (Step.ofComponent pattern).forces ending = true := by
  unfold Step.ofComponent
  cases found : pattern.literalText? with
  | none =>
      simpa [Step.forces] using endLiterally
  | some text =>
      obtain ⟨⟨front, shape⟩, _⟩ := endLiterally
      rw [eq_of_literalText? found] at shape
      obtain ⟨_, last, isText, _, sameLast⟩ := List.append_eq_map_iff.mp shape
      have isEnding : last = ending :=
        (List.map_inj_right fun _ _ => Token.literal.inj).mp sameLast
      simp [Step.forces, List.isSuffixOf_iff_suffix, isText, isEnding]

/-- Each component with the ending becomes a step to names with the ending. -/
theorem countP_le_countP_ofComponents (patterns : List Pattern) :
    (patterns.countP fun pattern => EndLiterally ending pattern.tokens) ≤
      (Step.ofComponents patterns).countP (Step.forces ending) := by
  have noEnding :
      ∀ {pattern : Pattern},
        pattern.isRecursive = true → ¬ EndLiterally ending pattern.tokens := by
    intro pattern recursive endLiterally
    exact endLiterally.2 (by simpa [Pattern.isRecursive] using recursive)
  fun_induction Step.ofComponents patterns with
  | case1 =>
      exact Nat.le_refl _
  | case2 pattern recursive =>
      simp [noEnding recursive]
  | case3 pattern recursive next others nextRecursive inductionHypothesis =>
      rw [List.countP_cons_of_neg (by simpa using noEnding recursive)]
      exact inductionHypothesis
  | case4 pattern recursive next others _ inductionHypothesis =>
      rw [List.countP_cons_of_neg (by simpa using noEnding recursive), List.countP_cons,
        List.countP_cons]
      exact Nat.add_le_add_right inductionHypothesis _
  | case5 pattern rest _ inductionHypothesis =>
      rw [List.countP_cons, List.countP_cons]
      apply Nat.add_le_add inductionHypothesis
      by_cases endLiterally : EndLiterally ending pattern.tokens
      · simp [forces_ofComponent endLiterally, endLiterally]
      · simp [endLiterally]

/-- Patterns without slashes look up names without slashes. -/
theorem noSlash_of_mem_ofComponents
    {patterns : List Pattern}
    (noSlash : ∀ pattern ∈ patterns, .literal '/' ∉ pattern.tokens)
    {segment : String}
    (among : .enter segment ∈ Step.ofComponents patterns) :
    '/' ∉ segment.toList := by
  fun_induction Step.ofComponents patterns with
  | case1 | case2 =>
      simp at among
  | case3 _ _ _ _ _ inductionHypothesis =>
      exact inductionHypothesis (List.forall_mem_cons.mp noSlash).2 among
  | case4 _ _ _ _ _ inductionHypothesis =>
      have othersNoSlash := (List.forall_mem_cons.mp noSlash).2
      rcases List.mem_cons.mp among with isFirst | later
      · cases isFirst
      · exact inductionHypothesis (List.forall_mem_cons.mp othersNoSlash).2 later
  | case5 pattern rest _ inductionHypothesis =>
      obtain ⟨patternNoSlash, restNoSlash⟩ := List.forall_mem_cons.mp noSlash
      rcases List.mem_cons.mp among with isFirst | later
      · unfold Step.ofComponent at isFirst
        split at isFirst
        next text found =>
          cases isFirst
          rw [eq_of_literalText? found] at patternNoSlash
          simpa [literally] using patternNoSlash
        · cases isFirst
      · exact inductionHypothesis restNoSlash later

end Glob

namespace Path

/-- Whether a component is a name that ends in a text. -/
def Component.endsIn (ending : List Char) (component : Component) : Bool :=
  match component with
  | .name segment => ending.isSuffixOf segment
  | _ => false

/-- How many names of a path end in a text. -/
def endingCount (ending : List Char) (path : Path) : Nat :=
  path.components.countP (Component.endsIn ending)

/-- A segment whose component ends in a text ends in it itself. -/
theorem suffix_of_endsIn
    {ending segment : List Char}
    {component : Component}
    (found : Component.ofSegment? segment = some component)
    (ends : component.endsIn ending = true) :
    ending <:+ segment := by
  unfold Component.ofSegment? at found
  split at found
  · cases found
  · cases found
  · cases found
    cases ends
  · cases found
    exact List.isSuffixOf_iff_suffix.mp ends

/-- Names with an ending are segments with it. -/
theorem countP_steps_le (ending : List Char) (segments : List (List Char)) :
    (steps segments).countP (Component.endsIn ending) ≤
      segments.countP (ending.isSuffixOf ·) := by
  induction segments with
  | nil =>
      exact Nat.le_refl _
  | cons segment rest inductionHypothesis =>
      rw [List.countP_cons]
      cases found : Component.ofSegment? segment with
      | none =>
          rw [steps, List.filterMap_cons_none found]
          exact Nat.le_add_right_of_le inductionHypothesis
      | some component =>
          rw [steps, List.filterMap_cons_some found, List.countP_cons]
          apply Nat.add_le_add inductionHypothesis
          by_cases ends : component.endsIn ending = true
          · simp [ends, List.isSuffixOf_iff_suffix.mpr (suffix_of_endsIn found ends)]
          · simp [ends]

/-- The names of an absolute path are among the segments after the slash that opens it. -/
theorem endingCount_le
    {ending : List Char}
    {path : Path}
    (absolute : path.isAbsolute = true) :
    path.endingCount ending ≤
      (segments path.text.toList).tail.countP (ending.isSuffixOf ·) := by
  obtain ⟨rest, shape⟩ := segments_of_isAbsolute absolute
  rw [endingCount, components_of_isAbsolute absolute, shape, List.tail_cons]
  exact countP_steps_le ending (segments rest)

/-- The count of endings grows by the components put between. -/
theorem endingCount_of_components
    {ending : List Char}
    {path directory : Path}
    {between : List Component}
    (shape : path.components = directory.components ++ between) :
    path.endingCount ending =
      directory.endingCount ending + between.countP (Component.endsIn ending) := by
  rw [endingCount, shape, List.countP_append, endingCount]

end Path

namespace Glob

/-- A spot of which the path is absolute and the tree is one that a disk can hold. -/
structure Spot.IsOrderly (spot : Spot) : Prop where
  absolute : spot.path.isAbsolute = true
  wellFormed : spot.place.IsWellFormed

namespace Spot

/-- A spot lies somewhere below a path, under its own name. -/
structure LiesBelow (path : Path) (named : String × Spot) : Prop where
  isOrderly : named.2.IsOrderly
  shape :
    ∃ between,
      named.2.path.components = path.components ++ (between ++ [.name named.1.toList])

mutual

/-- What is listed below an entry lies below the path the listing started from. -/
theorem liesBelow_of_mem_belowEntry
    {named : String × Spot}
    {path : Path}
    (absolute : path.isAbsolute = true)
    {above : List Entry} :
    ∀ {entry : Entry},
      Place.IsWellFormed ⟨entry, above⟩ →
      named ∈ belowEntry path above entry →
      LiesBelow path named
  | .file _, _, among => by
      simp [belowEntry] at among
  | .directory entries, wellFormed, among => by
      rw [belowEntry] at among
      exact liesBelow_of_mem_belowEntries absolute
        (List.forall_mem_cons.mpr ⟨wellFormed.entry, wellFormed.above⟩)
        wellFormed.entry.2 among

/-- What is listed below the entries of a directory lies below the path of that directory. -/
theorem liesBelow_of_mem_belowEntries
    {named : String × Spot}
    {path : Path}
    (absolute : path.isAbsolute = true)
    {above : List Entry}
    (aboveWellFormed : ∀ entry ∈ above, entry.IsWellFormed) :
    ∀ {entries : List (String × Entry)},
      AreWellFormed entries →
      named ∈ belowEntries path above entries →
      LiesBelow path named
  | [], _, among => by
      simp [belowEntries] at among
  | (name, entry) :: rest, wellFormed, among => by
      obtain ⟨isName, entryWellFormed, restWellFormed⟩ := wellFormed
      have joined := components_join_of_isEntryName absolute isName
      have joinedAbsolute := Path.isAbsolute_join absolute ⟨name⟩
      rw [belowEntries, List.mem_cons, List.mem_append] at among
      rcases among with rfl | within | later
      · exact ⟨⟨joinedAbsolute, entryWellFormed, aboveWellFormed⟩, [], joined⟩
      · obtain ⟨isOrderly, between, shape⟩ :=
          liesBelow_of_mem_belowEntry joinedAbsolute ⟨entryWellFormed, aboveWellFormed⟩ within
        exact ⟨isOrderly, .name name.toList :: between, by rw [shape, joined]; simp⟩
      · exact liesBelow_of_mem_belowEntries absolute aboveWellFormed restWellFormed later

end

variable {spot next : Spot} {ending : List Char}

/-- One step keeps the names of a path, and a forcing one adds a name with the ending. -/
structure Extends (ending : List Char) (forced : Bool) (spot next : Spot) : Prop where
  isOrderly : next.IsOrderly
  count :
    spot.path.endingCount ending + (if forced then 1 else 0) ≤ next.path.endingCount ending

/-- A step that forces an ending also forces whatever asks for less. -/
theorem Extends.of_forced
    {forced weaker : Bool}
    (extended : Extends ending forced spot next)
    (implied : weaker = true → forced = true) :
    Extends ending weaker spot next := by
  refine ⟨extended.isOrderly, Nat.le_trans ?_ extended.count⟩
  cases weaker with
  | false =>
      exact Nat.le_add_right _ _
  | true =>
      simp [implied rfl]

/-- Entering a name extends the spot, by an ending if the name ends in it. -/
theorem extends_of_enter?
    (isOrderly : spot.IsOrderly)
    {segment : String}
    (noSlash : '/' ∉ segment.toList)
    (isEnding : IsEnding ending)
    (entered : spot.enter? segment = some next) :
    Extends ending (ending.isSuffixOf segment.toList) spot next := by
  obtain ⟨reached, stepped⟩ := enter?_eq_some_iff.mp entered
  have joined := Path.components_join isOrderly.absolute noSlash
  rw [← reached] at joined
  refine ⟨⟨?_, isOrderly.wellFormed.step stepped⟩, ?_⟩
  · rw [reached]
    exact Path.isAbsolute_join isOrderly.absolute _
  · rw [Path.endingCount_of_components joined]
    apply Nat.add_le_add_left
    split
    next ends =>
      -- An ending has a letter, so the segment is a name and no dots.
      obtain ⟨character, among, isLetter⟩ := isEnding.letter
      have isSuffix := List.isSuffixOf_iff_suffix.mp ends
      have isName :=
        Path.ofSegment?_of_letter ⟨character, isSuffix.subset among, isLetter⟩
      rw [Path.steps, List.filterMap_cons_some isName]
      simp [Path.Component.endsIn, ends]
    next =>
      exact Nat.zero_le _

/-- What lies below a spot keeps the names of its path and adds its own. -/
theorem LiesBelow.extends
    {named : String × Spot}
    (below : LiesBelow spot.path named)
    {forced : Bool}
    (ends : forced = true → ending <:+ named.1.toList) :
    Extends ending forced spot named.2 := by
  obtain ⟨between, shape⟩ := below.shape
  refine ⟨below.isOrderly, ?_⟩
  rw [Path.endingCount_of_components shape, List.countP_append, List.countP_singleton]
  apply Nat.add_le_add_left
  cases forced with
  | false =>
      exact Nat.zero_le _
  | true =>
      have isSuffix := List.isSuffixOf_iff_suffix.mpr (ends rfl)
      simp [Path.Component.endsIn, isSuffix]

/-- What is found anywhere below an orderly spot lies below its path. -/
theorem IsOrderly.liesBelow_of_mem_below
    {named : String × Spot}
    (isOrderly : spot.IsOrderly)
    (among : named ∈ spot.below) :
    LiesBelow spot.path named :=
  liesBelow_of_mem_belowEntry isOrderly.absolute isOrderly.wellFormed among

/-- What is found directly in an orderly spot lies below its path. -/
theorem IsOrderly.liesBelow_of_mem_entries
    {named : String × Spot}
    (isOrderly : spot.IsOrderly)
    (among : named ∈ spot.entries) :
    LiesBelow spot.path named := by
  unfold entries at among
  cases shape : spot.place.entry with
  | file content =>
      rw [shape] at among
      cases among
  | directory listed =>
      rw [shape] at among
      obtain ⟨⟨name, entry⟩, isListed, rfl⟩ := List.mem_map.mp among
      have wellFormed := isOrderly.wellFormed.entry
      rw [shape] at wellFormed
      obtain ⟨isName, entryWellFormed⟩ := isWellFormed_of_mem wellFormed.2 isListed
      refine
        ⟨⟨Path.isAbsolute_join isOrderly.absolute _, entryWellFormed,
          List.forall_mem_cons.mpr ⟨wellFormed, isOrderly.wellFormed.above⟩⟩,
          [], components_join_of_isEntryName isOrderly.absolute isName⟩

end Spot

/-- A step keeps the names of a path, and adds one with the ending if it forces that. -/
theorem Step.extends_of_mem_targets
    {ending : List Char}
    (isEnding : IsEnding ending)
    {step : Step}
    (noSlash : ∀ segment, step = .enter segment → '/' ∉ segment.toList)
    {spot next : Spot}
    (isOrderly : spot.IsOrderly)
    (among : next ∈ step.targets spot) :
    Spot.Extends ending (step.forces ending) spot next := by
  have ended :
      ∀ {pattern : Pattern} {text : List Char},
        pattern.isMatch text = true →
        decide (EndLiterally ending pattern.tokens) = true →
        ending <:+ text := by
    intro pattern text isMatch endLiterally
    exact suffix_of_isMatch (of_decide_eq_true endLiterally) isMatch
  cases step with
  | enter segment =>
      exact Spot.extends_of_enter? isOrderly (noSlash segment rfl) isEnding
        (Option.mem_toList.mp among)
  | among pattern =>
      rcases List.mem_append.mp among with isDots | isEntry
      · unfold dots at isDots
        split at isDots
        · -- Dots that match would have the ending.
          obtain ⟨segment, isSegment, entered⟩ := List.mem_filterMap.mp isDots
          obtain ⟨isDot, isMatch⟩ := List.mem_filter.mp isSegment
          have segmentNoSlash : '/' ∉ (String.ofList segment).toList := by
            rw [String.toList_ofList]
            rcases (by simpa using isDot) with rfl | rfl <;> decide
          apply
            (Spot.extends_of_enter? isOrderly segmentNoSlash isEnding entered).of_forced
          intro endLiterally
          rw [String.toList_ofList, List.isSuffixOf_iff_suffix]
          exact ended isMatch endLiterally
        · cases isDots
      · obtain ⟨name, isNamed, isMatch⟩ := exists_of_mem_matching isEntry
        exact (isOrderly.liesBelow_of_mem_entries isNamed).extends (ended isMatch)
  | anywhere pattern =>
      obtain ⟨name, isBelow, isMatch⟩ := exists_of_mem_matching among
      exact (isOrderly.liesBelow_of_mem_below isBelow).extends (ended isMatch)
  | directories =>
      obtain ⟨named, isBelow, rfl⟩ := List.mem_map.mp (List.mem_filter.mp among).1
      exact (isOrderly.liesBelow_of_mem_below isBelow).extends nofun

/-- A path to which steps lead has a name with the ending for each that forces one. -/
theorem countP_forces_le_of_mem_follow
    {ending : List Char}
    (isEnding : IsEnding ending)
    {top : Entry}
    (wellFormed : top.IsWellFormed)
    {steps : List Step}
    (noSlash : ∀ segment, .enter segment ∈ steps → '/' ∉ segment.toList) :
    ∀ spot ∈ follow top steps,
      spot.IsOrderly ∧ steps.countP (Step.forces ending) ≤ spot.path.endingCount ending := by
  induction steps using List.reverseRecOn with
  | nil =>
      intro spot isTop
      rw [List.mem_singleton.mp isTop]
      exact ⟨⟨Path.isAbsolute_slash, wellFormed, nofun⟩, Nat.zero_le _⟩
  | append_singleton front step inductionHypothesis =>
      intro next isNext
      rw [follow_append] at isNext
      obtain ⟨spot, isSpot, isTarget⟩ := List.mem_flatMap.mp isNext
      obtain ⟨isOrderly, counted⟩ :=
        inductionHypothesis
          (fun segment among => noSlash segment (List.mem_append_left _ among)) spot isSpot
      have stepNoSlash : ∀ segment, step = .enter segment → '/' ∉ segment.toList := by
        rintro segment rfl
        exact noSlash segment (by simp)
      have extended := step.extends_of_mem_targets isEnding stepNoSlash isOrderly isTarget
      refine ⟨extended.isOrderly, Nat.le_trans ?_ extended.count⟩
      rw [List.countP_append, List.countP_singleton]
      exact Nat.add_le_add_right counted _

/-- A part that parses was read as the tokens of its pattern. -/
theorem tokensFrom_of_parse
    {part : List Char}
    {pattern : Pattern}
    (parsed : Pattern.parse (String.ofList part) = .ok pattern) :
    tokensFrom true part = .ok pattern.tokens := by
  rw [Pattern.parse, String.toList_ofList] at parsed
  cases read : tokensFrom true part with
  | error cause =>
      rw [read] at parsed
      cases parsed
  | ok tokens =>
      rw [read] at parsed
      cases parsed
      rfl

section Parsed

variable
  {ending : List Char}
  {parts : List (List Char)}
  {patterns : List Pattern}
  (noSlash : ∀ part ∈ parts, '/' ∉ part)
  (parsed :
    (parts.map fun part => Pattern.parse (String.ofList part)) = patterns.map .ok)

include noSlash parsed

/-- Each component with the ending is read as a pattern with it. -/
theorem countP_le_countP_of_parse (isEnding : IsEnding ending) :
    parts.countP (ending.isSuffixOf ·) ≤
      patterns.countP fun pattern => EndLiterally ending pattern.tokens := by
  induction parts generalizing patterns with
  | nil =>
      exact Nat.zero_le _
  | cons part rest inductionHypothesis =>
      obtain ⟨partNoSlash, restNoSlash⟩ := List.forall_mem_cons.mp noSlash
      obtain ⟨pattern, others, rfl, isPattern, areOthers⟩ := List.map_eq_cons_iff.mp parsed.symm
      rw [List.countP_cons, List.countP_cons]
      apply Nat.add_le_add (inductionHypothesis restNoSlash areOthers.symm)
      by_cases ends : ending <:+ part
      · have endLiterally :=
          endLiterally_of_tokensFrom isEnding partNoSlash ends
            (tokensFrom_of_parse isPattern.symm)
        simp [endLiterally, List.isSuffixOf_iff_suffix.mpr ends]
      · simp [List.isSuffixOf_iff_suffix, ends]

/-- No pattern of a part that stands between slashes has a slash. -/
theorem noSlash_of_parse :
    ∀ pattern ∈ patterns, .literal '/' ∉ pattern.tokens := by
  intro pattern among isSlash
  have isParsed := parsed ▸ List.mem_map_of_mem (f := Except.ok) among
  obtain ⟨part, isPart, same⟩ := List.mem_map.mp isParsed
  exact noSlash part isPart (mem_of_literal_mem_tokensFrom (tokensFrom_of_parse same) isSlash)

end Parsed

/-- A path that is found below a root has more names with the ending than the root. -/
theorem endingCount_lt_of_discover
    {root : Path}
    {extension : List Char}
    {pattern : String}
    (isPattern :
      pattern.toList =
        root.text.toList ++ '/' :: '*' :: '*' :: '/' :: '*' :: '.' :: extension)
    (absolute : root.isAbsolute = true)
    (isEnding : IsEnding ('.' :: extension))
    {top : Entry}
    (wellFormed : top.IsWellFormed)
    {paths : List Path}
    (discovered : discover top pattern = .ok paths)
    {path : Path}
    (among : path ∈ paths) :
    root.endingCount ('.' :: extension) < path.endingCount ('.' :: extension) := by
  obtain ⟨steps, isSteps, rfl⟩ := discover_eq_ok_iff.mp discovered
  obtain ⟨_, patterns, parsed, rfl⟩ := stepsOf_eq_ok_iff.mp isSteps
  obtain ⟨spot, isSpot, rfl⟩ := List.mem_map.mp among
  have noSlash : ∀ part ∈ (segments pattern.toList).tail, '/' ∉ part := by
    intro part isPart
    exact noSlash_of_mem_segments (List.mem_of_mem_tail isPart)
  have extensionNoSlash : '/' ∉ extension := by
    intro isSlash
    exact isEnding.noSlash (List.mem_cons_of_mem _ isSlash)
  have inParts :
      (segments root.text.toList).tail.countP (('.' :: extension).isSuffixOf ·) <
        (segments pattern.toList).tail.countP (('.' :: extension).isSuffixOf ·) := by
    rw [tail_segments_of_isPattern isPattern extensionNoSlash, List.countP_append]
    apply Nat.lt_add_of_pos_right
    rw [List.countP_pos_iff]
    refine ⟨'*' :: '.' :: extension, by simp, ?_⟩
    exact List.isSuffixOf_iff_suffix.mpr (List.suffix_cons ..)
  have stepsNoSlash :
      ∀ segment, .enter segment ∈ Step.ofComponents patterns → '/' ∉ segment.toList := by
    intro segment isEnter
    exact noSlash_of_mem_ofComponents (noSlash_of_parse noSlash parsed) isEnter
  calc root.endingCount ('.' :: extension)
      _ ≤ (segments root.text.toList).tail.countP (('.' :: extension).isSuffixOf ·) :=
        Path.endingCount_le absolute
      _ < (segments pattern.toList).tail.countP (('.' :: extension).isSuffixOf ·) :=
        inParts
      _ ≤ patterns.countP fun pattern => EndLiterally ('.' :: extension) pattern.tokens :=
        countP_le_countP_of_parse noSlash parsed isEnding
      _ ≤ (Step.ofComponents patterns).countP (Step.forces ('.' :: extension)) :=
        countP_le_countP_ofComponents patterns
      _ ≤ spot.path.endingCount ('.' :: extension) :=
        (countP_forces_le_of_mem_follow isEnding wellFormed stepsNoSlash spot isSpot).2

end Glob

end UsageLint
