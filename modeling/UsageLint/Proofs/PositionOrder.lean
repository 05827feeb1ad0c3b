import UsageLint.Syntax.Source

namespace UsageLint.Syntax

/-!
# The order of positions

Reading on in a text leads to a later line, or to a later column of the same
line. So the positions in a text are in order as the offsets are.
-/

namespace Position

/-- Positions are ordered by their lines, and within a line by their columns. -/
def compare (left right : Position) : Ordering :=
  (Ord.compare left.line right.line).then (Ord.compare left.column right.column)

/-- A position is on an earlier line, or earlier on the same line. -/
def Before (left right : Position) : Prop :=
  left.line < right.line ∨ left.line = right.line ∧ left.column < right.column

instance (left right : Position) : Decidable (left.Before right) :=
  inferInstanceAs (Decidable (_ ∨ _ ∧ _))

theorem compare_of_before
    {left right : Position}
    (before : left.Before right) :
    left.compare right = .lt ∧ right.compare left = .gt := by
  unfold compare
  rcases before with earlierLine | ⟨sameLine, earlierColumn⟩
  · simp [Nat.compare_eq_lt.mpr earlierLine, Nat.compare_eq_gt.mpr earlierLine]
  · simp [sameLine, Nat.compare_eq_lt.mpr earlierColumn,
      Nat.compare_eq_gt.mpr earlierColumn]

/-- Of three positions in order, the first comes before the last. -/
theorem Before.trans
    {first second third : Position}
    (early : first.Before second)
    (late : second.Before third) :
    first.Before third := by
  unfold Before at early late ⊢
  omega

/-- The position behind one character. -/
def behind (position : Position) (character : Char) : Position :=
  if character = '\n' then
    ⟨position.line + 1, 1⟩
  else
    ⟨position.line, position.column + character.utf8Size⟩

theorem advance_cons
    (position : Position)
    (bytes : Nat)
    (character : Char)
    (rest : List Char) :
    position.advance bytes (character :: rest) =
      if bytes < character.utf8Size then
        { position with column := position.column + bytes }
      else
        (position.behind character).advance (bytes - character.utf8Size) rest := by
  rw [advance, behind]
  split
  · rfl
  · split <;> rfl

theorem advance_zero (position : Position) (characters : List Char) :
    position.advance 0 characters = position := by
  cases characters with
  | nil =>
      rfl
  | cons character rest =>
      rw [advance_cons, if_pos character.utf8Size_pos]
      rfl

theorem before_behind
    (position : Position)
    {character : Char}
    {bytes : Nat}
    (within : bytes < character.utf8Size) :
    Before { position with column := position.column + bytes }
      (position.behind character) := by
  unfold behind
  split
  · exact Or.inl (Nat.lt_succ_self _)
  · exact Or.inr ⟨rfl, Nat.add_lt_add_left within _⟩

/-- Reading on from a place comes to a later one. -/
theorem before_advance
    (position : Position)
    {bytes : Nat}
    (reads : 0 < bytes)
    (characters : List Char) :
    position.Before (position.advance bytes characters) := by
  induction characters generalizing position bytes with
  | nil =>
      exact Or.inr ⟨rfl, Nat.lt_add_of_pos_right reads⟩
  | cons character rest inductionHypothesis =>
      have toBehind : position.Before (position.behind character) :=
        position.before_behind character.utf8Size_pos
      rw [advance_cons]
      split
      · exact Or.inr ⟨rfl, Nat.lt_add_of_pos_right reads⟩
      · rcases Nat.eq_zero_or_pos (bytes - character.utf8Size) with ended | goesOn
        · rw [ended, advance_zero]
          exact toBehind
        · exact toBehind.trans (inductionHypothesis _ goesOn)

/-- Of two readings from one place the longer one comes to a later place. -/
theorem advance_before_advance
    (position : Position)
    {bytes further : Nat}
    (shorter : bytes < further)
    (characters : List Char) :
    (position.advance bytes characters).Before (position.advance further characters) := by
  induction characters generalizing position bytes further with
  | nil =>
      exact Or.inr ⟨rfl, Nat.add_lt_add_left shorter _⟩
  | cons character rest inductionHypothesis =>
      simp only [advance_cons]
      by_cases within : bytes < character.utf8Size
      · by_cases alsoWithin : further < character.utf8Size
        · rw [if_pos within, if_pos alsoWithin]
          exact Or.inr ⟨rfl, Nat.add_lt_add_left shorter _⟩
        · rw [if_pos within, if_neg alsoWithin]
          have toBehind := position.before_behind within
          rcases Nat.eq_zero_or_pos (further - character.utf8Size) with ended | goesOn
          · rw [ended, advance_zero]
            exact toBehind
          · exact toBehind.trans (before_advance _ goesOn rest)
      · have beyond : ¬ further < character.utf8Size := by omega
        rw [if_neg within, if_neg beyond]
        apply inductionHypothesis
        omega

/-- Reading a text as a whole is reading its characters one by one. -/
theorem advance_append
    (position : Position)
    (before after : List Char)
    (further : Nat) :
    position.advance (byteCount before + further) (before ++ after) =
      (before.foldl behind position).advance further after := by
  induction before generalizing position with
  | nil =>
      simp [byteCount]
  | cons character rest inductionHypothesis =>
      have beyond :
          ¬ byteCount (character :: rest) + further < character.utf8Size := by
        simp only [byteCount]
        omega
      have remaining :
          byteCount (character :: rest) + further - character.utf8Size =
            byteCount rest + further := by
        simp only [byteCount]
        omega
      rw [List.cons_append, advance_cons, if_neg beyond, remaining, inductionHypothesis,
        List.foldl_cons]

/-- Each line break passed is one more line. -/
theorem line_foldl_behind (position : Position) (characters : List Char) :
    (characters.foldl behind position).line =
      position.line + characters.count '\n' := by
  induction characters generalizing position with
  | nil =>
      rfl
  | cons character rest inductionHypothesis =>
      rw [List.foldl_cons, inductionHypothesis, List.count_cons, behind]
      by_cases isFeed : character = '\n'
      · simp only [isFeed, if_true, beq_self_eq_true]
        omega
      · simp [isFeed]

/-- Passing text of one line moves the column by its bytes. -/
theorem foldl_behind_of_oneLine
    (position : Position)
    {characters : List Char}
    (oneLine : '\n' ∉ characters) :
    characters.foldl behind position =
      ⟨position.line, position.column + byteCount characters⟩ := by
  induction characters generalizing position with
  | nil =>
      rfl
  | cons character rest inductionHypothesis =>
      rw [List.mem_cons, not_or] at oneLine
      have noFeed : character ≠ '\n' := Ne.symm oneLine.1
      rw [List.foldl_cons, inductionHypothesis _ oneLine.2, behind, if_neg noFeed,
        byteCount, Nat.add_assoc]

end Position

namespace Source

/-- Positions in a text are ordered as the offsets are. -/
theorem compare_position (source : Source) (first second : Nat) :
    (source.position first).compare (source.position second) =
      Ord.compare first second := by
  rcases Nat.lt_trichotomy first second with earlier | same | later
  · have before := Position.advance_before_advance ⟨1, 1⟩ earlier source.characters
    exact (Position.compare_of_before before).1.trans (Nat.compare_eq_lt.mpr earlier).symm
  · rw [same]
    simp [Position.compare]
  · have before := Position.advance_before_advance ⟨1, 1⟩ later source.characters
    exact (Position.compare_of_before before).2.trans (Nat.compare_eq_gt.mpr later).symm

/-- The byte of an earlier position is the earlier byte. -/
theorem lt_of_before
    {source : Source}
    {first second : Nat}
    (before : (source.position first).Before (source.position second)) :
    first < second := by
  have compared := (Position.compare_of_before before).1
  rw [compare_position] at compared
  exact Nat.compare_eq_lt.mp compared

/-- On the first line the column counts all bytes before, starting from one. -/
theorem position_on_first_line
    {current : List Char}
    (oneLine : '\n' ∉ current)
    (after : List Char) :
    position ⟨current ++ after⟩ (byteCount current) = ⟨1, 1 + byteCount current⟩ := by
  have read := Position.advance_append ⟨1, 1⟩ current after 0
  rw [Position.advance_zero, Position.foldl_behind_of_oneLine _ oneLine] at read
  exact read

/--
The line counts the line feeds before, and the column the bytes since the last of
them, each starting from one.
-/
theorem position_on_later_line
    (earlier : List Char)
    {current : List Char}
    (oneLine : '\n' ∉ current)
    (after : List Char) :
    position ⟨earlier ++ '\n' :: (current ++ after)⟩
        (byteCount (earlier ++ '\n' :: current)) =
      ⟨1 + (earlier ++ '\n' :: current).count '\n', 1 + byteCount current⟩ := by
  have read :=
    Position.advance_append ⟨1, 1⟩ (earlier ++ '\n' :: current) after 0
  have line :=
    Position.line_foldl_behind ⟨1, 1⟩ (earlier ++ '\n' :: current)
  rw [Position.advance_zero] at read
  rw [List.foldl_append, List.foldl_cons, Position.behind, if_pos rfl,
    Position.foldl_behind_of_oneLine _ oneLine] at read line
  rw [← line, position]
  simpa using read

end Source

end UsageLint.Syntax
