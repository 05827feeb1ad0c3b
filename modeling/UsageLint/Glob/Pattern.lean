namespace UsageLint.Glob

/-!
# Patterns

A pattern is a text in which `?` stands for any character, `*` for any run of
characters, a set in brackets for one character of the set, and `**` as a
component of its own for any run of components.
-/

/-- A run of characters from first to last. -/
abbrev CharacterRange := Char × Char

/-- One part of a pattern. -/
inductive Token where
  | literal (character : Char)
  | anyCharacter
  | anySequence
  /-- Any run of components, with the slash after it. -/
  | anyComponents
  | oneOf (ranges : List CharacterRange)
  | noneOf (ranges : List CharacterRange)
deriving Repr, DecidableEq

/-- A pattern is what its parts match one after another. -/
structure Pattern where
  tokens : List Token
deriving Repr, DecidableEq

/-- Why a text is no pattern. -/
inductive PatternFault where
  /-- A bracket opens no set. -/
  | invalidRange
  /-- Two stars share a component with something else. -/
  | sharedComponent
  /-- More than two stars stand together. -/
  | tooManyStars
deriving Repr, DecidableEq

/-- The text shown for what is wrong with a pattern. -/
def PatternFault.message : PatternFault → String
  | invalidRange => "invalid range pattern"
  | sharedComponent => "recursive wildcards must form a single path component"
  | tooManyStars => "wildcards are either regular `*` or recursive `**`"

/-- Where reading a text as a pattern ends: why, and with how many characters left. -/
structure Misfit where
  fault : PatternFault
  left : Nat
deriving Repr, DecidableEq

/-- Why a text is no pattern, and after how many characters. -/
structure PatternError where
  fault : PatternFault
  position : Nat
deriving Repr, DecidableEq

/-- A misfit in a text of some length. -/
def Misfit.within (misfit : Misfit) (length : Nat) : PatternError :=
  ⟨misfit.fault, length - misfit.left⟩

/-- The text shown for a pattern error. -/
def PatternError.message (error : PatternError) : String :=
  s!"Pattern syntax error near position {error.position}: " ++ error.fault.message

/-- The ranges of a set; a hyphen between two characters makes a range. -/
def rangesOf : List Char → List CharacterRange
  | first :: '-' :: last :: rest => (first, last) :: rangesOf rest
  | character :: rest => (character, character) :: rangesOf rest
  | [] => []

/-- What stands before and after the next closing bracket. -/
def splitAtBracket? : List Char → Option (List Char × List Char)
  | [] => none
  | ']' :: rest => some ([], rest)
  | character :: rest =>
      (splitAtBracket? rest).map fun (inside, after) =>
        (character :: inside, after)

/--
The set that a text lists up to a closing bracket, and what follows it.

A set is never empty: a closing bracket that comes first belongs to the set.
-/
def listedSet?
    (token : List CharacterRange → Token)
    (text : List Char) :
    Option (Token × List Char) :=
  match text with
  | [] => none
  | first :: rest =>
      (splitAtBracket? rest).map fun (inside, after) =>
        (token (rangesOf (first :: inside)), after)

/-- The set after an opening bracket, or its complement after a mark. -/
def set? (text : List Char) : Option (Token × List Char) :=
  match text with
  | '!' :: rest => listedSet? .noneOf rest
  | _ => listedSet? .oneOf text

/-- What follows a closing bracket is shorter than the whole. -/
theorem length_lt_of_splitAtBracket?
    {text inside after : List Char}
    (split : splitAtBracket? text = some (inside, after)) :
    after.length < text.length := by
  fun_induction splitAtBracket? text generalizing inside with
  | case1 =>
      simp at split
  | case2 rest =>
      simp_all
  | case3 character rest _ inductionHypothesis =>
      simp only [Option.map_eq_some_iff] at split
      obtain ⟨⟨inside, _⟩, isSplit, equal⟩ := split
      cases equal
      exact Nat.lt_succ_of_lt (inductionHypothesis isSplit)

/-- What follows a listed set is shorter than the whole. -/
theorem length_lt_of_listedSet?
    {kind : List CharacterRange → Token}
    {text after : List Char}
    {token : Token}
    (found : listedSet? kind text = some (token, after)) :
    after.length < text.length := by
  cases text with
  | nil =>
      simp [listedSet?] at found
  | cons first rest =>
      simp only [listedSet?, Option.map_eq_some_iff] at found
      obtain ⟨⟨inside, _⟩, isSplit, equal⟩ := found
      cases equal
      exact Nat.lt_succ_of_lt (length_lt_of_splitAtBracket? isSplit)

/-- What follows a set is shorter than the whole. -/
theorem length_lt_of_set?
    {text after : List Char}
    {token : Token}
    (found : set? text = some (token, after)) :
    after.length < text.length := by
  unfold set? at found
  split at found
  · exact Nat.lt_succ_of_lt (length_lt_of_listedSet? found)
  · exact length_lt_of_listedSet? found

/--
Read the rest of a pattern, which may or may not open a component.

Of three stars the third is the misfit; of two, what follows them, or else what
stands before them.
-/
def tokensFrom (opens : Bool) (text : List Char) :
    Except Misfit (List Token) :=
  match text with
  | [] => .ok []
  | '?' :: rest => (tokensFrom false rest).map (.anyCharacter :: ·)
  | '*' :: '*' :: '*' :: rest => .error ⟨.tooManyStars, rest.length + 1⟩
  | '*' :: '*' :: rest =>
      if opens then
        match rest with
        | [] => .ok [.anyComponents]
        | '/' :: others => (tokensFrom true others).map (.anyComponents :: ·)
        | _ => .error ⟨.sharedComponent, rest.length⟩
      else
        .error ⟨.sharedComponent, rest.length + 3⟩
  | '*' :: rest => (tokensFrom false rest).map (.anySequence :: ·)
  | '[' :: rest =>
      match found : set? rest with
      | some (token, others) =>
          have := length_lt_of_set? found
          (tokensFrom false others).map (token :: ·)
      | none => .error ⟨.invalidRange, rest.length + 1⟩
  | character :: rest =>
      (tokensFrom (character == '/') rest).map (.literal character :: ·)
termination_by text.length

namespace Pattern

/-- Read a pattern. -/
def parse (text : String) : Except PatternError Pattern :=
  match tokensFrom true text.toList with
  | .ok tokens => .ok ⟨tokens⟩
  | .error misfit => .error (misfit.within text.toList.length)

/-- The text that alone matches a pattern without wildcards. -/
def literalText? (pattern : Pattern) : Option (List Char) :=
  pattern.tokens.mapM fun token =>
    match token with
    | .literal character => some character
    | _ => none

/-- Whether a pattern stands for any run of components. -/
def isRecursive (pattern : Pattern) : Bool :=
  pattern.tokens.contains .anyComponents

end Pattern

end UsageLint.Glob
