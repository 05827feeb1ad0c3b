import UsageLint.Glob.Pattern
import UsageLint.Text.Occurrence

namespace UsageLint.Glob

/-!
# Matching

A pattern matches a text if its parts match pieces that make up the text. A
star matches slashes too; a run of components ends after a slash, or where the
text ends.

`matchesAll` says so, part by part. `Pattern.isMatch` finds the same, as
`Pattern.isMatch_eq` states, in a better way: it goes through a pattern from its
end and notes for every suffix of the text, longest first, whether the parts so
far match it. So nothing is tried twice, however many stars there are.
-/

/-- Whether a character is in one of some ranges. -/
def inRanges (ranges : List CharacterRange) (character : Char) : Bool :=
  ranges.any fun (first, last) => first ≤ character && character ≤ last

/-- Whether a part that stands for one character stands for this one. -/
def Token.admits (token : Token) (character : Char) : Bool :=
  match token with
  | literal expected => expected == character
  | anyCharacter => true
  | oneOf ranges => inRanges ranges character
  | noneOf ranges => !inRanges ranges character
  | anySequence | anyComponents => false

/-- What may be left of a text after some whole components, and nothing. -/
def afterComponents : List Char → List (List Char)
  | [] => [[]]
  | character :: rest =>
      if character = '/' then
        rest :: afterComponents rest
      else
        afterComponents rest

/-- What a part may leave of a text. -/
def Token.leaves (token : Token) (text : List Char) : List (List Char) :=
  match token with
  | anySequence => Text.suffixes text
  | anyComponents => text :: afterComponents text
  | _ =>
      match text with
      | character :: rest => if token.admits character then [rest] else []
      | [] => []

/-- Whether parts match a text from its start to its end. -/
def matchesAll : List Token → List Char → Bool
  | [], text => text.isEmpty
  | token :: tokens, text => (token.leaves text).any fun rest => matchesAll tokens rest

/-- Whether one of the answers for what some whole components leave is positive. -/
def anyAfterComponents : List Char → List Bool → Bool
  | character :: rest, _ :: answers =>
      (character == '/' && answers.headD false) || anyAfterComponents rest answers
  | _, answers => answers.headD false

/-- The answer for a text before which a part is put, from those for its suffixes. -/
def Token.answer (token : Token) (text : List Char) (answers : List Bool) : Bool :=
  match token with
  | anySequence => answers.any id
  | anyComponents => answers.headD false || anyAfterComponents text answers
  | _ =>
      match text with
      | character :: _ => token.admits character && answers.tail.headD false
      | [] => false

/-- The answers for all suffixes of a text before which a part is put. -/
def Token.answers (token : Token) : List Char → List Bool → List Bool
  | [], answers => [token.answer [] answers]
  | character :: rest, answers =>
      token.answer (character :: rest) answers :: token.answers rest answers.tail

/-- Whether parts match the suffixes of a text, longest first. -/
def suffixAnswers (tokens : List Token) (text : List Char) : List Bool :=
  tokens.foldr (fun token answers => token.answers text answers)
    ((Text.suffixes text).map List.isEmpty)

/-- Whether a pattern matches a text. -/
def Pattern.isMatch (pattern : Pattern) (text : List Char) : Bool :=
  (suffixAnswers pattern.tokens text).headD false

/-- The first suffix of a text is the text itself. -/
theorem headD_map_suffixes (text : List Char) (test : List Char → Bool) :
    ((Text.suffixes text).map test).headD false = test text := by
  cases text <;> rfl

/-- Answers for what whole components leave are answers for suffixes. -/
theorem anyAfterComponents_map_suffixes (text : List Char) (test : List Char → Bool) :
    anyAfterComponents text ((Text.suffixes text).map test) =
      (afterComponents text).any test := by
  induction text with
  | nil =>
      simp [anyAfterComponents, afterComponents, Text.suffixes]
  | cons character rest inductionHypothesis =>
      simp only [Text.suffixes, List.map_cons, anyAfterComponents, afterComponents,
        headD_map_suffixes, inductionHypothesis]
      by_cases isSlash : character = '/' <;> simp [isSlash]

/-- A text is answered by asking for what the part may leave of it. -/
theorem Token.answer_map_suffixes
    (token : Token)
    (text : List Char)
    (test : List Char → Bool) :
    token.answer text ((Text.suffixes text).map test) =
      (token.leaves text).any test := by
  cases token with
  | anySequence =>
      simp [answer, leaves]
  | anyComponents =>
      simp only [answer, leaves, List.any_cons, headD_map_suffixes,
        anyAfterComponents_map_suffixes]
  | _ =>
      cases text with
      | nil =>
          simp [answer, leaves]
      | cons character rest =>
          simp only [answer, leaves, Text.suffixes, List.map_cons, List.tail_cons,
            headD_map_suffixes]
          split <;> simp_all

/-- The same holds of every suffix of a text. -/
theorem Token.answers_map_suffixes
    (token : Token)
    (text : List Char)
    (test : List Char → Bool) :
    token.answers text ((Text.suffixes text).map test) =
      (Text.suffixes text).map fun suffix => (token.leaves suffix).any test := by
  induction text with
  | nil =>
      simp only [answers, answer_map_suffixes]
      rfl
  | cons character rest inductionHypothesis =>
      simp only [answers, answer_map_suffixes]
      simp only [Text.suffixes, List.map_cons, List.tail_cons, inductionHypothesis]

/-- The answers for suffixes say which of them the parts match. -/
theorem suffixAnswers_eq (tokens : List Token) (text : List Char) :
    suffixAnswers tokens text = (Text.suffixes text).map (matchesAll tokens) := by
  induction tokens with
  | nil =>
      rfl
  | cons token tokens inductionHypothesis =>
      have step : suffixAnswers (token :: tokens) text =
          token.answers text (suffixAnswers tokens text) := rfl
      rw [step, inductionHypothesis, Token.answers_map_suffixes]
      rfl

/-- A pattern matches the texts that its parts match from start to end. -/
theorem Pattern.isMatch_eq (pattern : Pattern) (text : List Char) :
    pattern.isMatch text = matchesAll pattern.tokens text := by
  rw [isMatch, suffixAnswers_eq, headD_map_suffixes]

end UsageLint.Glob
