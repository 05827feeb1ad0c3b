namespace UsageLint.Text

/-!
# Blanks

A blank is a character with the Unicode property White_Space. Trimming and
splitting into words treat every blank alike.
-/

/-- The blanks, in ranges from first to last. -/
def blankRanges : List (Nat × Nat) :=
  [(0x09, 0x0D), (0x20, 0x20), (0x85, 0x85), (0xA0, 0xA0), (0x1680, 0x1680),
    (0x2000, 0x200A), (0x2028, 0x2029), (0x202F, 0x202F), (0x205F, 0x205F),
    (0x3000, 0x3000)]

/-- Whether a character is a blank. -/
def isBlank (character : Char) : Bool :=
  blankRanges.any fun (first, last) =>
    first ≤ character.toNat && character.toNat ≤ last

/-- A text without the blanks at its ends. -/
def trim (text : List Char) : List Char :=
  ((text.dropWhile isBlank).reverse.dropWhile isBlank).reverse

/-- The words of a text, given the word read so far in reverse. -/
def wordsFrom : List Char → List Char → List (List Char)
  | [], [] => []
  | word, [] => [word.reverse]
  | word, character :: rest =>
      if isBlank character then
        match word with
        | [] => wordsFrom [] rest
        | _ => word.reverse :: wordsFrom [] rest
      else
        wordsFrom (character :: word) rest

/-- The longest runs of characters that are not blanks. -/
def words (text : List Char) : List (List Char) :=
  wordsFrom [] text

/-- The end of a text ends the word read so far. -/
theorem wordsFrom_nil
    {word : List Char}
    (nonempty : word ≠ []) :
    wordsFrom word [] = [word.reverse] := by
  cases word with
  | nil =>
      exact (nonempty rfl).elim
  | cons _ _ =>
      rfl

/-- A blank ends the word read so far, as the end of a text would. -/
theorem wordsFrom_cons_of_isBlank
    {blank : Char}
    (blanks : isBlank blank = true)
    (word rest : List Char) :
    wordsFrom word (blank :: rest) = wordsFrom word [] ++ words rest := by
  cases word <;> simp [wordsFrom, words, blanks]

/-- Any other character goes on with the word read so far. -/
theorem wordsFrom_cons_of_not_isBlank
    {character : Char}
    (solid : isBlank character = false)
    (word rest : List Char) :
    wordsFrom word (character :: rest) = wordsFrom (character :: word) rest := by
  cases word <;> simp [wordsFrom, solid]

end UsageLint.Text
