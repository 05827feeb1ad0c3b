namespace UsageLint.Text

/-!
# Occurrences

A word occurs in a text if some suffix of the text starts with it.
-/

/-- The suffixes of a list, longest first, down to the empty one. -/
def suffixes {α : Type} : List α → List (List α)
  | [] => [[]]
  | item :: rest => (item :: rest) :: suffixes rest

/-- Whether a word occurs in a text. -/
def occursIn (word text : List Char) : Bool :=
  (suffixes text).any word.isPrefixOf

/-- The suffixes are exactly what can follow something. -/
theorem mem_suffixes {α : Type} (text suffix : List α) :
    suffix ∈ suffixes text ↔ ∃ before, before ++ suffix = text := by
  induction text with
  | nil =>
      simp [suffixes]
  | cons item rest inductionHypothesis =>
      simp only [suffixes, List.mem_cons, inductionHypothesis]
      constructor
      · rintro (whole | ⟨before, rebuilt⟩)
        · exact ⟨[], whole⟩
        · exact ⟨item :: before, by simp [rebuilt]⟩
      · rintro ⟨before, rebuilt⟩
        cases before with
        | nil =>
            exact .inl rebuilt
        | cons first others =>
            simp only [List.cons_append, List.cons.injEq] at rebuilt
            exact .inr ⟨others, rebuilt.2⟩

end UsageLint.Text
