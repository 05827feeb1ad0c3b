import UsageLint.Vocabulary
import UsageLint.Text.Segments

namespace UsageLint

open UsageLint.Text

/-!
# Custom modules by segments

A specifier names the custom module if it is the very name, or a path before a slash
and the name. In terms of segments this is one condition: those of the name are the
last ones of the specifier. What follows for names and paths is then a matter of
lists.
-/

namespace Text

/-- The last segments of a text are those of an ending that a slash stands before. -/
theorem segments_suffix_iff (ending text : List Char) :
    segments ending <:+ segments text ↔
      text = ending ∨ ∃ path, text = path ++ '/' :: ending := by
  constructor
  · rintro ⟨front, shape⟩
    rw [← joinSegments_segments text, ← shape]
    by_cases nonempty : front = []
    · left
      rw [nonempty, List.nil_append, joinSegments_segments]
    · right
      refine ⟨joinSegments front, ?_⟩
      rw [joinSegments_append nonempty (segments_ne_nil ending), joinSegments_segments]
  · rintro (rfl | ⟨path, rfl⟩)
    · exact List.suffix_refl _
    · rw [segments_append_slash]
      exact List.suffix_append ..

theorem singleton_suffix_iff
    {α : Type}
    (last : α)
    (items : List α) :
    [last] <:+ items ↔ items.getLast? = some last := by
  rw [List.getLast?_eq_some_iff]
  exact exists_congr fun _ => eq_comm

end Text

namespace Vocabulary

/-- What is left of a text before an ending ends with a slash if one stands there. -/
theorem endsAfterSlash_iff (ending text : List Char) :
    (ending.isSuffixOf text &&
        (text.take (text.length - ending.length)).getLast? == some '/') = true ↔
      ∃ path, text = path ++ '/' :: ending := by
  have cut : ∀ front : List Char,
      (front ++ ending).take ((front ++ ending).length - ending.length) = front := by
    simp
  rw [Bool.and_eq_true, List.isSuffixOf_iff_suffix, beq_iff_eq]
  constructor
  · rintro ⟨⟨front, rfl⟩, ended⟩
    rw [cut, List.getLast?_eq_some_iff] at ended
    obtain ⟨path, rfl⟩ := ended
    exact ⟨path, (List.append_cons ..).symm⟩
  · rintro ⟨path, rfl⟩
    rw [List.append_cons, cut]
    exact ⟨List.suffix_append .., List.getLast?_concat⟩

/-- A specifier names the custom module if it ends with the segments of the name. -/
theorem matchesCustomModule_iff (specifier custom : String) :
    matchesCustomModule specifier custom = true ↔
      custom ≠ "" ∧ segments custom.toList <:+ segments specifier.toList := by
  unfold matchesCustomModule
  by_cases empty : custom = ""
  · subst empty
    simp
  · have nonempty : custom.toList.isEmpty = false := by
      simpa using empty
    rw [segments_suffix_iff, ← endsAfterSlash_iff]
    simp [nonempty, empty]

theorem matchesCustomModule_self
    {custom : String}
    (nonempty : custom ≠ "") :
    matchesCustomModule custom custom = true :=
  (matchesCustomModule_iff ..).mpr ⟨nonempty, List.suffix_refl _⟩

theorem matchesCustomModule_trans
    {first second third : String}
    (outer : matchesCustomModule first second = true)
    (inner : matchesCustomModule second third = true) :
    matchesCustomModule first third = true := by
  rw [matchesCustomModule_iff] at outer inner ⊢
  exact ⟨inner.1, inner.2.trans outer.2⟩

/-- A specifier that names the custom module names it from further away as well. -/
theorem matchesCustomModule_path
    {specifier custom : String}
    (named : matchesCustomModule specifier custom = true)
    (path : String) :
    matchesCustomModule (path ++ "/" ++ specifier) custom = true := by
  have parts :
      segments (path ++ "/" ++ specifier).toList =
        segments path.toList ++ segments specifier.toList := by
    simp [segments_append_slash]
  rw [matchesCustomModule_iff] at named ⊢
  rw [parts]
  exact ⟨named.1, named.2.trans (List.suffix_append ..)⟩

/-- A name of one segment is compared with the last segment of a specifier. -/
theorem matchesCustomModule_of_noSlash
    {custom : String}
    (nonempty : custom ≠ "")
    (noSlash : '/' ∉ custom.toList)
    (specifier : String) :
    matchesCustomModule specifier custom = true ↔
      (segments specifier.toList).getLast? = some custom.toList := by
  rw [matchesCustomModule_iff, segments_of_noSlash noSlash, singleton_suffix_iff]
  exact and_iff_right nonempty

/--
A specifier names the custom module exactly if the module has a name and the segments
of the name are the last ones of the specifier. So each name names itself, what names
a name also names what that one names, and a path in front changes nothing; a name
without a slash is to be the last segment.
-/
theorem custom_module_is_named_by_last_segments :
    (∀ specifier custom : String,
      matchesCustomModule specifier custom = true ↔
        custom ≠ "" ∧ segments custom.toList <:+ segments specifier.toList) ∧
      (∀ custom : String, custom ≠ "" → matchesCustomModule custom custom = true) ∧
      (∀ first second third : String,
        matchesCustomModule first second = true →
          matchesCustomModule second third = true →
            matchesCustomModule first third = true) ∧
      (∀ path specifier custom : String,
        matchesCustomModule specifier custom = true →
          matchesCustomModule (path ++ "/" ++ specifier) custom = true) ∧
      ∀ specifier custom : String,
        custom ≠ "" →
          '/' ∉ custom.toList →
            (matchesCustomModule specifier custom = true ↔
              (segments specifier.toList).getLast? = some custom.toList) := by
  refine ⟨matchesCustomModule_iff, ?reflexive, ?transitive, ?moved, ?oneSegment⟩
  case reflexive =>
    intro custom nonempty
    exact matchesCustomModule_self nonempty
  case transitive =>
    intro first second third outer inner
    exact matchesCustomModule_trans outer inner
  case moved =>
    intro path specifier custom named
    exact matchesCustomModule_path named path
  case oneSegment =>
    intro specifier custom nonempty noSlash
    exact matchesCustomModule_of_noSlash nonempty noSlash specifier

/-- A name with a scope is not named without it. -/
example :
    matchesCustomModule "../lib/@app/test-utils" "@app/test-utils" = true ∧
      matchesCustomModule "../lib/test-utils" "@app/test-utils" = false := by
  decide

end Vocabulary

end UsageLint
