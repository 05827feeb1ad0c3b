import UsageLint.Walk.Selector
import Mathlib.Logic.ExistsUnique

namespace UsageLint

open UsageLint.Syntax

/-!
# Selectors by their words

A text is written with words if they stand in it one after another, with blanks
between every two of them and around them at will. Each text is written with one
list of words, and reading a selector asks for these alone: which of them are
known, how many there are, and whether the one word is that of the end of the
file. The text itself is only looked at to be shown in an error.
-/

namespace Text

/-- Nothing but blanks. -/
def IsGap (text : List Char) : Prop :=
  ∀ character ∈ text, isBlank character = true

/-- At least one character, and no blank among them. -/
structure IsWord (text : List Char) : Prop where
  nonempty : text ≠ []
  solid : ∀ character ∈ text, isBlank character = false

/--
The words that a text is written with. A gap, which may be empty, stands before each of
them and may end the text, and a blank stands after each word that another one follows.
-/
inductive WrittenWith : List Char → List (List Char) → Prop where
  | none {gap : List Char} :
      IsGap gap →
      WrittenWith gap []
  | last {gap word : List Char} :
      IsGap gap →
      IsWord word →
      WrittenWith (gap ++ word) [word]
  | more {gap word rest : List Char} {blank : Char} {words : List (List Char)} :
      IsGap gap →
      IsWord word →
      isBlank blank = true →
      WrittenWith rest words →
      WrittenWith (gap ++ word ++ blank :: rest) (word :: words)

theorem isGap_nil : IsGap [] :=
  List.forall_mem_nil _

theorem IsGap.cons
    {blank : Char}
    {gap : List Char}
    (blanks : isBlank blank = true)
    (isGap : IsGap gap) :
    IsGap (blank :: gap) :=
  List.forall_mem_cons.mpr ⟨blanks, isGap⟩

/--
The letters a scan has gathered, back in reading order, are a word when none of them is blank.
-/
theorem isWord_reverse
    {word : List Char}
    (nonempty : word ≠ [])
    (solid : ∀ character ∈ word, isBlank character = false) :
    IsWord word.reverse :=
  ⟨by simpa using nonempty, by simpa using solid⟩

/-- A blank in front belongs to no word. -/
theorem WrittenWith.cons_blank
    {text : List Char}
    {words : List (List Char)}
    {blank : Char}
    (written : WrittenWith text words)
    (blanks : isBlank blank = true) :
    WrittenWith (blank :: text) words := by
  cases written with
  | none isGap =>
      exact .none (isGap.cons blanks)
  | last isGap isWord =>
      exact .last (isGap.cons blanks) isWord
  | more isGap isWord ended later =>
      exact .more (isGap.cons blanks) isWord ended later

/-- A text is cut at a blank into texts that are read apart. -/
theorem wordsFrom_append_blank
    {blank : Char}
    (blanks : isBlank blank = true)
    (word before after : List Char) :
    wordsFrom word (before ++ blank :: after) = wordsFrom word before ++ words after := by
  induction before generalizing word with
  | nil =>
      exact wordsFrom_cons_of_isBlank blanks word after
  | cons character rest inductionHypothesis =>
      rw [List.cons_append]
      cases found : isBlank character with
      | true =>
          rw [wordsFrom_cons_of_isBlank found, wordsFrom_cons_of_isBlank found, words,
            inductionHypothesis, List.append_assoc]
          rfl
      | false =>
          rw [wordsFrom_cons_of_not_isBlank found, wordsFrom_cons_of_not_isBlank found,
            inductionHypothesis]

/-- A gap at the front of a text adds no word. -/
theorem words_append_of_isGap
    {gap : List Char}
    (isGap : IsGap gap)
    (text : List Char) :
    words (gap ++ text) = words text := by
  induction gap with
  | nil =>
      rfl
  | cons blank rest inductionHypothesis =>
      obtain ⟨blanks, later⟩ := List.forall_mem_cons.mp isGap
      rw [List.cons_append, words, wordsFrom_cons_of_isBlank blanks,
        inductionHypothesis later]
      rfl

/-- Letters without blanks are gathered into the word being read and end none. -/
theorem wordsFrom_append_of_solid
    {front : List Char}
    (solid : ∀ character ∈ front, isBlank character = false)
    (word text : List Char) :
    wordsFrom word (front ++ text) = wordsFrom (front.reverse ++ word) text := by
  induction front generalizing word with
  | nil =>
      rfl
  | cons character rest inductionHypothesis =>
      obtain ⟨found, later⟩ := List.forall_mem_cons.mp solid
      rw [List.cons_append, wordsFrom_cons_of_not_isBlank found, inductionHypothesis later]
      simp

/-- A word alone is the only word of its text. -/
theorem words_of_isWord
    {word : List Char}
    (isWord : IsWord word) :
    words word = [word] := by
  have read := wordsFrom_append_of_solid isWord.solid [] []
  rw [List.append_nil, List.append_nil] at read
  rw [words, read, wordsFrom_nil (by simpa using isWord.nonempty), List.reverse_reverse]

/-- The words that a text is written with are read off it. -/
theorem words_of_writtenWith
    {text : List Char}
    {written : List (List Char)}
    (isWritten : WrittenWith text written) :
    words text = written := by
  induction isWritten with
  | @none gap isGap =>
      rw [← List.append_nil gap, words_append_of_isGap isGap]
      rfl
  | last isGap isWord =>
      rw [words_append_of_isGap isGap, words_of_isWord isWord]
  | @more gap word rest blank written isGap isWord blanks _ inductionHypothesis =>
      calc words (gap ++ word ++ blank :: rest)
          = words (gap ++ word) ++ words rest := wordsFrom_append_blank blanks ..
        _ = [word] ++ written := by
          rw [words_append_of_isGap isGap, words_of_isWord isWord, inductionHypothesis]

/-- A text is written with the words read off it, be the first one begun before it. -/
theorem writtenWith_wordsFrom
    {word : List Char}
    (solid : ∀ character ∈ word, isBlank character = false)
    (text : List Char) :
    WrittenWith (word.reverse ++ text) (wordsFrom word text) := by
  -- On what is left to read: the word read so far grows until a blank ends it.
  induction text generalizing word with
  | nil =>
      by_cases nonempty : word = []
      · subst nonempty
        exact .none isGap_nil
      · rw [wordsFrom_nil nonempty, List.append_nil]
        exact .last isGap_nil (isWord_reverse nonempty solid)
  | cons character rest inductionHypothesis =>
      cases found : isBlank character with
      | true =>
          have later : WrittenWith rest (words rest) :=
            inductionHypothesis (List.forall_mem_nil _)
          rw [wordsFrom_cons_of_isBlank found]
          by_cases nonempty : word = []
          · subst nonempty
            exact later.cons_blank found
          · rw [wordsFrom_nil nonempty]
            exact .more isGap_nil (isWord_reverse nonempty solid) found later
      | false =>
          have begun : ∀ other ∈ character :: word, isBlank other = false :=
            List.forall_mem_cons.mpr ⟨found, solid⟩
          rw [wordsFrom_cons_of_not_isBlank found]
          simpa using inductionHypothesis begun

/-- The words of a text are those that it is written with. -/
theorem words_eq_iff
    (text : List Char)
    (written : List (List Char)) :
    words text = written ↔ WrittenWith text written := by
  constructor
  · rintro rfl
    exact writtenWith_wordsFrom (List.forall_mem_nil _) text
  · exact words_of_writtenWith

/-- A text of one word is that word between two gaps. -/
theorem writtenWith_singleton_iff
    {text word : List Char}
    (isWord : IsWord word) :
    WrittenWith text [word] ↔
      ∃ before after, IsGap before ∧ IsGap after ∧ text = before ++ word ++ after := by
  constructor
  · intro written
    cases written with
    | last isGap _ =>
        exact ⟨_, [], isGap, isGap_nil, (List.append_nil _).symm⟩
    | more isGap _ blanks later =>
        cases later with
        | none ended =>
            exact ⟨_, _, isGap, ended.cons blanks, rfl⟩
  · rintro ⟨before, after, isGap, ended, rfl⟩
    cases after with
    | nil =>
        rw [List.append_nil]
        exact .last isGap isWord
    | cons blank rest =>
        obtain ⟨blanks, later⟩ := List.forall_mem_cons.mp ended
        exact .more isGap isWord blanks (.none later)

/-- Trimming takes a gap off each end. -/
theorem exists_gaps_of_trim (text : List Char) :
    ∃ before after, IsGap before ∧ IsGap after ∧ text = before ++ trim text ++ after := by
  have takesGap : ∀ characters : List Char, IsGap (characters.takeWhile isBlank) :=
    fun _ => List.all_eq_true.mp List.all_takeWhile
  let kept := (text.dropWhile isBlank).reverse
  refine ⟨text.takeWhile isBlank, (kept.takeWhile isBlank).reverse, takesGap text, ?_, ?_⟩
  · intro character among
    exact takesGap kept character (List.mem_reverse.mp among)
  · have back : trim text ++ (kept.takeWhile isBlank).reverse = text.dropWhile isBlank := by
      rw [trim, ← List.reverse_append, List.takeWhile_append_dropWhile, List.reverse_reverse]
    rw [List.append_assoc, back, List.takeWhile_append_dropWhile]

/-- Trimming takes nothing off the front of a text that begins with a word. -/
theorem dropWhile_isBlank_of_isWord
    {word : List Char}
    (isWord : IsWord word)
    (rest : List Char) :
    (word ++ rest).dropWhile isBlank = word ++ rest := by
  cases word with
  | nil =>
      exact (isWord.nonempty rfl).elim
  | cons character others =>
      have found := isWord.solid character (List.mem_cons_self ..)
      simp [found]

/-- What is left of a text by trimming is its one word. -/
theorem trim_eq_iff
    {word : List Char}
    (isWord : IsWord word)
    (text : List Char) :
    trim text = word ↔ WrittenWith text [word] := by
  rw [writtenWith_singleton_iff isWord]
  constructor
  · rintro rfl
    exact exists_gaps_of_trim text
  · rintro ⟨before, after, isGap, ended, rfl⟩
    have backwards : IsWord word.reverse := isWord_reverse isWord.nonempty isWord.solid
    have endedBackwards : IsGap after.reverse := by
      simpa [IsGap] using ended
    rw [trim, List.append_assoc, List.dropWhile_append_of_pos isGap,
      dropWhile_isBlank_of_isWord isWord, List.reverse_append,
      List.dropWhile_append_of_pos endedBackwards,
      ← List.append_nil word.reverse, dropWhile_isBlank_of_isWord backwards,
      List.append_nil, List.reverse_reverse]

end Text

namespace Syntax.Kind

/-- The node-type name by which selectors mean a kind, if there is one. -/
def typeName? : Kind → Option String
  | program => some "Program"
  | importDeclaration => some "ImportDeclaration"
  | callExpression => some "CallExpression"
  | memberExpression => some "MemberExpression"
  | identifier => some "Identifier"
  | variableDeclarator => some "VariableDeclarator"
  | stringLiteral => some "Literal"
  | other => none

/-- A node-type name means the kind that it is the name of. -/
theorem ofTypeName?_eq_some_iff
    (name : String)
    (kind : Kind) :
    ofTypeName? name = some kind ↔ kind.typeName? = some name := by
  constructor
  · unfold ofTypeName?
    split <;> rintro ⟨⟩ <;> rfl
  · cases kind <;> rintro ⟨⟩ <;> rfl

/-- Whether a word is the node-type name of a kind. -/
def IsTypeName (word : String) : Prop :=
  ∃ kind : Kind, kind.typeName? = some word

/-- A word has no kind exactly when it is not the name of a syntax node type. -/
theorem ofTypeName?_eq_none_iff (word : String) :
    ofTypeName? word = none ↔ ¬ IsTypeName word := by
  simp only [Option.eq_none_iff_forall_ne_some, IsTypeName, not_exists, ne_eq,
    ofTypeName?_eq_some_iff]

/-- Every kind but the one for all others has a name. -/
theorem exists_typeName?_iff (kind : Kind) :
    (∃ name, kind.typeName? = some name) ↔ kind ≠ .other := by
  cases kind <;> simp [typeName?]

end Syntax.Kind

namespace Walk

/-- The words that a text is written with. -/
def IsWrittenWith (text : String) (words : List String) : Prop :=
  Text.WrittenWith text.toList (words.map String.toList)

/-- A text is written with some words exactly when those are the words the reader finds in it. -/
theorem isWrittenWith_iff
    (text : String)
    (words : List String) :
    IsWrittenWith text words ↔ Text.words text.toList = words.map String.toList :=
  (Text.words_eq_iff ..).symm

/-- Each text is written with one list of words. -/
theorem existsUnique_isWrittenWith (text : String) :
    ∃! words, IsWrittenWith text words := by
  have spelled :
      ((Text.words text.toList).map String.ofList).map String.toList =
        Text.words text.toList := by
    simp
  refine ⟨(Text.words text.toList).map String.ofList, ?_, ?_⟩
  · exact (isWrittenWith_iff ..).mpr spelled.symm
  · intro others written
    rw [isWrittenWith_iff, ← spelled] at written
    exact ((List.map_inj_right fun _ _ => String.toList_inj.mp).mp written).symm

/-- Trimming leaves a word of a text if it is the only one. -/
theorem ofList_trim_eq_iff
    {word : String}
    (isWord : Text.IsWord word.toList)
    (text : String) :
    String.ofList (Text.trim text.toList) = word ↔ IsWrittenWith text [word] := by
  rw [IsWrittenWith, List.map_singleton, ← Text.trim_eq_iff isWord]
  constructor <;> rintro same
  · rw [← same, String.toList_ofList]
  · rw [same, String.ofList_toList]

namespace Selector

theorem isWord_programExit : Text.IsWord "Program:exit".toList :=
  ⟨by decide, by simp [Text.isBlank, Text.blankRanges]⟩

/-- A word with a kind is read as that kind. -/
theorem kindOf_of_known
    {name : String}
    {kind : Kind}
    (known : Kind.ofTypeName? name = some kind) :
    kindOf name.toList = .ok kind := by
  rw [kindOf, String.ofList_toList, known]

theorem kindOf_of_unknown
    {name : String}
    (unknown : Kind.ofTypeName? name = none) :
    kindOf name.toList = .error (.unknownNodeType name) := by
  rw [kindOf, String.ofList_toList, unknown]

section Reading

variable
  {text : String}

/-- The exit selector written alone selects the end of the program. -/
theorem parse_of_programExit (written : IsWrittenWith text ["Program:exit"]) :
    parse text = .ok .programExit := by
  rw [parse, if_pos ((ofList_trim_eq_iff isWord_programExit text).mpr written)]

/-- A text written with other words is not the exit selector, whatever gaps are trimmed off it. -/
theorem ofList_trim_ne_programExit
    {words : List String}
    (written : IsWrittenWith text words)
    (different : words ≠ ["Program:exit"]) :
    String.ofList (Text.trim text.toList) ≠ "Program:exit" := by
  rw [Ne, ofList_trim_eq_iff isWord_programExit]
  intro exits
  exact different ((existsUnique_isWrittenWith text).unique written exits)

/-- One word selects the nodes of its kind. -/
theorem parse_of_one
    {name : String}
    (written : IsWrittenWith text [name])
    (different : [name] ≠ ["Program:exit"]) :
    parse text = (kindOf name.toList).map .every := by
  rw [parse, if_neg (ofList_trim_ne_programExit written different),
    (isWrittenWith_iff ..).mp written]
  rfl

/--
Two words select the nodes of the second kind below one of the first; the first is read first.
-/
theorem parse_of_two
    {outer inner : String}
    (written : IsWrittenWith text [outer, inner]) :
    parse text = (do
      let ancestor ← kindOf outer.toList
      let kind ← kindOf inner.toList
      return .below ancestor kind) := by
  rw [parse, if_neg (ofList_trim_ne_programExit written (by simp)),
    (isWrittenWith_iff ..).mp written]
  rfl

/-- No word, or more than two, is refused with the text as it was given. -/
theorem parse_of_other_count
    {words : List String}
    (written : IsWrittenWith text words)
    (count : words.length = 0 ∨ 2 < words.length) :
    parse text = .error (.unsupported text) := by
  have different : words ≠ ["Program:exit"] := by
    rintro rfl
    simp at count
  rw [parse, if_neg (ofList_trim_ne_programExit written different),
    (isWrittenWith_iff ..).mp written]
  match words with
  | [] => rfl
  | [_] => simp at count
  | [_, _] => simp at count
  | _ :: _ :: _ :: _ => rfl

end Reading

/-- The kinds that a selector names. -/
def kinds : Selector → List Kind
  | every kind => [kind]
  | below ancestor kind => [ancestor, kind]
  | programExit => []

/-- The words to write a selector with, if each of its kinds has a name. -/
def words? : Selector → Option (List String)
  | every kind => kind.typeName?.map fun name => [name]
  | below ancestor kind => do
      let outer ← ancestor.typeName?
      let inner ← kind.typeName?
      return [outer, inner]
  | programExit => some ["Program:exit"]

/-- The first word that is not the name of any kind. -/
def IsFirstUnknown (word : String) (words : List String) : Prop :=
  ∃ known rest,
    words = known ++ word :: rest ∧
      (∀ earlier ∈ known, Kind.IsTypeName earlier) ∧
      ¬ Kind.IsTypeName word

/-- The first unknown word is the one that a search for a word without a kind finds. -/
theorem isFirstUnknown_iff
    (word : String)
    (words : List String) :
    IsFirstUnknown word words ↔
      words.find? (fun word => (Kind.ofTypeName? word).isNone) = some word := by
  have isKnown : ∀ earlier,
      Kind.IsTypeName earlier ↔ (!(Kind.ofTypeName? earlier).isNone) = true := by
    intro earlier
    rw [Bool.not_eq_true', ← Bool.not_eq_true, Option.isNone_iff_eq_none,
      Kind.ofTypeName?_eq_none_iff, Classical.not_not]
  rw [List.find?_eq_some_iff_append, Option.isNone_iff_eq_none, Kind.ofTypeName?_eq_none_iff]
  simp only [IsFirstUnknown, isKnown]
  constructor
  · rintro ⟨known, rest, split, earlierKnown, unknown⟩
    exact ⟨unknown, known, rest, split, earlierKnown⟩
  · rintro ⟨unknown, known, rest, split, earlierKnown⟩
    exact ⟨known, rest, split, earlierKnown, unknown⟩

/--
How a text is read by its words. It is a selector if the words are one or two names of
kinds, or just the one for the end of the file. Of any other one or two words the first
that is no name of a kind is refused, and the text as it is for any other number.
-/
structure IsReadBy (text : String) (words : List String) : Prop where
  programExit :
    parse text = .ok .programExit ↔ words = ["Program:exit"]
  every :
    ∀ kind,
      parse text = .ok (.every kind) ↔
        ∃ name, words = [name] ∧ kind.typeName? = some name
  below :
    ∀ ancestor kind,
      parse text = .ok (.below ancestor kind) ↔
        ∃ outer inner,
          words = [outer, inner] ∧
            ancestor.typeName? = some outer ∧
            kind.typeName? = some inner
  unknown :
    ∀ name,
      parse text = .error (.unknownNodeType name) ↔
        (words.length = 1 ∨ words.length = 2) ∧
          words ≠ ["Program:exit"] ∧
          IsFirstUnknown name words
  unsupported :
    ∀ shown,
      parse text = .error (.unsupported shown) ↔
        shown = text ∧ (words.length = 0 ∨ 2 < words.length)

section Reading

variable
  {text : String}

/-- A selector of one word is read as its words say. -/
theorem isReadBy_of_one
    {name : String}
    (written : IsWrittenWith text [name])
    (different : [name] ≠ ["Program:exit"]) :
    IsReadBy text [name] := by
  have read := parse_of_one written different
  cases known : Kind.ofTypeName? name with
  | none =>
      rw [kindOf_of_unknown known] at read
      constructor <;>
        simp [read, different, known, Except.map, isFirstUnknown_iff,
          ← Kind.ofTypeName?_eq_some_iff]
  | some kind =>
      rw [kindOf_of_known known] at read
      constructor <;>
        simp [read, different, known, Except.map, isFirstUnknown_iff,
          ← Kind.ofTypeName?_eq_some_iff]

/--
A selector of two words is read as its words say, the error being about the first unknown one.
-/
theorem isReadBy_of_two
    {outer inner : String}
    (written : IsWrittenWith text [outer, inner]) :
    IsReadBy text [outer, inner] := by
  have read := parse_of_two written
  -- The outer name is looked up first, so that the inner one counts only if it is known.
  cases outerKnown : Kind.ofTypeName? outer with
  | none =>
      rw [kindOf_of_unknown outerKnown] at read
      constructor <;>
        simp [read, outerKnown, bind, Except.bind, isFirstUnknown_iff,
          ← Kind.ofTypeName?_eq_some_iff]
  | some ancestor =>
      rw [kindOf_of_known outerKnown] at read
      cases innerKnown : Kind.ofTypeName? inner with
      | none =>
          rw [kindOf_of_unknown innerKnown] at read
          constructor <;>
            simp [read, outerKnown, innerKnown, bind, Except.bind, isFirstUnknown_iff,
              ← Kind.ofTypeName?_eq_some_iff]
      | some kind =>
          rw [kindOf_of_known innerKnown] at read
          constructor <;>
            simp [read, outerKnown, innerKnown, bind, Except.bind, pure, Except.pure,
              isFirstUnknown_iff, ← Kind.ofTypeName?_eq_some_iff, and_assoc]

/-- A selector of no word or of more than two is refused as its words say. -/
theorem isReadBy_of_other_count
    {words : List String}
    (written : IsWrittenWith text words)
    (count : words.length = 0 ∨ 2 < words.length) :
    IsReadBy text words := by
  have read := parse_of_other_count written count
  have notOne : ∀ name, words ≠ [name] := by
    rintro name rfl
    simp at count
  have notTwo : ∀ outer inner, words ≠ [outer, inner] := by
    rintro outer inner rfl
    simp at count
  have noneOrMany : words = [] ∨ 2 < words.length := by
    simpa using count
  constructor <;> simp [read, notOne, notTwo, noneOrMany, @eq_comm _ text]
  omega

end Reading

/-- Every selector is read as the words it is written with say. -/
theorem isReadBy_of_isWrittenWith
    {text : String}
    {words : List String}
    (written : IsWrittenWith text words) :
    IsReadBy text words := by
  by_cases exits : words = ["Program:exit"]
  · subst exits
    -- This one word is no name of a kind, and is read before any name is looked up.
    have unnamed : Kind.ofTypeName? "Program:exit" = none := rfl
    constructor <;> simp [parse_of_programExit written, unnamed, ← Kind.ofTypeName?_eq_some_iff]
  · match words with
    | [] =>
        exact isReadBy_of_other_count written (.inl rfl)
    | [_] =>
        exact isReadBy_of_one written exits
    | [_, _] =>
        exact isReadBy_of_two written
    | _ :: _ :: _ :: _ =>
        exact isReadBy_of_other_count written (.inr (by simp))

/-- A selector is read off the words to write it with. -/
theorem parse_eq_ok_iff
    {text : String}
    {words : List String}
    (written : IsWrittenWith text words)
    (selector : Selector) :
    parse text = .ok selector ↔ selector.words? = some words := by
  have read := isReadBy_of_isWrittenWith written
  cases selector with
  | every kind =>
      simp only [read.every, words?, Option.map_eq_some_iff, @eq_comm _ words, and_comm]
  | below ancestor kind =>
      simp only [read.below, words?, Option.bind_eq_bind, Option.bind_eq_some_iff]
      constructor
      · rintro ⟨outer, inner, rfl, outerNamed, innerNamed⟩
        exact ⟨outer, outerNamed, inner, innerNamed, rfl⟩
      · rintro ⟨outer, outerNamed, inner, innerNamed, ⟨⟩⟩
        exact ⟨outer, inner, rfl, outerNamed, innerNamed⟩
  | programExit =>
      simp only [read.programExit, words?, Option.some.injEq, @eq_comm _ words]

/-- A selector can be written if each kind that it names has a name. -/
theorem exists_words?_iff (selector : Selector) :
    (∃ words, selector.words? = some words) ↔ .other ∉ selector.kinds := by
  have named :
      .other ∉ selector.kinds ↔
        ∀ kind ∈ selector.kinds, ∃ name, kind.typeName? = some name := by
    simp only [Kind.exists_typeName?_iff, ne_eq]
    exact List.forall_mem_ne'.symm
  rw [named]
  cases selector with
  | every kind =>
      simp only [kinds, List.forall_mem_singleton, words?, Option.map_eq_some_iff]
      constructor
      · rintro ⟨_, name, isName, _⟩
        exact ⟨name, isName⟩
      · rintro ⟨name, isName⟩
        exact ⟨_, name, isName, rfl⟩
  | below ancestor kind =>
      simp only [kinds, List.forall_mem_cons, words?, Option.bind_eq_bind,
        Option.bind_eq_some_iff]
      constructor
      · rintro ⟨_, outer, isOuter, inner, isInner, _⟩
        exact ⟨⟨outer, isOuter⟩, ⟨inner, isInner⟩, List.forall_mem_nil _⟩
      · rintro ⟨⟨outer, isOuter⟩, ⟨inner, isInner⟩, _⟩
        exact ⟨_, outer, isOuter, inner, isInner, rfl⟩
  | programExit =>
      simp [words?, kinds]

/-- Texts of the same words are the same selector or are refused alike. -/
theorem parse_congr
    {first second : String}
    {words : List String}
    (firstWritten : IsWrittenWith first words)
    (secondWritten : IsWrittenWith second words) :
    parse first = parse second ∨
      parse first = .error (.unsupported first) ∧
        parse second = .error (.unsupported second) := by
  have firstRead := isReadBy_of_isWrittenWith firstWritten
  have secondRead := isReadBy_of_isWrittenWith secondWritten
  cases outcome : parse first with
  | ok selector =>
      have asWritten := (parse_eq_ok_iff firstWritten selector).mp outcome
      exact .inl ((parse_eq_ok_iff secondWritten selector).mpr asWritten).symm
  | error refusal =>
      cases refusal with
      | unknownNodeType name =>
          have firstUnknown := (firstRead.unknown name).mp outcome
          exact .inl ((secondRead.unknown name).mpr firstUnknown).symm
      | unsupported shown =>
          obtain ⟨rfl, count⟩ := (firstRead.unsupported shown).mp outcome
          exact .inr ⟨rfl, (secondRead.unsupported second).mpr ⟨rfl, count⟩⟩

/--
A text is read as a selector by its words, of which it has just one list. Texts of
the same words are the same selector or are refused alike, each unsupported one with
its own text. Every selector of kinds that have names is read off each text that is
written with its words, and no other selector is ever read.
-/
theorem selectors_are_read_by_their_words :
    (∀ text, ∃! words, IsWrittenWith text words) ∧
      (∀ text words, IsWrittenWith text words → IsReadBy text words) ∧
      (∀ first second words,
        IsWrittenWith first words →
          IsWrittenWith second words →
            parse first = parse second ∨
              parse first = .error (.unsupported first) ∧
                parse second = .error (.unsupported second)) ∧
      (∀ selector : Selector,
        .other ∉ selector.kinds →
          ∃ words,
            selector.words? = some words ∧
              ∀ text, IsWrittenWith text words → parse text = .ok selector) ∧
      ∀ text selector, parse text = .ok selector → .other ∉ selector.kinds := by
  refine ⟨existsUnique_isWrittenWith, fun _ _ => isReadBy_of_isWrittenWith,
    fun _ _ _ => parse_congr, ?_, ?_⟩
  · intro selector nameable
    obtain ⟨words, asWords⟩ := (exists_words?_iff selector).mpr nameable
    exact ⟨words, asWords, fun _ written => (parse_eq_ok_iff written selector).mpr asWords⟩
  · intro text selector read
    obtain ⟨words, written, _⟩ := existsUnique_isWrittenWith text
    exact (exists_words?_iff selector).mp ⟨words, (parse_eq_ok_iff written selector).mp read⟩

/-- Blanks of all sorts around and between its two words leave a selector as it is. -/
theorem spread_selector_is_read :
    IsWrittenWith "\u3000CallExpression \t Identifier\n" ["CallExpression", "Identifier"] ∧
      Kind.other ∉ (below .callExpression .identifier).kinds ∧
      parse "\u3000CallExpression \t Identifier\n" =
        .ok (.below .callExpression .identifier) := by
  have written :
      IsWrittenWith "\u3000CallExpression \t Identifier\n" ["CallExpression", "Identifier"] :=
    (isWrittenWith_iff ..).mpr (by decide)
  have nameable : Kind.other ∉ (below .callExpression .identifier).kinds := by
    decide
  refine ⟨written, nameable, ?_⟩
  obtain ⟨_, _, _, readsBack, _⟩ := selectors_are_read_by_their_words
  obtain ⟨words, asWords, reads⟩ := readsBack _ nameable
  cases asWords
  exact reads _ written

end Selector

end Walk

end UsageLint
