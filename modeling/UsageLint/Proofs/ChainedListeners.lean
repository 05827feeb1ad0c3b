import UsageLint.Proofs.WalkParts

namespace UsageLint.Walk

open UsageLint.Syntax

/-!
# Chained listeners

A walk comes to one event after another, and chained sets of listeners take turns
at each of them. If each set keeps to its own part of the context, neither learns
of the other, and each part ends as it would without the other set. A log that two
sets write to shows the turns: it is, event by event, a page of the first set and
then a page of the second, and leaving out what the other wrote gives the log that
a set writes alone. What handlers remember from call to call is part of the context.
-/

/-- What handlers are called for: a named node, or the end of the file. -/
inductive Event where
  | enter (node : Node)
  | exit (root : Node)

namespace Event

/-- The node that handlers are called with. -/
def place : Event → Node
  | enter node => node
  | exit root => root

/-- Whether handlers with a selector are called on an event. -/
def Asks (event : Event) (selector : Selector) : Prop :=
  match event with
  | enter node => selector.Selects node
  | exit _ => selector = .programExit

instance (event : Event) : DecidablePred event.Asks :=
  fun selector =>
    match event with
    | enter node => inferInstanceAs (Decidable (selector.Selects node))
    | exit _ => inferInstanceAs (Decidable (selector = .programExit))

end Event

/-- The events of a walk: the named nodes in document order, and then the end. -/
def events (tree : SourceTree) : List Event :=
  (tree.root.preorder.filter (·.label.named)).map .enter ++ [.exit tree.root]

namespace Listeners

variable {C : Type}

/-- Call the handlers that an event asks for. -/
def answer (listeners : Listeners C) (context : C) (event : Event) : C :=
  listeners.callWhere event.Asks event.place context

theorem walk_eq_foldl_events
    (listeners : Listeners C)
    (tree : SourceTree)
    (context : C) :
    walk listeners tree context = (events tree).foldl listeners.answer context := by
  rw [walk_eq_foldl, events, List.foldl_append, List.foldl_map, List.foldl_filter]
  rfl

/-- On every event, the first of chained sets has its turn before the second. -/
theorem answer_chain
    (first second : Listeners C)
    (context : C)
    (event : Event) :
    (first.chain second).answer context event =
      second.answer (first.answer context event) event :=
  callWhere_chain first second event.Asks event.place context

end Listeners

section Parts

variable {D C E : Type}

/-- Whether a handler reads and writes only its own part of a context with two parts. -/
structure Listener.KeepsTo
    (own : D → C)
    (other : D → E)
    (listener : Listener D) : Prop where
  leaves : ∀ node context, other (listener.handle node context) = other context
  reads :
    ∀ node context alone,
      own context = own alone →
      own (listener.handle node context) = own (listener.handle node alone)

/-- Whether all handlers of a set read and write only their own part of a context. -/
def Listeners.KeepsTo
    (own : D → C)
    (other : D → E)
    (listeners : Listeners D) : Prop :=
  ∀ listener ∈ listeners.entries, listener.KeepsTo own other

namespace Listeners.KeepsTo

variable
  {own : D → C}
  {other : D → E}
  {listeners : Listeners D}

theorem within
    (replace : D → C → D)
    (replaced : ∀ whole piece, own (replace whole piece) = piece)
    (untouched : ∀ whole piece, other (replace whole piece) = other whole)
    (small : Listeners C) :
    (small.within own replace).KeepsTo own other := by
  intro listener among
  obtain ⟨entry, _, rfl⟩ := List.mem_map.mp among
  constructor
  · intro node context
    exact untouched context _
  · intro node context alone same
    simp only [replaced, same]

theorem other_answer
    (keepsTo : listeners.KeepsTo own other)
    (context : D)
    (event : Event) :
    other (listeners.answer context event) = other context := by
  refine List.foldlRecOn (motive := fun reached => other reached = other context)
    listeners.entries _ rfl ?_
  intro reached left listener among
  split
  · rw [(keepsTo listener among).leaves]
    exact left
  · exact left

theorem own_answer
    (keepsTo : listeners.KeepsTo own other)
    {context alone : D}
    (same : own context = own alone)
    (event : Event) :
    own (listeners.answer context event) = own (listeners.answer alone event) := by
  refine List.foldl_rel (r := fun context alone => own context = own alone) same ?_
  intro listener among context alone same
  split
  · exact (keepsTo listener among).reads _ context alone same
  · exact same

end Listeners.KeepsTo

namespace Listeners

variable
  {own : D → C}
  {other : D → E}
  {first second : Listeners D}
  (firstKeeps : first.KeepsTo own other)
  (secondKeeps : second.KeepsTo other own)
  {context alone : D}
  (tree : SourceTree)

include firstKeeps secondKeeps

/-- The part of the first set ends as it does without the second. -/
theorem own_walk_chain (same : own context = own alone) :
    own (walk (first.chain second) tree context) = own (walk first tree alone) := by
  rw [walk_eq_foldl_events, walk_eq_foldl_events]
  -- The two walks keep in step: after each event they have the same own part.
  refine List.foldl_rel (r := fun context alone => own context = own alone) same ?_
  intro event _ context alone same
  rw [answer_chain, secondKeeps.other_answer]
  exact firstKeeps.own_answer same event

/-- The part of the second set ends as it does without the first. -/
theorem other_walk_chain (same : other context = other alone) :
    other (walk (first.chain second) tree context) = other (walk second tree alone) := by
  rw [walk_eq_foldl_events, walk_eq_foldl_events]
  refine List.foldl_rel (r := fun context alone => other context = other alone) same ?_
  intro event _ context alone same
  rw [answer_chain]
  apply secondKeeps.own_answer
  rw [firstKeeps.other_answer]
  exact same

end Listeners

end Parts

/-- A handler that adds entries to a log and remembers something from call to call. -/
structure Scribe (M E : Type) where
  selector : Selector
  write : Node → M → List E × M

/-- A log, oldest entry first, and the memory of those who write it. -/
structure Ledger (P X : Type) where
  memory : P
  log : List X

/-- A part of a memory, which can be read and replaced. -/
structure Share (P M : Type) where
  get : P → M
  put : P → M → P
  get_put : ∀ whole piece, get (put whole piece) = piece
  put_put : ∀ whole piece later, put (put whole piece) later = put whole later
  put_get : ∀ whole, put whole (get whole) = whole

namespace Share

variable {M N : Type}

/-- The first of two pieces of memory. -/
def first : Share (M × N) M where
  get := Prod.fst
  put whole piece := (piece, whole.2)
  get_put _ _ := rfl
  put_put _ _ _ := rfl
  put_get _ := rfl

/-- The second of two pieces of memory. -/
def second : Share (M × N) N where
  get := Prod.snd
  put whole piece := (whole.1, piece)
  get_put _ _ := rfl
  put_put _ _ _ := rfl
  put_get _ := rfl

end Share

namespace Scribe

variable {M N E P X : Type}

/-- Let a scribe write with its ink, and remember in its share of the memory. -/
def listener (ink : E → X) (share : Share P M) (scribe : Scribe M E) :
    Listener (Ledger P X) where
  selector := scribe.selector
  handle node ledger :=
    let (entries, memory) := scribe.write node (share.get ledger.memory)
    ⟨share.put ledger.memory memory, ledger.log ++ entries.map ink⟩

/-- Let scribes write with one ink, and remember in one share of the memory. -/
def listeners (ink : E → X) (share : Share P M) (scribes : List (Scribe M E)) :
    Listeners (Ledger P X) :=
  ⟨scribes.map (listener ink share)⟩

/-- What scribes write on an event, one after another, and what they remember then. -/
def page (event : Event) : List (Scribe M E) → M → List E × M
  | [], memory => ([], memory)
  | scribe :: rest, memory =>
      if event.Asks scribe.selector then
        let (entries, next) := scribe.write event.place memory
        let (later, last) := page event rest next
        (entries ++ later, last)
      else
        page event rest memory

/-- What scribes write on several events, a page for each. -/
def pages (scribes : List (Scribe M E)) : List Event → M → List (List E)
  | [], _ => []
  | event :: rest, memory =>
      let (entries, next) := page event scribes memory
      entries :: pages scribes rest next

/-- On an event, scribes add their page to the log and remember what comes of it. -/
theorem answer_listeners
    (ink : E → X)
    (share : Share P M)
    (scribes : List (Scribe M E))
    (ledger : Ledger P X)
    (event : Event) :
    (listeners ink share scribes).answer ledger event =
      ⟨share.put ledger.memory (page event scribes (share.get ledger.memory)).2,
        ledger.log ++ (page event scribes (share.get ledger.memory)).1.map ink⟩ := by
  induction scribes generalizing ledger with
  | nil =>
      rw [page, share.put_get, List.map_nil, List.append_nil]
      rfl
  | cons scribe rest inductionHypothesis =>
      have step :
          (listeners ink share (scribe :: rest)).answer ledger event =
            (listeners ink share rest).answer
              (if event.Asks scribe.selector then
                (scribe.listener ink share).handle event.place ledger
              else
                ledger)
              event :=
        rfl
      rw [step, page]
      split
      · -- The rest write behind the entries of the first, and remember what it left.
        rw [inductionHypothesis]
        simp only [listener, share.get_put, share.put_put, List.map_append,
          List.append_assoc]
      · exact inductionHypothesis ledger

/-- Scribes alone add their pages to the log, one after another. -/
theorem log_foldl_answer_listeners
    (ink : E → X)
    (share : Share P M)
    (scribes : List (Scribe M E))
    (events : List Event)
    (ledger : Ledger P X) :
    (events.foldl (listeners ink share scribes).answer ledger).log =
      ledger.log ++
        (pages scribes events (share.get ledger.memory)).flatten.map ink := by
  induction events generalizing ledger with
  | nil =>
      exact (List.append_nil _).symm
  | cons event rest inductionHypothesis =>
      rw [List.foldl_cons, answer_listeners, inductionHypothesis, share.get_put,
        pages, List.flatten_cons, List.map_append, List.append_assoc]

theorem length_pages (scribes : List (Scribe M E)) (events : List Event) (memory : M) :
    (pages scribes events memory).length = events.length := by
  induction events generalizing memory with
  | nil =>
      rfl
  | cons event rest inductionHypothesis =>
      exact congrArg Nat.succ (inductionHypothesis _)

end Scribe

section Hands

variable {M N E F : Type}

/-- Scribes that write with the first of two inks. -/
def firstHand (scribes : List (Scribe M E)) : Listeners (Ledger (M × N) (E ⊕ F)) :=
  Scribe.listeners .inl .first scribes

/-- Scribes that write with the second of two inks. -/
def secondHand (scribes : List (Scribe N F)) : Listeners (Ledger (M × N) (E ⊕ F)) :=
  Scribe.listeners .inr .second scribes

/-- A page of each of two hands, that of the first before that of the second. -/
def turn (first : List E) (second : List F) : List (E ⊕ F) :=
  first.map .inl ++ second.map .inr

/-- What two hands write if they take turns page by page. -/
def turns (first : List (List E)) (second : List (List F)) : List (E ⊕ F) :=
  (List.zipWith turn first second).flatten

theorem turns_cons
    (page : List E)
    (other : List F)
    (rest : List (List E))
    (others : List (List F)) :
    turns (page :: rest) (other :: others) = turn page other ++ turns rest others :=
  rfl

/-- In turns of as many pages each hand has written its own pages and nothing else. -/
theorem filter_turns
    {first : List (List E)}
    {second : List (List F)}
    (asMany : first.length = second.length) :
    (turns first second).filter Sum.isLeft = first.flatten.map .inl ∧
      (turns first second).filter Sum.isRight = second.flatten.map .inr := by
  induction first generalizing second with
  | nil =>
      obtain rfl := List.length_eq_zero_iff.mp asMany.symm
      exact ⟨rfl, rfl⟩
  | cons page rest inductionHypothesis =>
      cases second with
      | nil =>
          cases asMany
      | cons other others =>
          obtain ⟨left, right⟩ := inductionHypothesis (Nat.succ.inj asMany)
          simp [turns_cons, turn, left, right, List.filter_map, Function.comp_def]

variable
  (first : List (Scribe M E))
  (second : List (Scribe N F))
  (ledger : Ledger (M × N) (E ⊕ F))

/-- On an event, the page of the first hand comes before that of the second. -/
theorem answer_hands (event : Event) :
    ((firstHand first).chain (secondHand second)).answer ledger event =
      ⟨((Scribe.page event first ledger.memory.1).2,
          (Scribe.page event second ledger.memory.2).2),
        ledger.log ++
          turn (Scribe.page event first ledger.memory.1).1
            (Scribe.page event second ledger.memory.2).1⟩ := by
  rw [Listeners.answer_chain, firstHand, secondHand, Scribe.answer_listeners,
    Scribe.answer_listeners, turn, ← List.append_assoc]
  rfl

/-- Two hands that are chained take turns, event by event. -/
theorem log_foldl_answer_hands (events : List Event) :
    (events.foldl ((firstHand first).chain (secondHand second)).answer ledger).log =
      ledger.log ++
        turns (Scribe.pages first events ledger.memory.1)
          (Scribe.pages second events ledger.memory.2) := by
  induction events generalizing ledger with
  | nil =>
      exact (List.append_nil _).symm
  | cons event rest inductionHypothesis =>
      rw [List.foldl_cons, answer_hands, inductionHypothesis, List.append_assoc,
        Scribe.pages, Scribe.pages, turns_cons]

variable (tree : SourceTree)

theorem log_walk_hands :
    (walk ((firstHand first).chain (secondHand second)) tree ledger).log =
      ledger.log ++
        turns (Scribe.pages first (events tree) ledger.memory.1)
          (Scribe.pages second (events tree) ledger.memory.2) := by
  rw [Listeners.walk_eq_foldl_events, log_foldl_answer_hands]

theorem filter_turns_pages (events : List Event) (memory : M × N) :
    (turns (Scribe.pages first events memory.1)
          (Scribe.pages second events memory.2)).filter Sum.isLeft =
        (Scribe.pages first events memory.1).flatten.map .inl ∧
      (turns (Scribe.pages first events memory.1)
          (Scribe.pages second events memory.2)).filter Sum.isRight =
        (Scribe.pages second events memory.2).flatten.map .inr := by
  apply filter_turns
  rw [Scribe.length_pages, Scribe.length_pages]

/-- The first hand has written the entries that it writes alone. -/
theorem filter_isLeft_log_walk_hands :
    (walk ((firstHand first).chain (secondHand second)) tree ledger).log.filter
        Sum.isLeft =
      (walk (firstHand first) tree
        ⟨ledger.memory, ledger.log.filter Sum.isLeft⟩).log := by
  rw [log_walk_hands, List.filter_append, (filter_turns_pages ..).1,
    Listeners.walk_eq_foldl_events, firstHand, Scribe.log_foldl_answer_listeners]
  rfl

/-- The second hand has written the entries that it writes alone. -/
theorem filter_isRight_log_walk_hands :
    (walk ((firstHand first).chain (secondHand second)) tree ledger).log.filter
        Sum.isRight =
      (walk (secondHand second) tree
        ⟨ledger.memory, ledger.log.filter Sum.isRight⟩).log := by
  rw [log_walk_hands, List.filter_append, (filter_turns_pages ..).2,
    Listeners.walk_eq_foldl_events, secondHand, Scribe.log_foldl_answer_listeners]
  rfl

end Hands

/-- Sets of listeners, chained one with another in some way, or none at all. -/
inductive Chaining (C : Type) where
  | nothing
  | set (listeners : Listeners C)
  | chain (first second : Chaining C)

namespace Chaining

variable {C : Type}

/-- The set that a way of chaining ends in: empty sets add nothing to it. -/
def listeners : Chaining C → Listeners C
  | nothing => .empty
  | set listeners => listeners
  | chain first second => first.listeners.chain second.listeners

/-- The chained sets, from the first to the last. -/
def sets : Chaining C → List (Listeners C)
  | nothing => []
  | set listeners => [listeners]
  | chain first second => first.sets ++ second.sets

theorem entries_listeners (chaining : Chaining C) :
    chaining.listeners.entries = chaining.sets.flatMap Listeners.entries := by
  induction chaining with
  | nothing =>
      rfl
  | set listeners =>
      exact (List.flatMap_singleton ..).symm
  | chain first second firstEntries secondEntries =>
      rw [listeners, Listeners.chain, sets, List.flatMap_append, firstEntries,
        secondEntries]

/-- However sets are chained, what counts is which come after which. -/
theorem listeners_congr
    {chaining other : Chaining C}
    (same : chaining.sets = other.sets) :
    chaining.listeners = other.listeners := by
  have entries : chaining.listeners.entries = other.listeners.entries := by
    rw [entries_listeners, entries_listeners, same]
  exact congrArg Listeners.mk entries

end Chaining

/--
Chained sets of listeners do not interfere. If each of two sets keeps to its own part
of the context, each part ends a walk as if its set had walked alone. In a log that
both write to, each set has written just the entries it writes alone, and the sets
take turns, the first one first at every named node and at the end of the file. Of more
sets, the order alone counts, and neither how they are grouped nor where empty ones are.
-/
theorem chained_sets_do_not_interfere (tree : SourceTree) :
    (∀ {D C E : Type} {own : D → C} {other : D → E} {first second : Listeners D},
        first.KeepsTo own other →
        second.KeepsTo other own →
        ∀ context alone,
          (own context = own alone →
              own (walk (first.chain second) tree context) = own (walk first tree alone)) ∧
            (other context = other alone →
              other (walk (first.chain second) tree context) =
                other (walk second tree alone))) ∧
      (∀ {M N E F : Type} (first : List (Scribe M E)) (second : List (Scribe N F))
          (ledger : Ledger (M × N) (E ⊕ F)),
        let chained := walk ((firstHand first).chain (secondHand second)) tree ledger
        chained.log.filter Sum.isLeft =
            (walk (firstHand first) tree
              ⟨ledger.memory, ledger.log.filter Sum.isLeft⟩).log ∧
          chained.log.filter Sum.isRight =
            (walk (secondHand second) tree
              ⟨ledger.memory, ledger.log.filter Sum.isRight⟩).log ∧
          chained.log =
            ledger.log ++
              turns (Scribe.pages first (events tree) ledger.memory.1)
                (Scribe.pages second (events tree) ledger.memory.2)) ∧
      ∀ {C : Type} (chaining other : Chaining C),
        chaining.sets = other.sets →
        ∀ context,
          walk chaining.listeners tree context = walk other.listeners tree context := by
  refine ⟨?_, ?_, ?_⟩
  · intro _ _ _ _ _ _ _ firstKeeps secondKeeps context alone
    exact ⟨Listeners.own_walk_chain firstKeeps secondKeeps tree,
      Listeners.other_walk_chain firstKeeps secondKeeps tree⟩
  · intro _ _ _ _ first second ledger
    exact ⟨filter_isLeft_log_walk_hands first second ledger tree,
      filter_isRight_log_walk_hands first second ledger tree,
      log_walk_hands first second ledger tree⟩
  · intro _ chaining other same context
    rw [Chaining.listeners_congr same]

section Example

/-- A file that holds nothing but a directive. -/
def directiveFile : SourceTree where
  source := .ofString "'use strict'"
  dialect := .typeScript
  tree :=
    let label kind : Label :=
      { kind, field := none, start := 0, stop := 12, named := true, isError := false,
        isMissing := false, hasError := false }
    .node (label "program") [.node (label "expression_statement") [.node (label "string") []]]

/-- A set with one handler, which adds one to a count. -/
def counter (selector : Selector) : Listeners Nat :=
  Listeners.empty.register selector fun _ count => count + 1

/-- Count the string literals of a file in the first of two numbers. -/
def stringCounter : Listeners (Nat × Nat) :=
  (counter (.every .stringLiteral)).within Prod.fst fun counts count => (count, counts.2)

/-- Count the ends of a file in the second of two numbers. -/
def endCounter : Listeners (Nat × Nat) :=
  (counter .programExit).within Prod.snd fun counts count => (counts.1, count)

/-- Two counters that are chained count what each of them counts alone. -/
theorem counters_do_not_interfere :
    stringCounter.KeepsTo Prod.fst Prod.snd ∧
      endCounter.KeepsTo Prod.snd Prod.fst ∧
      (walk (stringCounter.chain endCounter) directiveFile (0, 0)).1 =
        (walk stringCounter directiveFile (0, 7)).1 ∧
      (walk (stringCounter.chain endCounter) directiveFile (0, 0)).2 =
        (walk endCounter directiveFile (7, 0)).2 ∧
      walk (stringCounter.chain endCounter) directiveFile (0, 0) = (1, 1) ∧
      walk ((Listeners.empty.chain stringCounter).chain endCounter) directiveFile (0, 0) =
        walk (stringCounter.chain (endCounter.chain .empty)) directiveFile (0, 0) := by
  have stringsKeep : stringCounter.KeepsTo Prod.fst Prod.snd :=
    .within (fun counts count => (count, counts.2)) (fun _ _ => rfl) (fun _ _ => rfl) _
  have endsKeep : endCounter.KeepsTo Prod.snd Prod.fst :=
    .within (fun counts count => (counts.1, count)) (fun _ _ => rfl) (fun _ _ => rfl) _
  obtain ⟨apart, _, regrouped⟩ := chained_sets_do_not_interfere directiveFile
  refine ⟨stringsKeep, endsKeep, (apart stringsKeep endsKeep (0, 0) (0, 7)).1 rfl,
    (apart stringsKeep endsKeep (0, 0) (7, 0)).2 rfl, ?_, ?_⟩
  · rw [Listeners.walk_eq_foldl_events]
    decide +kernel
  · exact regrouped (.chain (.chain .nothing (.set stringCounter)) (.set endCounter))
      (.chain (.set stringCounter) (.chain (.set endCounter) .nothing)) rfl (0, 0)

end Example

end UsageLint.Walk
