import UsageLint.Proofs.ImportHistory
import UsageLint.Proofs.WalkParts
import UsageLint.Rule

namespace UsageLint

open UsageLint.Syntax
open UsageLint.Imports
open UsageLint.Usage
open UsageLint.Walk

/-!
# What a rule sees

The listeners that keep a view up to date are chained before those of a rule.
Here the run of a rule is watched: every call of one of its handlers is written
down together with what the handler saw. The handlers may be of any kind that
does nothing but report, and may keep a memory of their own.
-/

/-- A handler of a rule: what it reports of a node and what it remembers then. -/
structure Reporter (M : Type) where
  selector : Selector
  react : Node → RuleContext → M → List Finding × M

/-- One call of a handler of a rule, and what the handler saw. -/
structure RuleCall where
  selector : Selector
  node : Node
  seen : RuleContext

/-- What a handler was called for, and with which node. -/
def RuleCall.occasion (call : RuleCall) : Selector × Node :=
  (call.selector, call.node)

/-- A rule that is watched while one file is walked. -/
structure Watch (M : Type) where
  context : RuleContext
  memory : M
  /-- The calls so far, oldest first. -/
  calls : List RuleCall

/-- A check is a handler that remembers nothing. -/
def Check.reporter {M : Type} (check : Check) : Reporter M :=
  ⟨check.selector, fun node context memory => (check.findings node context, memory)⟩

/-- Call a handler and write down what it saw. -/
def Reporter.run {M : Type} (reporter : Reporter M) (node : Node) (watch : Watch M) :
    Watch M :=
  let (findings, memory) := reporter.react node watch.context watch.memory
  { context := findings.foldl RuleContext.report watch.context
    memory := memory
    calls := watch.calls ++ [⟨reporter.selector, node, watch.context⟩] }

namespace Watch

variable {M : Type}

/-- The same watch with another context. -/
def withContext (watch : Watch M) (context : RuleContext) : Watch M :=
  { watch with context := context }

/-- The handlers as listeners that write down what they see. -/
def listeners (reporters : List (Reporter M)) : Listeners (Watch M) :=
  ⟨reporters.map fun reporter => ⟨reporter.selector, reporter.run⟩⟩

/-- The listeners that keep the view of a rule up to date. -/
def trackingListeners : Listeners (Watch M) :=
  (tracking.within RuleContext.view RuleContext.withView).within
    Watch.context withContext

/-- The listeners of some handlers after those that keep the view up to date. -/
def trackedListeners (reporters : List (Reporter M)) : Listeners (Watch M) :=
  trackingListeners.chain (listeners reporters)

/-- The occasions at one node: one for each handler whose selector passes a test. -/
def occasionsAt
    (reporters : List (Reporter M))
    (test : Selector → Prop)
    [DecidablePred test]
    (node : Node) :
    List (Selector × Node) :=
  (reporters.filter fun reporter => test reporter.selector).map fun reporter =>
    (reporter.selector, node)

/-- The occasions of a walk over some nodes, of which anonymous ones give none. -/
def occasions (reporters : List (Reporter M)) (nodes : List Node) :
    List (Selector × Node) :=
  (nodes.filter (·.label.named)).flatMap fun node =>
    occasionsAt reporters (·.Selects node) node

/-- Watch a rule with these handlers while a file is walked. -/
def finish
    (rule : Rule)
    (reporters : List (Reporter M))
    (memory : M)
    (file : Path)
    (settings : Settings)
    (tree : SourceTree) :
    Watch M :=
  walk (trackedListeners reporters) tree ⟨rule.start file settings, memory, []⟩

end Watch

/-- The imports that nodes declare or call for, taken in one after another. -/
def importsOf (settings : Settings) (nodes : List Node) : Tracker :=
  .after settings (nodes.filterMap Observation.ofNode?)

/-- What is known on the way, after these nodes. -/
def viewAfter (settings : Settings) (nodes : List Node) : View :=
  ⟨settings, importsOf settings nodes, false⟩

/-- One more node adds its load, if it is one. -/
theorem importsOf_concat
    (settings : Settings)
    (nodes : List Node)
    (node : Node) :
    importsOf settings (nodes ++ [node]) =
      match Observation.ofNode? node with
      | some observation => (importsOf settings nodes).observe settings observation
      | none => importsOf settings nodes := by
  unfold importsOf
  rw [List.filterMap_append, Tracker.after_append]
  cases shown : Observation.ofNode? node <;> simp [shown]

/-- The tracking listeners take in a named node. -/
theorem callWhere_tracking
    (settings : Settings)
    (visited : List Node)
    {node : Node}
    (named : node.label.named = true) :
    tracking.callWhere (·.Selects node) node (viewAfter settings visited) =
      viewAfter settings (visited ++ [node]) := by
  unfold viewAfter
  rw [importsOf_concat, Observation.ofNode?, if_pos named]
  cases kind : node.kind <;>
    simp [tracking, Listeners.register, Listeners.empty, Listeners.callWhere,
      Selector.Selects, kind, View.observeImport, View.observeRequire,
      Tracker.observe]

theorem callWhere_tracking_exit (root : Node) (view : View) :
    tracking.callWhere (· = .programExit) root view = view.finish := by
  simp [tracking, Listeners.register, Listeners.empty, Listeners.callWhere]

theorem view_foldl_report
    (findings : List Finding)
    (context : RuleContext) :
    (findings.foldl RuleContext.report context).view = context.view := by
  induction findings generalizing context with
  | nil =>
      rfl
  | cons finding rest inductionHypothesis =>
      rw [List.foldl_cons, inductionHypothesis]
      rfl

namespace Watch

variable {M : Type}

section Calls

variable
  (reporters : List (Reporter M))
  (test : Selector → Prop)
  [DecidablePred test]
  (node : Node)
  (watch : Watch M)

/-- Watched or not, the tracking listeners do the same to the view. -/
theorem view_callWhere_tracking :
    (trackingListeners.callWhere test node watch).context.view =
      tracking.callWhere test node watch.context.view := by
  have onContext :=
    Listeners.part_callWhere_within context withContext (fun _ _ => rfl)
      (tracking.within RuleContext.view RuleContext.withView)
      test node watch
  have onView :=
    Listeners.part_callWhere_within RuleContext.view RuleContext.withView
      (fun _ _ => rfl) tracking test node watch.context
  exact (congrArg RuleContext.view onContext).trans onView

theorem calls_callWhere_tracking :
    (trackingListeners.callWhere test node watch).calls = watch.calls :=
  Listeners.other_callWhere_within context withContext calls (fun _ _ => rfl)
    (tracking.within RuleContext.view RuleContext.withView) test node watch

/-- The handlers are called one after another, each with what those before it left. -/
theorem callWhere_listeners_cons (reporter : Reporter M) :
    (listeners (reporter :: reporters)).callWhere test node watch =
      (listeners reporters).callWhere test node
        (if test reporter.selector then reporter.run node watch else watch) :=
  rfl

/-- Handlers do not change the view of a rule. -/
theorem view_callWhere_listeners :
    ((listeners reporters).callWhere test node watch).context.view =
      watch.context.view := by
  induction reporters generalizing watch with
  | nil =>
      rfl
  | cons reporter rest inductionHypothesis =>
      rw [callWhere_listeners_cons, inductionHypothesis]
      split
      · exact view_foldl_report ..
      · rfl

/--
The handlers called for a node are those whose selectors pass the test, in
their order, and all of them see the view that was there before.
-/
theorem exists_calls_callWhere_listeners :
    ∃ added,
      ((listeners reporters).callWhere test node watch).calls =
          watch.calls ++ added ∧
        added.map RuleCall.occasion = occasionsAt reporters test node ∧
        ∀ call ∈ added,
          test call.selector ∧ call.node = node ∧
            call.seen.view = watch.context.view := by
  induction reporters generalizing watch with
  | nil =>
      exact ⟨[], by simp [listeners, Listeners.callWhere], rfl, by simp⟩
  | cons reporter rest inductionHypothesis =>
      by_cases called : test reporter.selector
      · obtain ⟨added, grown, occasions, seen⟩ :=
          inductionHypothesis (reporter.run node watch)
        refine ⟨⟨reporter.selector, node, watch.context⟩ :: added, ?_, ?_, ?_⟩
        · rw [callWhere_listeners_cons, if_pos called, grown]
          simp [Reporter.run]
        · simpa [occasionsAt, called, RuleCall.occasion] using occasions
        · rintro call (_ | ⟨_, later⟩)
          · exact ⟨called, rfl, rfl⟩
          · obtain ⟨passes, sameNode, sameView⟩ := seen call later
            exact ⟨passes, sameNode, sameView.trans (view_foldl_report ..)⟩
      · obtain ⟨added, grown, occasions, seen⟩ := inductionHypothesis watch
        refine ⟨added, ?_, ?_, seen⟩
        · rw [callWhere_listeners_cons, if_neg called, grown]
        · simpa [occasionsAt, called] using occasions

/-- Checks do to the context what the listeners of their rule do to it. -/
theorem context_callWhere_checks (rule : Rule) :
    ((listeners (rule.checks.map Check.reporter)).callWhere test node
        watch).context =
      rule.listeners.callWhere test node watch.context := by
  rw [Rule.listeners]
  induction rule.checks generalizing watch with
  | nil =>
      rfl
  | cons check rest inductionHypothesis =>
      rw [List.map_cons, callWhere_listeners_cons, inductionHypothesis,
        apply_ite context]
      rfl

end Calls

/--
A watch follows the nodes visited so far: the view is the one after them, the
calls are those that the nodes are occasions for, and each call saw the view
after the nodes up to its own.
-/
structure Follows
    (settings : Settings)
    (reporters : List (Reporter M))
    (visited : List Node)
    (watch : Watch M) : Prop where
  view : watch.context.view = viewAfter settings visited
  occasions : watch.calls.map RuleCall.occasion = occasions reporters visited
  seen :
    ∀ call ∈ watch.calls,
      call.selector ≠ .programExit ∧
        ∃ earlier,
          earlier ++ [call.node] <+: visited ∧
            call.seen.view = viewAfter settings (earlier ++ [call.node])

section Visit

variable
  {settings : Settings}
  {reporters : List (Reporter M)}
  {visited : List Node}
  {watch : Watch M}
  {node : Node}
  (follows : Follows settings reporters visited watch)

include follows

/-- What calls saw on the way is not changed by nodes that come later. -/
theorem Follows.seen_concat
    {call : RuleCall}
    (written : call ∈ watch.calls) :
    call.selector ≠ .programExit ∧
      ∃ earlier,
        earlier ++ [call.node] <+: visited ++ [node] ∧
          call.seen.view = viewAfter settings (earlier ++ [call.node]) := by
  obtain ⟨notExit, earlier, isPrefix, seen⟩ := follows.seen call written
  exact ⟨notExit, earlier, isPrefix.trans (List.prefix_append ..), seen⟩

/-- A visit of a named node is followed. -/
theorem Follows.visit_named (named : node.label.named = true) :
    Follows settings reporters (visited ++ [node])
      ((trackedListeners reporters).callWhere (·.Selects node) node watch) := by
  rw [trackedListeners, Listeners.callWhere_chain]
  -- The tracker is shown the node first, so the handlers see what it binds.
  have tracked :
      (trackingListeners.callWhere (·.Selects node) node watch).context.view =
        viewAfter settings (visited ++ [node]) := by
    rw [view_callWhere_tracking, follows.view,
      callWhere_tracking settings visited named]
  obtain ⟨added, grown, addedOccasions, seen⟩ :=
    exists_calls_callWhere_listeners reporters (·.Selects node) node
      (trackingListeners.callWhere (·.Selects node) node watch)
  rw [calls_callWhere_tracking] at grown
  constructor
  · rw [view_callWhere_listeners, tracked]
  · rw [grown, List.map_append, follows.occasions, addedOccasions]
    simp [Watch.occasions, named]
  · intro call written
    rw [grown] at written
    rcases List.mem_append.mp written with before | now
    · exact follows.seen_concat before
    · obtain ⟨selected, rfl, sameView⟩ := seen call now
      exact ⟨Selector.ne_programExit_of_selects selected, visited,
        List.prefix_rfl, sameView.trans tracked⟩

theorem Follows.visit_anonymous (anonymous : ¬ node.label.named = true) :
    Follows settings reporters (visited ++ [node]) watch := by
  constructor
  · rw [follows.view, viewAfter, viewAfter, importsOf_concat,
      Observation.ofNode?, if_neg anonymous]
  · rw [follows.occasions]
    simp [Watch.occasions, anonymous]
  · intro call written
    exact follows.seen_concat written

end Visit

/-- A visit of several nodes is followed. -/
theorem Follows.visit_all
    {settings : Settings}
    {reporters : List (Reporter M)}
    {visited : List Node}
    {watch : Watch M}
    (nodes : List Node)
    (follows : Follows settings reporters visited watch) :
    Follows settings reporters (visited ++ nodes)
      (nodes.foldl (trackedListeners reporters).visitNode watch) := by
  induction nodes generalizing visited watch with
  | nil =>
      simpa using follows
  | cons node rest inductionHypothesis =>
      have visitedNode :
          Follows settings reporters (visited ++ [node])
            ((trackedListeners reporters).visitNode watch node) := by
        unfold Listeners.visitNode
        split
        · next named =>
            exact follows.visit_named named
        · next anonymous =>
            exact follows.visit_anonymous anonymous
      simpa using inductionHypothesis visitedNode

/-- Before the walk nothing was seen and nothing was imported. -/
theorem follows_start
    (rule : Rule)
    (reporters : List (Reporter M))
    (memory : M)
    (file : Path)
    (settings : Settings) :
    Follows settings reporters [] ⟨rule.start file settings, memory, []⟩ :=
  ⟨rfl, rfl, by simp⟩

section Finish

variable
  (rule : Rule)
  (reporters : List (Reporter M))
  (memory : M)
  (file : Path)
  (settings : Settings)
  (tree : SourceTree)

/-- The watch once all nodes were visited, before the end of the file. -/
def onTheWay : Watch M :=
  tree.root.preorder.foldl (trackedListeners reporters).visitNode
    ⟨rule.start file settings, memory, []⟩

theorem follows_onTheWay :
    Follows settings reporters tree.root.preorder
      (onTheWay rule reporters memory file settings tree) :=
  (follows_start rule reporters memory file settings).visit_all
    tree.root.preorder

theorem finish_eq_callWhere :
    finish rule reporters memory file settings tree =
      (listeners reporters).callWhere (· = .programExit) tree.root
        (trackingListeners.callWhere (· = .programExit) tree.root
          (onTheWay rule reporters memory file settings tree)) := by
  rw [finish, Listeners.walk_eq_foldl, ← Listeners.callWhere_chain]
  rfl

/--
The calls of a whole walk are those on the way, and then one for each handler
for the end of the file, which saw all imports and the file finished.
-/
theorem exists_calls_finish :
    ∃ atEnd,
      (finish rule reporters memory file settings tree).calls =
          (onTheWay rule reporters memory file settings tree).calls ++ atEnd ∧
        atEnd.map RuleCall.occasion =
          occasionsAt reporters (· = .programExit) tree.root ∧
        ∀ call ∈ atEnd,
          call.selector = .programExit ∧ call.node = tree.root ∧
            call.seen.view = (viewAfter settings tree.root.preorder).finish := by
  have follows := follows_onTheWay rule reporters memory file settings tree
  have added :=
    exists_calls_callWhere_listeners reporters (· = .programExit) tree.root
      (trackingListeners.callWhere (· = .programExit) tree.root
        (onTheWay rule reporters memory file settings tree))
  rw [calls_callWhere_tracking, view_callWhere_tracking, callWhere_tracking_exit,
    follows.view] at added
  rw [finish_eq_callWhere]
  exact added

/-- At the end a rule knows what the tracking listeners alone come to know. -/
theorem view_finish :
    (finish rule reporters memory file settings tree).context.view =
      walk tracking tree (.initial settings) := by
  refine Listeners.part_walk (fun watch : Watch M => watch.context.view) ?_ tree _
  intro test _ node watch
  rw [trackedListeners, Listeners.callWhere_chain, view_callWhere_listeners,
    view_callWhere_tracking]

/-- Watching the checks of a rule changes nothing in what the rule does. -/
theorem context_finish_checks :
    (finish rule (rule.checks.map Check.reporter) memory file settings tree).context =
      rule.finish file settings tree := by
  refine Listeners.part_walk context ?_ tree _
  intro test _ node watch
  rw [trackedListeners, Listeners.callWhere_chain, context_callWhere_checks,
    Rule.trackedListeners, Listeners.callWhere_chain, trackingListeners,
    Listeners.part_callWhere_within context withContext (fun _ _ => rfl)]

end Finish

/--
Let handlers that do nothing but report be chained after the tracking listeners,
whatever they remember. They are called for each named node that their selector
asks for, in document order, and then for the end of the file. A handler called
for a node sees the imports of the nodes up to that one, itself included, and
nothing finished; one called for the end of the file sees all imports, and the
file finished. What is known of the file at the end is what the tracking
listeners alone come to know. The run of a rule is the case of its own checks.
-/
theorem handlers_see_imports_so_far
    (rule : Rule)
    (reporters : List (Reporter M))
    (memory : M)
    (file : Path)
    (settings : Settings)
    (tree : SourceTree) :
    tree.root.preorder.Nodup ∧
      (finish rule reporters memory file settings tree).calls.map
          RuleCall.occasion =
        occasions reporters tree.root.preorder ++
          occasionsAt reporters (· = .programExit) tree.root ∧
      (∀ call ∈ (finish rule reporters memory file settings tree).calls,
        call.selector ≠ .programExit →
        ∃ earlier later,
          tree.root.preorder = earlier ++ call.node :: later ∧
            call.seen.view.imports =
              importsOf settings (earlier ++ [call.node]) ∧
            call.seen.view.isFinished = false) ∧
      (∀ call ∈ (finish rule reporters memory file settings tree).calls,
        call.selector = .programExit →
        call.node = tree.root ∧
          call.seen.view.imports = importsOf settings tree.root.preorder ∧
          call.seen.view.isFinished = true) ∧
      (finish rule reporters memory file settings tree).context.view.state =
        (walk tracking tree (.initial settings)).state ∧
      (finish rule (rule.checks.map Check.reporter) memory file settings
          tree).context =
        rule.finish file settings tree := by
  have follows := follows_onTheWay rule reporters memory file settings tree
  obtain ⟨atEnd, grown, exitOccasions, exitSeen⟩ :=
    exists_calls_finish rule reporters memory file settings tree
  refine ⟨tree.root.nodup_preorder, ?_, ?_, ?_, ?_,
    context_finish_checks rule memory file settings tree⟩
  · rw [grown, List.map_append, follows.occasions, exitOccasions]
  · intro call written notExit
    rw [grown] at written
    rcases List.mem_append.mp written with onWay | last
    · obtain ⟨_, earlier, ⟨later, shape⟩, seen⟩ := follows.seen call onWay
      exact ⟨earlier, later, by simpa using shape.symm,
        congrArg View.imports seen, congrArg View.isFinished seen⟩
    · exact (notExit (exitSeen call last).1).elim
  · intro call written atExit
    rw [grown] at written
    rcases List.mem_append.mp written with onWay | last
    · exact ((follows.seen call onWay).1 atExit).elim
    · obtain ⟨_, atRoot, seen⟩ := exitSeen call last
      exact ⟨atRoot, congrArg View.imports seen, congrArg View.isFinished seen⟩
  · rw [view_finish]

end Watch

end UsageLint
