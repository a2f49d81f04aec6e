/-
# Proofs.SearchSweep -- limits and the typed text choose from one search

However many chains a search may record, whatever is typed and whenever it is interrupted,
it asks the same questions in the same order for as long as it runs.  A sweep is the search
that nothing ends and that records every chain that fits (`sweep`).

A search keeps step with the sweep: as long as it goes on it has come just as far, and has
recorded the chains of the sweep that the typed text selects (`Progress.select`); when it
ends early, these are a start of what the sweep selects in the end (`Shadows`).  This holds of
a candidate, of a node, of a round and of the whole search, also where the frontier is full.

* `run_chooses`: every search records a start of what is selected from the sweep, and all
  of it if it ends by itself;
* `run_views_sweep`: hence the result limit takes the first ones, an interruption leaves a
  start of these, and a longer typed text selects among the chains of a shorter one.
-/
import ChainCompletion.Proofs.CompletionReach

namespace ChainCompletion.Search

set_option autoImplicit false

variable {σ : Type}

/-! ## The typed text -/

/-- Whether the typed text, folded, selects a chain by its root or its last member. -/
def selects (typed : List Char) (chain : Chain) : Bool :=
  chain.lastMember?.all (matchesTyped typed chain.root)

theorem selects_complete (typed : List Char) (node : Node) (member : Member) :
    selects typed (node.complete member) = matchesTyped typed node.root member := by
  simp [selects, Chain.lastMember?, Node.complete, Node.pathTo]

@[simp] theorem matchesTyped_nil (root : Binding) (last : Member) :
    matchesTyped [] root last = true := rfl

@[simp] theorem selects_nil (chain : Chain) : selects [] chain = true := by
  cases last : chain.lastMember? <;> simp [selects, last]

/-- Folding a text folds its starts. -/
theorem foldName_isPrefix {short long : String} (starts : short.toList <+: long.toList) :
    foldName short <+: foldName long :=
  (starts.filter _).flatMap _

/-- What a longer text matches, its starts match. -/
theorem matchesTyped_of_isPrefix {short long : List Char} (starts : short <+: long)
    {root : Binding} {last : Member} (selected : matchesTyped long root last = true) :
    matchesTyped short root last = true := by
  simp only [matchesTyped, Bool.or_eq_true, Bool.and_eq_true, List.isPrefixOf_iff_prefix,
    List.isEmpty_iff] at selected ⊢
  rcases selected with (nothing | atRoot) | ⟨named, atLast⟩
  · subst nothing
    exact Or.inl (Or.inl (List.prefix_nil.1 starts))
  · exact Or.inl (Or.inr (starts.trans atRoot))
  · exact Or.inr ⟨named, starts.trans atLast⟩

theorem selects_of_isPrefix {short long : List Char} (starts : short <+: long) {chain : Chain}
    (selected : selects long chain = true) : selects short chain = true := by
  rw [selects, Option.all_eq_true] at selected ⊢
  exact fun last isLast => matchesTyped_of_isPrefix starts (selected last isLast)

/-! ## A search that nothing ends -/

/-- Whether a progress can come of another: no chain is lost and no refusal taken back. -/
structure Progress.GoesOn (before after : Progress σ) : Prop where
  chains : before.chains.toList <+: after.chains.toList
  refused : before.refused ≤ after.refused

theorem Progress.GoesOn.refl (progress : Progress σ) : progress.GoesOn progress :=
  ⟨List.prefix_refl _, Nat.le_refl _⟩

theorem Progress.GoesOn.trans {before between after : Progress σ} (early : before.GoesOn between)
    (late : between.GoesOn after) : before.GoesOn after :=
  ⟨early.chains.trans late.chains, Nat.le_trans early.refused late.refused⟩

theorem foldl_goesOn {α : Type} {work : Progress σ → α → Progress σ}
    (each : ∀ progress item, Progress.GoesOn progress (work progress item)) (progress : Progress σ)
    (items : List α) : progress.GoesOn (items.foldl work progress) := by
  induction items generalizing progress with
  | nil => exact Progress.GoesOn.refl _
  | cons item items ih => exact (each progress item).trans (ih _)

section Sweep

variable (view : ProgramView σ) (limits : Limits) (request : Request)

/-- Deals with a candidate of a node; every chain that fits is recorded. -/
def sweepMember (node : Node) (progress : Progress σ) (member : Member) : Progress σ :=
  (visitMember view limits request.target [] node progress member).1

/-- Looks at a node and all its candidates. -/
def sweepNode (progress : Progress σ) (node : Node) : Progress σ :=
  match candidates view request.callSite progress.state node with
  | (.error _, state) => { progress.takeUp state with pruned := progress.pruned + 1 }
  | (.ok members, state) =>
      members.foldl (sweepMember view limits request node) (progress.takeUp state)

/-- Runs so many rounds. -/
def sweepRounds : Nat → Progress σ → List Node → Progress σ
  | 0, progress, _ => progress
  | rounds + 1, progress, nodes =>
      let after := nodes.foldl (sweepNode view limits request) { progress with next := #[] }
      sweepRounds rounds after after.next.toList

/-- The progress of a search that has not looked at a node yet. -/
def firstProgress (state : σ) : Progress σ :=
  ⟨state, #[], #[], (request.firstNodes limits).length, 0, 0, 0⟩

/-- The search that nothing ends and that records every chain that fits. -/
def sweep (state : σ) : Progress σ :=
  sweepRounds view limits request limits.rounds (firstProgress limits request state)
    (request.firstNodes limits)

variable {view limits request}

theorem sweepMember_goesOn (node : Node) (progress : Progress σ) (member : Member) :
    progress.GoesOn (sweepMember view limits request node progress member) := by
  have step := visitMember_step view limits request.target [] node progress member
  rw [sweepMember]
  generalize visitMember view limits request.target [] node progress member = result at step ⊢
  cases step with
  | recorded asked selected => exact ⟨by simp, Nat.le_refl _⟩
  | refused asked grows full => exact ⟨List.prefix_refl _, Nat.le_succ _⟩
  | _ => exact ⟨List.prefix_refl _, Nat.le_refl _⟩

theorem sweepNode_goesOn (progress : Progress σ) (node : Node) :
    progress.GoesOn (sweepNode view limits request progress node) := by
  rw [sweepNode]
  split
  · exact ⟨List.prefix_refl _, Nat.le_refl _⟩
  · next state _ =>
      have taken : progress.GoesOn (progress.takeUp state) := ⟨List.prefix_refl _, Nat.le_refl _⟩
      exact taken.trans (foldl_goesOn (sweepMember_goesOn node) _ _)

theorem sweepRounds_goesOn (rounds : Nat) (progress : Progress σ) (nodes : List Node) :
    progress.GoesOn (sweepRounds view limits request rounds progress nodes) := by
  induction rounds generalizing progress nodes with
  | zero => exact Progress.GoesOn.refl _
  | succ rounds ih =>
      have start : progress.GoesOn { progress with next := #[] } :=
        ⟨List.prefix_refl _, Nat.le_refl _⟩
      exact (start.trans (foldl_goesOn sweepNode_goesOn _ nodes)).trans (ih _ _)

/-- Without nodes a sweep stays where it is. -/
theorem sweepRounds_nil (rounds : Nat) (progress : Progress σ) :
    (sweepRounds view limits request rounds progress []).chains = progress.chains ∧
      (sweepRounds view limits request rounds progress []).refused = progress.refused := by
  induction rounds generalizing progress with
  | zero => exact ⟨rfl, rfl⟩
  | succ rounds ih => exact ih _

end Sweep

/-! ## Keeping step -/

/-- The progress of a search that has recorded only what the typed text selects. -/
def Progress.select (progress : Progress σ) (typed : List Char) : Progress σ :=
  { progress with chains := progress.chains.filter (selects typed) }

/-- Whether a search with this result keeps step with a sweep that has come to `whole`. -/
structure Shadows (typed : List Char) (result : Progress σ × Option StopReason)
    (whole : Progress σ) : Prop where
  going : result.2 = none → result.1 = whole.select typed
  recorded : result.1.chains.toList <+: whole.chains.toList.filter (selects typed)
  unfinished : result.2 ≠ some .exhausted

/-- A search that goes on has recorded what is selected so far. -/
theorem Shadows.goOn {typed : List Char} {progress whole : Progress σ}
    (same : progress = whole.select typed) : Shadows typed (progress, none) whole where
  going _ := same
  recorded := by simp [same, Progress.select]
  unfinished := by simp

theorem workOff_shadows {α : Type} {typed : List Char}
    {work : Progress σ → α → Progress σ × Option StopReason} {swept : Progress σ → α → Progress σ}
    (each : ∀ progress item, Shadows typed (work (progress.select typed) item) (swept progress item))
    (goesOn : ∀ progress item, Progress.GoesOn progress (swept progress item))
    (progress : Progress σ) (items : List α) :
    Shadows typed (workOff work (progress.select typed) items) (items.foldl swept progress) := by
  induction items generalizing progress with
  | nil => exact Shadows.goOn rfl
  | cons item items ih =>
      have first := each progress item
      rw [workOff, List.foldl_cons]
      split
      · next stopped =>
          rw [stopped] at first
          have later := foldl_goesOn goesOn (swept progress item) items
          exact ⟨by simp, first.recorded.trans (later.chains.filter _), first.unfinished⟩
      · next going =>
          rw [going] at first
          have same := first.going rfl
          simp only at same
          rw [same]
          exact ih _

/-- Whether a search that ended so has recorded a start of what the typed text selects from a
sweep that has come to `whole`, and all of it if it ended by itself. -/
structure Chooses (typed : List Char) (result : Progress σ × StopReason) (whole : Progress σ) :
    Prop where
  recorded : result.1.chains.toList <+: whole.chains.toList.filter (selects typed)
  whole : result.2 = .exhausted →
    result.1.chains.toList = whole.chains.toList.filter (selects typed) ∧
      result.1.refused = whole.refused

theorem Chooses.all {typed : List Char} {progress whole : Progress σ} {reason : StopReason}
    (chains : whole.chains = progress.chains) (refused : whole.refused = progress.refused) :
    Chooses typed (progress.select typed, reason) whole := by
  have same : (progress.select typed).chains.toList = whole.chains.toList.filter (selects typed) := by
    simp [Progress.select, chains]
  exact ⟨by rw [same], fun _ => ⟨same, refused.symm⟩⟩

section Steps

variable {view : ProgramView σ} {limits other : Limits} {request : Request} {typed : String}

/-- A candidate is dealt with in step, however many chains may be recorded. -/
theorem visitMember_shadows (frontier : other.maxFrontier = limits.maxFrontier) (node : Node)
    (progress : Progress σ) (member : Member) :
    Shadows (foldName typed)
      (visitMember view other request.target (foldName typed) node
        (progress.select (foldName typed)) member)
      (sweepMember view limits request node progress member) := by
  have step := visitMember_step view limits request.target [] node progress member
  rw [sweepMember]
  generalize visitMember view limits request.target [] node progress member = result at step ⊢
  have chosen := selects_complete (foldName typed) node member
  rw [visitMember, frontier]
  simp only [Progress.select]
  cases step with
  | unanswered asked =>
      simp only [asked]
      exact Shadows.goOn rfl
  | @recorded state asked _ =>
      simp only [asked]
      split
      · next selected =>
          rw [selected] at chosen
          have pushed : (progress.chains.filter (selects (foldName typed))).push
              (node.complete member) =
              (progress.chains.push (node.complete member)).filter (selects (foldName typed)) :=
            (Array.filter_push_of_pos chosen (by simp)).symm
          refine ⟨fun _ => ?_, ?_, ?_⟩
          · simp only [Progress.select, pushed]
          · simp [pushed]
          · simp
      · next ignored =>
          rw [Bool.not_eq_true] at ignored
          rw [ignored] at chosen
          have dropped : (progress.chains.push (node.complete member)).filter
              (selects (foldName typed)) = progress.chains.filter (selects (foldName typed)) :=
            Array.filter_push_of_neg (by simp [chosen]) (by simp)
          exact Shadows.goOn (by simp only [Progress.select, dropped])
  | unselected asked ignored => simp at ignored
  | waits asked grows room =>
      simp only [asked, grows, room, if_true]
      exact Shadows.goOn rfl
  | refused asked grows full =>
      simp only [asked, grows, if_true, Nat.not_lt.2 full, if_false]
      exact Shadows.goOn rfl
  | ended asked ends =>
      simp only [asked, ends, Bool.false_eq_true, if_false]
      exact Shadows.goOn rfl

/-- A node is dealt with in step, unless the search is interrupted before it. -/
theorem visitNode_shadows (frontier : other.maxFrontier = limits.maxFrontier) (signals : Signals)
    (progress : Progress σ) (node : Node) :
    Shadows (foldName typed)
      (visitNode view signals other { request with typed := typed }
        (progress.select (foldName typed)) node)
      (sweepNode view limits request progress node) := by
  have later := @sweepNode_goesOn _ view limits request progress node
  rw [visitNode]
  split
  · next reason stops =>
      refine ⟨by simp, ?_, ?_⟩
      · simpa [Progress.select] using later.chains.filter (selects (foldName typed))
      · rcases signals.interruption?_reason stops with rfl | rfl <;> simp
  · rw [sweepNode]
    simp only [Progress.select]
    generalize candidates view request.callSite progress.state node = offered
    obtain ⟨answer, state⟩ := offered
    cases answer with
    | error error => exact Shadows.goOn rfl
    | ok members =>
        exact workOff_shadows (visitMember_shadows frontier node) (sweepMember_goesOn node)
          (progress.takeUp state) members

/-- Rounds are run in step until the search ends. -/
theorem runRounds_chooses (frontier : other.maxFrontier = limits.maxFrontier) (signals : Signals)
    (rounds : Nat) (progress : Progress σ) (nodes : List Node) :
    Chooses (foldName typed)
      (runRounds view signals other { request with typed := typed } rounds
        (progress.select (foldName typed)) nodes)
      (sweepRounds view limits request rounds progress nodes) := by
  induction rounds generalizing progress nodes with
  | zero => exact Chooses.all rfl rfl
  | succ rounds ih =>
      cases nodes with
      | nil =>
          obtain ⟨chains, refused⟩ := @sweepRounds_nil _ view limits request (rounds + 1) progress
          exact Chooses.all chains refused
      | cons node nodes =>
          have round : Shadows (foldName typed)
              (workOff (visitNode view signals other { request with typed := typed })
                { progress.select (foldName typed) with next := #[] } (node :: nodes))
              ((node :: nodes).foldl (sweepNode view limits request) { progress with next := #[] }) :=
            workOff_shadows (visitNode_shadows frontier signals) sweepNode_goesOn
              { progress with next := #[] } (node :: nodes)
          rw [sweepRounds, runRounds]
          · split
            · next stopped =>
                rw [stopped] at round
                refine ⟨round.recorded.trans ((sweepRounds_goesOn _ _ _).chains.filter _), ?_⟩
                rintro rfl
                exact absurd rfl round.unfinished
            · next going =>
                rw [going] at round
                have same := round.going rfl
                simp only at same
                rw [same]
                exact ih _ _
          · simp

/-- Every search records a start of what the typed text selects from the sweep, and all of it
if it ends by itself. -/
theorem run_chooses (frontier : other.maxFrontier = limits.maxFrontier)
    (depth : other.maxDepth = limits.maxDepth) (signals : Signals) (state : σ) :
    (run view signals other { request with typed := typed } state).1.chains <+:
      (sweep view limits request state).chains.toList.filter (selects (foldName typed)) ∧
    ((run view signals other { request with typed := typed } state).1.reason = .exhausted →
      (run view signals other { request with typed := typed } state).1.chains =
        (sweep view limits request state).chains.toList.filter (selects (foldName typed)) ∧
      (run view signals other { request with typed := typed } state).1.refused =
        (sweep view limits request state).refused) := by
  have nodes : Request.firstNodes { request with typed := typed } other =
      request.firstNodes limits := by
    simp only [Request.firstNodes, depth]
  have rounds : other.rounds = limits.rounds := by
    simp only [Limits.rounds, depth]
  have chooses := @runRounds_chooses _ view limits other request typed frontier signals
    limits.rounds (firstProgress limits request state) (request.firstNodes limits)
  simp only [run, nodes, rounds]
  exact ⟨chooses.recorded, chooses.whole⟩

/-- Undisturbed, a search records as many chains as it may or ends by itself. -/
theorem run_ends_undisturbed {signals : Signals}
    (undisturbed : signals.Undisturbed limits.timeoutMs) (state : σ) :
    (run view signals limits request state).1.chains.length = limits.mostChains ∨
      ((run view signals limits request state).1.chains.length < limits.mostChains ∧
        (run view signals limits request state).1.reason = .exhausted) := by
  have ends := @run_ends _ view signals limits request state
  generalize (run view signals limits request state).1 = outcome at ends ⊢
  obtain ⟨chains, reason, pruned, expanded, refused⟩ := outcome
  cases ends with
  | enough full => exact Or.inl full
  | interrupted room stops => simp [undisturbed.interruption? expanded] at stops
  | exhausted room goes => exact Or.inr ⟨room, rfl⟩

end Steps

/-! ## Views of one sweep -/

section Views

variable (view : ProgramView σ) (limits : Limits) (request : Request) (state : σ)

/-- What a search records when this is typed and it may record so many chains. -/
def chainsWith (signals : Signals) (typed : String) (results : Nat) : List Chain :=
  (run view signals { limits with maxResults := results } { request with typed := typed }
    state).1.chains

/-- Undisturbed, a search records the first chains of the sweep that the typed text selects. -/
theorem chainsWith_eq_take {signals : Signals} (undisturbed : signals.Undisturbed limits.timeoutMs)
    (typed : String) (results : Nat) :
    chainsWith view limits request state signals typed results =
      ((sweep view limits request state).chains.toList.filter
        (selects (foldName typed))).take (max 1 results) := by
  obtain ⟨isStart, isWhole⟩ := @run_chooses _ view limits { limits with maxResults := results }
    request typed rfl rfl signals state
  have ends := @run_ends_undisturbed _ view { limits with maxResults := results }
    { request with typed := typed } signals undisturbed state
  rw [chainsWith]
  rcases ends with full | ⟨room, exhausted⟩
  · rw [List.prefix_iff_eq_take, full] at isStart
    exact isStart
  · rw [(isWhole exhausted).1] at room ⊢
    exact (List.take_of_length_le (Nat.le_of_lt room)).symm

/-- **Limits and the typed text only choose from one search.**  There is one list of chains,
recorded by every undisturbed search for which nothing is typed and which may record more
than these.  Whatever is typed and however many chains may be recorded, an undisturbed
search records the first of those in the list that the typed text selects; a search that is
interrupted records a start of these; and without a limit that counts, what is recorded for
a longer text is part of what is recorded for a start of it, in the same order. -/
theorem run_views_sweep :
    ∃ all : List Chain,
      (∀ signals results, signals.Undisturbed limits.timeoutMs → all.length < results →
        chainsWith view limits request state signals "" results = all) ∧
      (∀ signals typed results, signals.Undisturbed limits.timeoutMs →
        chainsWith view limits request state signals typed results =
          (all.filter (selects (foldName typed))).take (max 1 results)) ∧
      (∀ signals typed results,
        chainsWith view limits request state signals typed results <+:
          (all.filter (selects (foldName typed))).take (max 1 results)) ∧
      (∀ signals signals' short long results results',
        signals.Undisturbed limits.timeoutMs → signals'.Undisturbed limits.timeoutMs →
        String.toList short <+: String.toList long → all.length < results → all.length < results' →
        (chainsWith view limits request state signals long results).Sublist
          (chainsWith view limits request state signals' short results')) := by
  -- with room for more chains than there are, nothing is cut off
  have uncut : ∀ {typed : String} {results : Nat},
      (sweep view limits request state).chains.toList.length < results →
      ((sweep view limits request state).chains.toList.filter
        (selects (foldName typed))).take (max 1 results) =
      (sweep view limits request state).chains.toList.filter (selects (foldName typed)) := by
    intro typed results room
    refine List.take_of_length_le ?_
    have fewer := List.length_filter_le (selects (foldName typed))
      (sweep view limits request state).chains.toList
    omega
  refine ⟨(sweep view limits request state).chains.toList, ?_, ?_, ?_, ?_⟩
  · intro signals results undisturbed room
    rw [chainsWith_eq_take view limits request state undisturbed, uncut room]
    exact List.filter_eq_self.2 fun chain _ => selects_nil chain
  · intro signals typed results undisturbed
    exact chainsWith_eq_take view limits request state undisturbed typed results
  · intro signals typed results
    obtain ⟨isStart, -⟩ := @run_chooses _ view limits { limits with maxResults := results }
      request typed rfl rfl signals state
    have ends := @run_ends _ view signals { limits with maxResults := results }
      { request with typed := typed } state
    exact List.prefix_take_iff.2 ⟨isStart, ends.length_le⟩
  · intro signals signals' short long results results' undisturbed undisturbed' starts room room'
    rw [chainsWith_eq_take view limits request state undisturbed, uncut room,
      chainsWith_eq_take view limits request state undisturbed', uncut room']
    exact List.monotone_filter_right _ fun chain => selects_of_isPrefix (foldName_isPrefix starts)

end Views

/-- Of the two chains to a goal, `Maker.part().goal()` and `box.parts[i].goal()`, the text `b`
selects the one from the box, and so does `box`. -/
theorem run_views_sweep_box :
    Signals.quiet.Undisturbed boxLimits.timeoutMs ∧
    ∃ all : List Chain, all.length = 2 ∧
      chainsWith (boxAnswers.view CursorSite.unknown) boxLimits boxRequest boxArena Signals.quiet
        "" 3 = all ∧
      chainsWith (boxAnswers.view CursorSite.unknown) boxLimits boxRequest boxArena Signals.quiet
        "b" 1 = (all.filter (selects (foldName "b"))).take 1 ∧
      chainsWith (boxAnswers.view CursorSite.unknown) boxLimits boxRequest boxArena
        ⟨fun _ => 0, some 2⟩ "b" 1 <+: (all.filter (selects (foldName "b"))).take 1 ∧
      (chainsWith (boxAnswers.view CursorSite.unknown) boxLimits boxRequest boxArena Signals.quiet
        "box" 3).Sublist
        (chainsWith (boxAnswers.view CursorSite.unknown) boxLimits boxRequest boxArena
          Signals.quiet "b" 3) := by
  have undisturbed : Signals.quiet.Undisturbed boxLimits.timeoutMs :=
    ⟨rfl, fun _ => show 0 < 1 by decide⟩
  obtain ⟨all, unlimited, limited, interrupted, longer⟩ :=
    run_views_sweep (boxAnswers.view CursorSite.unknown) boxLimits boxRequest boxArena
  have two : all.length = 2 := by
    have first := congrArg List.length (limited Signals.quiet "" 20 undisturbed)
    have whole : all.filter (selects (foldName "")) = all :=
      List.filter_eq_self.2 fun chain _ => selects_nil chain
    rw [whole, List.length_take,
      show (chainsWith (boxAnswers.view CursorSite.unknown) boxLimits boxRequest boxArena
        Signals.quiet "" 20).length = 2 by decide] at first
    omega
  exact ⟨undisturbed, all, two, unlimited _ 3 undisturbed (by omega),
    limited _ "b" 1 undisturbed, interrupted ⟨fun _ => 0, some 2⟩ "b" 1,
    longer _ _ "b" "box" 3 3 undisturbed undisturbed (by decide) (by omega) (by omega)⟩

end ChainCompletion.Search
