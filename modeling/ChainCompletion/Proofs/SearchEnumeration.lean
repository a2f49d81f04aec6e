/-
# Proofs.SearchEnumeration -- a search lists what its rules allow

A search works off one level after the other, and each level in order.  So what it
records can be read off the list of all chains (`Request.listing`), each place looked at
where the tour comes to it: as long as no member is turned away, a search is on the tour, and
it records the start of the list, and all of it if it ends by itself.

Each part of a search advances by a part of that list (`Advance`): it records a start
of the chains found there, and passes on the places that follow.  Advances one after the
other make an advance of the whole (`workOff_advance`), candidates make up nodes
(`visitNode_advance`), nodes levels (`round_advance`) and levels the search
(`runRounds_lists`).

* `run_lists`: a search that turns no member away records the start of the list;
* `run_exhausted_enumerates`: if besides it ends by itself it records the list as it stands,
  each trail that the rules allow once, and leaves the view as the tour does.
-/
import ChainCompletion.Proofs.SearchTour

namespace ChainCompletion.Search

set_option autoImplicit false

variable {σ : Type}

/-- Whether a search went on by recording chains from the start of `finds`, all unless it
stopped, and, if it neither stopped nor turned a member away, passing on the places
`leads`. -/
structure Advance (before after : Progress σ) (stop : Option StopReason)
    (finds : List (Trail × Chain)) (leads : List Spot) : Prop where
  found : ∃ found, found <+: finds ∧
    after.chains.toList = before.chains.toList ++ found.map Prod.snd ∧
    (stop = none → found = finds)
  led : stop = none → after.refused = before.refused →
    after.next.toList = before.next.toList ++ leads.map Spot.node
  refused_le : before.refused ≤ after.refused
  unfinished : stop ≠ some .exhausted

namespace Advance

variable {before between after : Progress σ} {stop : Option StopReason} {reason : StopReason}
  {finds finds' : List (Trail × Chain)} {leads leads' : List Spot}

/-- A search that stops where it is. -/
theorem halt (unfinished : reason ≠ .exhausted) :
    Advance before before (some reason) finds leads where
  found := ⟨[], List.nil_prefix, by simp, by simp⟩
  led := nofun
  refused_le := Nat.le_refl _
  unfinished := by simpa using unfinished

/-- A search that has nothing to record or pass on. -/
theorem pass (sameChains : after.chains = before.chains) (sameNext : after.next = before.next)
    (sameRefused : after.refused = before.refused) : Advance before after none [] [] where
  found := ⟨[], List.nil_prefix, by simp [sameChains], by simp⟩
  led _ _ := by simp [sameNext]
  refused_le := Nat.le_of_eq sameRefused.symm
  unfinished := by simp

/-- A stop comes before all that would have followed. -/
theorem append (stopped : Advance before after (some reason) finds leads)
    (finds' : List (Trail × Chain)) (leads' : List Spot) :
    Advance before after (some reason) (finds ++ finds') (leads ++ leads') := by
  obtain ⟨found, isStart, chains, -⟩ := stopped.found
  exact ⟨⟨found, isStart.trans (List.prefix_append _ _), chains, nofun⟩, nofun,
    stopped.refused_le, stopped.unfinished⟩

/-- An advance goes on where the one before it left off. -/
theorem trans (early : Advance before between none finds leads)
    (late : Advance between after stop finds' leads') :
    Advance before after stop (finds ++ finds') (leads ++ leads') := by
  obtain ⟨found, -, chains, all⟩ := early.found
  obtain ⟨found', isStart, chains', all'⟩ := late.found
  have earlyRefused := early.refused_le
  have lateRefused := late.refused_le
  refine ⟨⟨found ++ found', ?_, ?_, ?_⟩, ?_, Nat.le_trans earlyRefused lateRefused,
    late.unfinished⟩
  · rw [all rfl]
    exact (List.prefix_append_right_inj _).2 isStart
  · simp [chains, chains']
  · intro going
    rw [all rfl, all' going]
  · intro going unrefused
    rw [late.led going (by omega), early.led rfl (by omega), List.map_append, List.append_assoc]

end Advance

/-- Work advances by what its pieces advance by. -/
theorem workOff_advance {α β : Type} {work : Progress σ → β → Progress σ × Option StopReason}
    {item : α → β} {finds : α → List (Trail × Chain)} {leads : α → List Spot} {items : List α}
    (each : ∀ one ∈ items, ∀ progress, Advance progress (work progress (item one)).1
      (work progress (item one)).2 (finds one) (leads one))
    (progress : Progress σ) :
    Advance progress (workOff work progress (items.map item)).1
      (workOff work progress (items.map item)).2 (items.flatMap finds) (items.flatMap leads) := by
  induction items generalizing progress with
  | nil => exact Advance.pass rfl rfl rfl
  | cons one items ih =>
      have advance := each one (by simp) progress
      rw [List.map_cons, workOff, List.flatMap_cons, List.flatMap_cons]
      split
      · next stopped =>
          rw [stopped] at advance
          exact advance.append _ _
      · next going =>
          rw [going] at advance
          exact advance.trans (ih (fun other isThere => each other (by simp [isThere])) _)

/-! ## Candidates and nodes -/

section Steps

variable {view : ProgramView σ} {answers : Answers} (signals : Signals) (limits : Limits)
  (request : Request)

/-- Dealing with a candidate advances by what the rules say of it. -/
theorem visitMember_advance (functional : view.Functional answers) (spot : Spot)
    (choice : Member × Nat) (progress : Progress σ) :
    Advance progress
      (visitMember view limits request.target (foldName request.typed) spot.node progress
        choice.1).1
      (visitMember view limits request.target (foldName request.typed) spot.node progress
        choice.1).2
      ((request.rules answers).found spot choice).toList
      ((request.rules answers).led spot choice).toList := by
  have step := visitMember_step view limits request.target (foldName request.typed) spot.node
    progress choice.1
  have answered := functional.assignable_eq progress.state choice.1.result request.target
  generalize visitMember view limits request.target (foldName request.typed) spot.node
    progress choice.1 = result at step ⊢
  -- what the rules say follows from the answer about the candidate
  simp only [Rules.found, Rules.led, Rules.completes, Rules.follows, Request.rules, ← answered]
  cases step with
  | unanswered asked =>
      simp only [asked, Bool.false_eq_true, reduceIte, Option.toList_none]
      exact Advance.pass rfl rfl rfl
  | recorded asked selected =>
      simp only [asked, selected]
      refine ⟨⟨_, List.prefix_refl _, by simp, fun _ => rfl⟩, fun _ _ => by simp,
        Nat.le_refl _, ?_⟩
      split <;> simp
  | unselected asked other =>
      simp only [asked, other, Bool.false_eq_true, reduceIte, Option.toList_none]
      exact Advance.pass rfl rfl rfl
  | waits asked grows room =>
      simp only [asked, grows]
      exact ⟨⟨[], List.nil_prefix, by simp, fun _ => rfl⟩, fun _ _ => by simp,
        Nat.le_refl _, by simp⟩
  | refused asked grows full =>
      simp only [asked, grows]
      exact ⟨⟨[], List.nil_prefix, by simp, fun _ => rfl⟩, fun _ same => by simp at same,
        by simp, by simp⟩
  | ended asked ends =>
      simp only [asked, ends, Bool.false_eq_true, reduceIte, Option.toList_none]
      exact Advance.pass rfl rfl rfl

/-- Dealing with candidates advances by what the rules say of each. -/
theorem visitMembers_advance (functional : view.Functional answers) (spot : Spot)
    (members : List Member) (progress : Progress σ) :
    Advance progress
      (workOff (visitMember view limits request.target (foldName request.typed) spot.node) progress
        members).1
      (workOff (visitMember view limits request.target (foldName request.typed) spot.node) progress
        members).2
      (members.zipIdx.filterMap ((request.rules answers).found spot))
      (members.zipIdx.filterMap ((request.rules answers).led spot)) := by
  rw [List.filterMap_eq_flatMap_toList, List.filterMap_eq_flatMap_toList]
  have advance := workOff_advance
    (fun choice (_ : choice ∈ members.zipIdx) between =>
      visitMember_advance limits request functional spot choice between) progress
  rwa [List.zipIdx_map_fst] at advance

/-- Dealing with a node advances by what the rules say of it, in the arena right after its
members have been asked for. -/
theorem visitNode_advance (functional : view.Functional answers) (spot : Spot)
    (progress : Progress σ) :
    Advance progress (visitNode view signals limits request progress spot.node).1
      (visitNode view signals limits request progress spot.node).2
      ((request.rules answers).finds (request.look view progress.state spot.node) spot)
      ((request.rules answers).leads (request.look view progress.state spot.node) spot) := by
  have step := visitNode_step view signals limits request progress spot.node
  have answered := functional.members_eq progress.state spot.node.type request.callSite
  generalize visitNode view signals limits request progress spot.node = result at step ⊢
  cases step with
  | interrupted stops =>
      refine Advance.halt ?_
      rcases signals.interruption?_reason stops with rfl | rfl <;> simp
  | unanswered goes asked =>
      have none : ∀ arena, (request.rules answers).choices arena spot.node = [] := by
        intro arena
        simp [Rules.choices, Request.rules, ← answered, asked]
      simp only [Rules.finds, Rules.leads, none, List.zipIdx_nil, List.filterMap_nil]
      exact Advance.pass rfl rfl rfl
  | @expanded members state goes asked =>
      rw [asked] at answered
      have look : request.look view progress.state spot.node = view.arena state := by
        rw [Request.look, asked]
      have offers : (request.rules answers).choices (view.arena state) spot.node =
          spot.node.choices (view.arena state) members := by
        simp [Rules.choices, Request.rules, ← answered]
      have taken : Advance progress (progress.takeUp (spot.node.stateAfter view state)) none
          [] [] :=
        Advance.pass rfl rfl rfl
      simp only [look, Rules.finds, Rules.leads, offers]
      exact taken.trans (visitMembers_advance limits request functional spot _ _)

/-- A round advances by what the rules say of its nodes, each looked at where the tour comes
to it. -/
theorem round_advance (functional : view.Functional answers) (spots : List Spot)
    (unique : (spots.map Spot.trail).Nodup) (progress : Progress σ) :
    Advance progress
      (workOff (visitNode view signals limits request) progress (spots.map Spot.node)).1
      (workOff (visitNode view signals limits request) progress (spots.map Spot.node)).2
      (spots.flatMap fun spot => (request.rules answers).finds
        (request.levelLooks view progress.state spots spot.trail) spot)
      (spots.flatMap fun spot => (request.rules answers).leads
        (request.levelLooks view progress.state spots spot.trail) spot) := by
  induction spots generalizing progress with
  | nil => exact Advance.pass rfl rfl rfl
  | cons spot spots ih =>
      obtain ⟨isNew, uniqueRest⟩ := List.nodup_cons.1 unique
      have advance := visitNode_advance signals limits request functional spot progress
      rw [Request.flatMap_levelLooks_cons (request.rules answers).finds isNew,
        Request.flatMap_levelLooks_cons (request.rules answers).leads isNew, List.map_cons, workOff]
      split
      · next stopped =>
          rw [stopped] at advance
          exact advance.append _ _
      · next between going =>
          rw [going] at advance
          rw [← visitNode_leaves going]
          exact advance.trans (ih uniqueRest between)

/-! ## Levels and the search -/

/-- Whether a search that turned no member away recorded a start of `all`, and, if besides it
ended by itself, the whole of it, and left the view in the state `last`. -/
structure Lists (before after : Progress σ) (reason : StopReason) (all : List (Trail × Chain))
    (last : σ) : Prop where
  refused_le : before.refused ≤ after.refused
  entries : after.refused = before.refused → ∃ entries,
    after.chains.toList = before.chains.toList ++ entries.map Prod.snd ∧
    entries <+: all ∧
    (reason = .exhausted → entries = all ∧ after.state = last)

theorem Lists.nothing (progress : Progress σ) (reason : StopReason) :
    Lists progress progress reason [] progress.state where
  refused_le := Nat.le_refl _
  entries _ := ⟨[], by simp, List.prefix_refl _, fun _ => ⟨rfl, rfl⟩⟩

/-- The nodes that wait at first do not matter. -/
theorem Lists.ofNext {before after : Progress σ} {next : Array Node} {reason : StopReason}
    {all : List (Trail × Chain)} {last : σ}
    (lists : Lists { before with next := next } after reason all last) :
    Lists before after reason all last :=
  ⟨lists.refused_le, lists.entries⟩

/-- An advance that ended in a stop. -/
theorem Advance.lists {before after : Progress σ} {reason : StopReason}
    {finds : List (Trail × Chain)} {leads : List Spot}
    (advance : Advance before after (some reason) finds leads) (later : List (Trail × Chain))
    (last : σ) : Lists before after reason (finds ++ later) last := by
  obtain ⟨found, isStart, chains, -⟩ := advance.found
  refine ⟨advance.refused_le, fun _ => ⟨found, chains,
    isStart.trans (List.prefix_append finds later), ?_⟩⟩
  intro exhausted
  exact absurd (congrArg some exhausted) advance.unfinished

/-- An advance after which the search listed what follows, if it turned no member away. -/
theorem Advance.thenLists {before between after : Progress σ} {reason : StopReason}
    {finds later : List (Trail × Chain)} {leads : List Spot} {last : σ}
    (advance : Advance before between none finds leads)
    (fewer : between.refused ≤ after.refused)
    (rest : between.refused = before.refused → Lists between after reason later last) :
    Lists before after reason (finds ++ later) last := by
  obtain ⟨found, -, chains, isAll⟩ := advance.found
  have early := advance.refused_le
  refine ⟨Nat.le_trans early fewer, fun unrefused => ?_⟩
  obtain ⟨entries, chains', isStart, isWhole⟩ := (rest (by omega)).entries (by omega)
  rw [isAll rfl] at chains
  refine ⟨finds ++ entries, by simp [chains, chains'], (List.prefix_append_right_inj _).2 isStart,
    ?_⟩
  intro exhausted
  obtain ⟨whole, left⟩ := isWhole exhausted
  exact ⟨by rw [whole], left⟩

/-- Refusals are never taken back. -/
theorem runRounds_refused_le (functional : view.Functional answers) (rounds : Nat)
    (progress : Progress σ) (nodes : List Node) :
    progress.refused ≤
      (runRounds view signals limits request rounds progress nodes).1.refused := by
  refine @runRounds_invariant _ view signals limits request
    (fun now : Progress σ => progress.refused ≤ now.refused) ?_ (fun _ kept => kept) rounds nodes
    progress (Nat.le_refl _)
  intro node before kept
  have advance := visitNode_advance signals limits request functional ⟨[], node⟩ before
  exact kept.trans advance.refused_le

/-- Rounds list what the rules allow from their level on, each place looked at where the tour
comes to it. -/
theorem runRounds_lists (functional : view.Functional answers) (rounds length : Nat)
    (progress : Progress σ) (spots : List Spot) (unique : (spots.map Spot.trail).Nodup)
    (level : ∀ spot ∈ spots, spot.trail.length = length) :
    Lists progress
      (runRounds view signals limits request rounds progress (spots.map Spot.node)).1
      (runRounds view signals limits request rounds progress (spots.map Spot.node)).2
      ((request.rules answers).enumerate
        (request.tour view answers length rounds progress.state spots).1 rounds spots)
      (request.tour view answers length rounds progress.state spots).2 := by
  induction rounds generalizing length progress spots with
  | zero => exact Lists.nothing _ _
  | succ rounds ih =>
      cases spots with
      | nil =>
          rw [Rules.enumerate_nil, Request.tour_nil]
          exact Lists.nothing _ _
      | cons spot spots =>
          have advance := round_advance signals limits request functional
            (spot :: spots) unique { progress with next := #[] }
          rw [Request.tour, Rules.enumerate_joinLooks level]
          rw [List.map_cons] at advance ⊢
          rw [runRounds]
          · split
            · next stopped =>
                rw [stopped] at advance
                exact (advance.lists _ _).ofNext
            · next between going =>
                rw [going] at advance
                refine (advance.thenLists
                  (runRounds_refused_le signals limits request functional rounds between _)
                  fun unrefused => ?_).ofNext
                have nodes := advance.led rfl unrefused
                simp only [List.nil_append] at nodes
                have left : between.state =
                    request.leaveLevel view progress.state (spot :: spots) :=
                  @round_leaves _ view signals limits request (spot :: spots)
                    { progress with next := #[] } between going
                rw [nodes, ← left]
                refine ih (length + 1) between _ (Rules.nodup_leads unique) ?_
                intro after isLed
                obtain ⟨before, isHere, isNext⟩ := List.mem_flatMap.1 isLed
                obtain ⟨place, member, -, -, rfl⟩ := Rules.mem_leads.1 isNext
                simp [level before isHere]
          · simp

/-- **A search that turns no member away records the start of the list of all chains**, and the
whole of it if it ends by itself; then it leaves the view as the tour does. -/
theorem run_lists (functional : view.Functional answers) (state : σ)
    (unrefused : (run view signals limits request state).1.refused = 0) :
    ∃ entries : List (Trail × Chain),
      (run view signals limits request state).1.chains = entries.map Prod.snd ∧
      entries <+: request.listing view answers limits state ∧
      ((run view signals limits request state).1.reason = .exhausted →
        entries = request.listing view answers limits state ∧
          (run view signals limits request state).2 =
            request.lastState view answers limits state) := by
  have level : ∀ spot ∈ firstSpots (request.firstNodes limits), spot.trail.length = 1 := by
    intro spot isFirst
    obtain ⟨entry, -, rfl⟩ := List.mem_map.1 isFirst
    rfl
  have nodes : (firstSpots (request.firstNodes limits)).map Spot.node =
      request.firstNodes limits := by
    simp [firstSpots, Function.comp_def]
  have lists := runRounds_lists signals limits request functional limits.rounds 1
    ⟨state, #[], #[], (request.firstNodes limits).length, 0, 0, 0⟩
    (firstSpots (request.firstNodes limits)) (Rules.nodup_firstSpots _) level
  rw [nodes] at lists
  simpa [run, Request.listing, Request.looks, Request.lastState] using lists.entries unrefused

/-- **A search that ends by itself and turned no member away records exactly what its rules
allow**, level by level, each trail once, with each place looked at where the tour comes to it,
and leaves the view as the tour does. -/
theorem run_exhausted_enumerates (functional : view.Functional answers) (state : σ)
    (exhausted : (run view signals limits request state).1.reason = .exhausted)
    (unrefused : (run view signals limits request state).1.refused = 0) :
    (run view signals limits request state).1.chains =
      (request.listing view answers limits state).map Prod.snd ∧
    (run view signals limits request state).2 = request.lastState view answers limits state ∧
    ((request.listing view answers limits state).map Prod.fst).Nodup ∧
    ∀ trail chain, (trail, chain) ∈ request.listing view answers limits state ↔
      request.Allows view answers limits state trail chain := by
  obtain ⟨entries, chains, -, isWhole⟩ :=
    run_lists signals limits request functional state unrefused
  obtain ⟨rfl, left⟩ := isWhole exhausted
  exact ⟨chains, left, Request.nodup_listing state, fun trail chain => Request.mem_listing_iff⟩

/-- From a board the search ends by itself, with the one chain that the rules allow; the rows
that it leads through are stored on the way. -/
theorem run_exhausted_enumerates_board :
    (run (boardView CursorSite.unknown) Signals.quiet boxLimits boardRequest
      boardArena).1.reason = .exhausted ∧
    (run (boardView CursorSite.unknown) Signals.quiet boxLimits boardRequest
      boardArena).1.refused = 0 ∧
    (run (boardView CursorSite.unknown) Signals.quiet boxLimits boardRequest
      boardArena).1.chains.map Chain.length = [3] ∧
    (run (boardView CursorSite.unknown) Signals.quiet boxLimits boardRequest
      boardArena).1.chains =
      (boardRequest.listing (boardView CursorSite.unknown) boardAnswers boxLimits boardArena).map
        Prod.snd := by
  have exhausted : (run (boardView CursorSite.unknown) Signals.quiet boxLimits boardRequest
      boardArena).1.reason = .exhausted := by decide
  have unrefused : (run (boardView CursorSite.unknown) Signals.quiet boxLimits boardRequest
      boardArena).1.refused = 0 := by decide
  exact ⟨exhausted, unrefused, by decide,
    (run_exhausted_enumerates Signals.quiet boxLimits boardRequest
      (boardView_functional CursorSite.unknown) boardArena exhausted unrefused).1⟩

end Steps

end ChainCompletion.Search
