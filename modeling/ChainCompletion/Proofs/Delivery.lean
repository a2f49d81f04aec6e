/-
# Proofs.Delivery -- how many proposals there are

A search ends when it has recorded as many chains as proposals are asked for, and only then are
chains with one text put together.  So there is one proposal for each text among the first
chains, and fewer than asked for if some of these share a text, even though chains with other
texts would have come later.

The chains that count are those of a search without a limit on results (`all` below).  Nor does
the limit on waiting nodes matter as long as it turns no member away: a wider frontier then
changes nothing (`Search.run_wider`).

* `card_take_eq_min_iff`: the first elements of a list have as many values as they can
  exactly if none is repeated among them or none is missing from them;
* `Settings.length_propose`: there is one proposal for each text;
* `complete_delivers`: what this makes of a request.
-/
import Mathlib.Data.Finset.Card
import ChainCompletion.Proofs.BestChains
import ChainCompletion.Proofs.SearchSweep

namespace ChainCompletion

open Search

set_option autoImplicit false

variable {σ : Type}

/-! ## A wider frontier -/

/-- Work that agrees with other work wherever something holds afterwards, agrees with it on a
list, if that holds in the end and nothing brings it back. -/
theorem workOff_eq_of {α ρ : Type} {holds : σ → Prop} {work work' : σ → α → σ × Option ρ}
    (step : ∀ state item, holds (work state item).1 →
      holds state ∧ work' state item = work state item)
    {state : σ} {items : List α} (after : holds (workOff work state items).1) :
    holds state ∧ workOff work' state items = workOff work state items := by
  induction items generalizing state with
  | nil => exact ⟨after, rfl⟩
  | cons item items ih =>
      have first := step state item
      rw [workOff] at after ⊢
      rw [workOff]
      generalize work state item = result at first after ⊢
      obtain ⟨next, stop⟩ := result
      cases stop with
      | some reason =>
          obtain ⟨before, same⟩ := first after
          exact ⟨before, by rw [same]⟩
      | none =>
          obtain ⟨between, rest⟩ := ih after
          obtain ⟨before, same⟩ := first between
          exact ⟨before, by rw [same]; exact rest⟩

namespace Search

variable {view : ProgramView σ} {signals : Signals} {limits : Limits} {request : Request}
  {frontier : Nat}

/-- A candidate that is not turned away is dealt with in the same way if more nodes may wait. -/
theorem visitMember_wider (wider : limits.maxFrontier ≤ frontier) {target : TypeId}
    {typed : List Char} (node : Node) (progress : Progress σ) (member : Member)
    (unrefused : (visitMember view limits target typed node progress member).1.refused = 0) :
    progress.refused = 0 ∧
      visitMember view { limits with maxFrontier := frontier } target typed node progress member =
        visitMember view limits target typed node progress member := by
  have step := visitMember_step view limits target typed node progress member
  generalize visitMember view limits target typed node progress member = result at step unrefused ⊢
  cases step with
  | unanswered asked => exact ⟨unrefused, by rw [visitMember, asked]⟩
  | recorded asked selected =>
      exact ⟨unrefused, by simp [visitMember, asked, selected]⟩
  | unselected asked other => exact ⟨unrefused, by simp [visitMember, asked, other]⟩
  | waits asked grows room =>
      have room' : progress.waiting < frontier := by omega
      exact ⟨unrefused, by simp [visitMember, asked, grows, room']⟩
  | refused asked grows full => cases unrefused
  | ended asked ends => exact ⟨unrefused, by simp [visitMember, asked, ends]⟩

theorem visitNode_wider (wider : limits.maxFrontier ≤ frontier) (progress : Progress σ)
    (node : Node)
    (unrefused : (visitNode view signals limits request progress node).1.refused = 0) :
    progress.refused = 0 ∧
      visitNode view signals { limits with maxFrontier := frontier } request progress node =
        visitNode view signals limits request progress node := by
  have step := visitNode_step view signals limits request progress node
  have clock : signals.interruption? { limits with maxFrontier := frontier } =
      signals.interruption? limits := rfl
  generalize visitNode view signals limits request progress node = result at step unrefused ⊢
  cases step with
  | interrupted stops => exact ⟨unrefused, by rw [visitNode, clock, stops]⟩
  | unanswered goes asked =>
      exact ⟨unrefused, by simp only [visitNode, clock, goes, candidates_eq, asked]; rfl⟩
  | expanded goes asked =>
      obtain ⟨before, same⟩ :=
        @workOff_eq_of _ _ _ (fun progress : Progress σ => progress.refused = 0) _ _
          (visitMember_wider wider node) _ _ unrefused
      exact ⟨before, by simp only [visitNode, clock, goes, candidates_eq, asked]; exact same⟩

theorem runRounds_wider (wider : limits.maxFrontier ≤ frontier) (rounds : Nat)
    (progress : Progress σ) (nodes : List Node)
    (unrefused : (runRounds view signals limits request rounds progress nodes).1.refused = 0) :
    progress.refused = 0 ∧
      runRounds view signals { limits with maxFrontier := frontier } request rounds progress nodes =
        runRounds view signals limits request rounds progress nodes := by
  induction rounds generalizing progress nodes with
  | zero => exact ⟨unrefused, rfl⟩
  | succ rounds ih =>
      cases nodes with
      | nil => exact ⟨unrefused, rfl⟩
      | cons node nodes =>
          have round := @workOff_eq_of _ _ _ (fun progress : Progress σ => progress.refused = 0) _ _
            (@visitNode_wider _ view signals limits request frontier wider)
            { progress with next := #[] } (node :: nodes)
          rw [runRounds] at unrefused ⊢
          · rw [runRounds]
            · generalize workOff (visitNode view signals limits request)
                { progress with next := #[] } (node :: nodes) = result at round unrefused ⊢
              obtain ⟨after, stop⟩ := result
              cases stop with
              | some reason =>
                  obtain ⟨before, same⟩ := round unrefused
                  exact ⟨before, by rw [same]⟩
              | none =>
                  obtain ⟨between, rest⟩ := ih after after.next.toList unrefused
                  obtain ⟨before, same⟩ := round between
                  exact ⟨before, by rw [same]; exact rest⟩
            · simp
          · simp
          · simp

/-- A search that turns no member away is the same if more nodes may wait. -/
theorem run_wider (wider : limits.maxFrontier ≤ frontier) (state : σ)
    (unrefused : (run view signals limits request state).1.refused = 0) :
    run view signals { limits with maxFrontier := frontier } request state =
      run view signals limits request state := by
  have same := (runRounds_wider wider limits.rounds _ _ unrefused).2
  simp only [run, Limits.rounds, Request.firstNodes] at same ⊢
  rw [same]

end Search

/-! ## Counting texts -/

/-- The first elements of a list have as many values as they can, given their number and the
values of the whole list, exactly if they have all these values or none of them repeats one. -/
theorem card_take_eq_min_iff {α : Type} [DecidableEq α] (count : Nat) (items : List α) :
    (items.take count).toFinset.card = min count items.toFinset.card ↔
      (∀ item ∈ items, item ∈ items.take count) ∨ (items.take count).Nodup := by
  have part : (items.take count).toFinset ⊆ items.toFinset := by
    intro item
    rw [List.mem_toFinset, List.mem_toFinset]
    exact List.mem_of_mem_take
  have fewer := Finset.card_le_card part
  have short := List.toFinset_card_le (items.take count)
  have taken : (items.take count).length = min count items.length := List.length_take
  constructor
  · intro most
    rcases Nat.le_total count items.toFinset.card with enough | few
    · have full : (items.take count).toFinset.card = (items.take count).length := by omega
      exact Or.inr (Multiset.toFinset_card_eq_card_iff_nodup.1 full)
    · refine Or.inl fun item isThere => ?_
      have whole := Finset.eq_of_subset_of_card_le part (by omega)
      rwa [← List.mem_toFinset, whole, List.mem_toFinset]
  · rintro (whole | unique)
    · have same : (items.take count).toFinset = items.toFinset := by
        refine Finset.Subset.antisymm part ?_
        intro item isThere
        exact List.mem_toFinset.2 (whole item (List.mem_toFinset.1 isThere))
      rw [same] at short ⊢
      omega
    · rw [List.toFinset_card_of_nodup unique] at fewer ⊢
      have most := items.toFinset_card_le
      omega

namespace Settings

open RankedChain Renderer

variable (settings : Settings) (arena : TypeArena) (scope : ImportScope)

/-- With room for all chains there is one proposal for each text. -/
theorem length_propose {chains : List Chain} (room : chains.length ≤ settings.maxResults) :
    (settings.propose arena scope chains).length =
      (chains.map (chainText arena scope settings.snippets)).toFinset.card := by
  have texts : (rankedTexts (chainText arena scope settings.snippets) chains).toFinset =
      (chains.map (chainText arena scope settings.snippets)).toFinset := by
    ext text
    rw [List.mem_toFinset, List.mem_toFinset, mem_rankedTexts, List.mem_map]
  have shown : (settings.shown arena scope chains).length =
      (rankedTexts (chainText arena scope settings.snippets) chains).length := by
    have few := (length_rankedTexts_le (chainText arena scope settings.snippets) chains).trans room
    rw [rankedTexts, List.length_map] at few ⊢
    rw [Settings.shown, List.length_map]
    exact congrArg List.length (List.take_of_length_le few)
  rw [propose_eq, proposalsFor, List.length_map, List.length_zipIdx, List.length_map, shown,
    ← texts, List.toFinset_card_of_nodup (nodup_rankedTexts _ _)]

end Settings

/-! ## Requests -/

/-- **There is a proposal for each text among the first chains.**  Take settings that are on and
not at fault and a request that nothing from outside disturbs.  Without origins nothing is
proposed.  With origins, if the search turns no member away, let `all` be what it records
without a limit on results, with this frontier or a wider one.  There are as many proposals as
texts among the first `maxResults` of these chains; and these are as many as there can be,
given `maxResults` and the number of texts in all, exactly if they are all the texts or the
first chains have different ones.  The texts are those that are inserted; for chains that are
not reached they may be any. -/
theorem complete_delivers (view : ProgramView σ) (settings : Settings) (signals : Signals)
    (request : CompletionRequest) (state : σ)
    (enabled : settings.enabled = true) (valid : settings.fault? = none)
    (undisturbed : signals.Undisturbed settings.timeoutMs) :
    ((Origins.collect view settings state request.cursor request.typed).1 = none →
      (complete view settings signals request state).1 = []) ∧
    ∀ set started,
      Origins.collect view settings state request.cursor request.typed = (some set, started) →
      (run view signals settings.limits (request.goal view started set) started).1.refused = 0 →
      ∀ frontier, standardFrontier ≤ frontier →
      ∃ all : List Chain,
        (∀ signals' results, signals'.Undisturbed settings.timeoutMs → all.length < results →
          chainsWith view { settings.limits with maxFrontier := frontier }
            (request.goal view started set) started signals' request.typed results = all) ∧
        ∀ text : Chain → String,
          (∀ chain ∈ all.take settings.maxResults,
            text chain = Renderer.chainText
              (view.arena (complete view settings signals request state).2) request.scope
              settings.snippets chain) →
          (complete view settings signals request state).1.length =
            ((all.take settings.maxResults).map text).toFinset.card ∧
          ((complete view settings signals request state).1.length =
              min settings.maxResults (all.map text).toFinset.card ↔
            (∀ chain ∈ all, text chain ∈ (all.take settings.maxResults).map text) ∨
              ((all.take settings.maxResults).map text).Nodup) := by
  refine ⟨complete_of_not_collected, ?_⟩
  intro set started collected unrefused frontier wider
  let limits : Limits := { settings.limits with maxFrontier := frontier }
  let goal := request.goal view started set
  let all := (sweep view limits goal started).chains.toList.filter (selects (foldName goal.typed))
  -- the search is the one with the wider frontier, and that one is a start of the unlimited one
  have recorded : (run view signals settings.limits goal started).1.chains =
      all.take settings.maxResults := by
    have first := chainsWith_eq_take view limits goal started undisturbed goal.typed
      settings.maxResults
    have positive := Settings.maxResults_ne_zero valid
    rw [← run_wider wider started unrefused, ← show max 1 settings.maxResults =
      settings.maxResults by omega]
    exact first
  have answered := complete_eq_propose enabled valid undisturbed collected
  refine ⟨all, ?_, ?_⟩
  · intro signals' results undisturbed' room
    have first := chainsWith_eq_take view limits goal started undisturbed' goal.typed results
    rwa [List.take_of_length_le (show all.length ≤ max 1 results by omega)] at first
  · intro text agrees
    have count : (complete view settings signals request state).1.length =
        ((all.take settings.maxResults).map text).toFinset.card := by
      rw [List.map_congr_left agrees, answered, recorded]
      refine Settings.length_propose settings _ _ ?_
      rw [List.length_take]
      omega
    refine ⟨count, ?_⟩
    have most := card_take_eq_min_iff settings.maxResults (all.map text)
    rw [← List.map_take, List.forall_mem_map] at most
    rw [count]
    exact most

/-- A box with two overloads of `goal`, which take an argument of the same name, and a field. -/
def overloadAnswers : Answers where
  members type _ :=
    match type.index with
    | 0 => .ok [Member.ofMethod ⟨0⟩ "goal" [⟨some "n", ⟨4⟩⟩] ⟨3⟩,
        Member.ofMethod ⟨0⟩ "goal" [⟨some "n", ⟨5⟩⟩] ⟨3⟩, Member.ofField ⟨0⟩ "spare" ⟨3⟩]
    | _ => .error (.unresolvedType type.text)
  assignable source target := .ok (source = target)

/-- A place where a goal is expected, with a box in reach. -/
def overloadView : ProgramView TypeArena :=
  overloadAnswers.view
    { CursorSite.unknown with expected := some ⟨3⟩, bindings := [Renderer.boxValue] }

def overloadOrigins : Origins := ⟨⟨3⟩, [Renderer.boxValue], []⟩

/-- Settings that ask for two proposals. -/
def twoResults : Settings := { Settings.standard with maxResults := 2 }

/-- The first two chains share their text, so there is one proposal. -/
theorem complete_delivers_overloads :
    Signals.quiet.Undisturbed twoResults.timeoutMs ∧
    Origins.collect overloadView twoResults boxArena boxCompletion.cursor boxCompletion.typed =
      (some overloadOrigins, boxArena) ∧
    (run overloadView Signals.quiet twoResults.limits
      (boxCompletion.goal overloadView boxArena overloadOrigins) boxArena).1.refused = 0 ∧
    ∃ all : List Chain,
      chainsWith overloadView { twoResults.limits with maxFrontier := 60000 }
        (boxCompletion.goal overloadView boxArena overloadOrigins) boxArena Signals.quiet ""
        (all.length + 1) = all ∧
      (complete overloadView twoResults Signals.quiet boxCompletion boxArena).1.length =
        ((all.take 2).map (Renderer.chainText boxArena ImportScope.empty true)).toFinset.card := by
  have undisturbed : Signals.quiet.Undisturbed twoResults.timeoutMs :=
    ⟨rfl, fun _ => show 0 < 3000 by decide⟩
  have collected : Origins.collect overloadView twoResults boxArena boxCompletion.cursor
      boxCompletion.typed = (some overloadOrigins, boxArena) := by decide
  have unrefused : (run overloadView Signals.quiet twoResults.limits
      (boxCompletion.goal overloadView boxArena overloadOrigins) boxArena).1.refused = 0 := by
    decide
  obtain ⟨all, unlimited, delivered⟩ :=
    (complete_delivers overloadView twoResults Signals.quiet boxCompletion boxArena rfl rfl
      undisturbed).2 overloadOrigins boxArena collected unrefused 60000 (by decide)
  refine ⟨undisturbed, collected, unrefused, all, ?_, ?_⟩
  · exact unlimited Signals.quiet (all.length + 1) undisturbed (Nat.lt_succ_self _)
  · have same : (complete overloadView twoResults Signals.quiet boxCompletion boxArena).2 =
        boxArena := by decide
    have agrees := delivered (Renderer.chainText boxArena ImportScope.empty true)
    rw [same] at agrees
    exact (agrees fun _ _ => rfl).1

/-- Without a limit on results the search ends by itself with three chains, which have two
texts.  With room for two proposals there is only one: the search ends with the two overloads,
which share their text, and never comes to the field. -/
theorem complete_delivers_fewer :
    overloadView.Functional overloadAnswers ∧
    twoResults.enabled = true ∧ twoResults.fault? = none ∧
    Signals.quiet.Undisturbed twoResults.timeoutMs ∧
    Origins.collect overloadView twoResults boxArena boxCompletion.cursor boxCompletion.typed =
      (some overloadOrigins, boxArena) ∧
    (run overloadView Signals.quiet twoResults.limits
      (boxCompletion.goal overloadView boxArena overloadOrigins) boxArena).1.refused = 0 ∧
    (run overloadView Signals.quiet { twoResults.limits with maxResults := 20 }
      (boxCompletion.goal overloadView boxArena overloadOrigins) boxArena).1 =
        ⟨Renderer.overloads, .exhausted, 0, 1, 0⟩ ∧
    (Renderer.overloads.map
      (Renderer.chainText boxArena ImportScope.empty true)).toFinset.card = 2 ∧
    (complete overloadView twoResults Signals.quiet boxCompletion boxArena).1.length = 1 ∧
    (complete overloadView twoResults Signals.quiet boxCompletion boxArena).1.length ≠
      min twoResults.maxResults (Renderer.overloads.map
        (Renderer.chainText boxArena ImportScope.empty true)).toFinset.card :=
  ⟨overloadAnswers.view_functional _, rfl, rfl, ⟨rfl, fun _ => show 0 < 3000 by decide⟩,
    by decide, by decide, by decide, by decide, by decide, by decide⟩

end ChainCompletion
