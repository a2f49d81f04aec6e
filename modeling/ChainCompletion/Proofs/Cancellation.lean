/-
# Proofs.Cancellation -- what a cancelled request shows

A search asks whether its request was cancelled before it looks at a node, and nowhere else.
So once cancelled it looks at no further node (`Heeds`), and ends as cancelled unless it has
recorded its last chain at the very node at which it was cancelled (`run_cancelled`).  In that
one case the search counts as full, and its chains are shown although the request was
cancelled (`complete_cancelled_iff`).
-/
import ChainCompletion.Proofs.CompletionReach

namespace ChainCompletion

open Search

set_option autoImplicit false

variable {σ : Type}

namespace Search

section Steps

variable {view : ProgramView σ} {signals : Signals} {limits : Limits} {request : Request}
  {count : Nat}

theorem Signals.interruption?_of_cancelled (cancelled : signals.cancelledAfter = some count)
    {expanded : Nat} (late : count ≤ expanded) :
    signals.interruption? limits expanded = some .cancelled := by
  simp [Signals.interruption?, Signals.isCancelled, cancelled, late]

/-- A search stays where it is or has looked at one node more. -/
theorem visitNode_expanded (node : Node) (progress : Progress σ) :
    (visitNode view signals limits request progress node).1 = progress ∨
      (signals.interruption? limits progress.expanded = none ∧
        (visitNode view signals limits request progress node).1.expanded =
          progress.expanded + 1) := by
  have step := visitNode_step view signals limits request progress node
  generalize visitNode view signals limits request progress node = result at step ⊢
  cases goes : signals.interruption? limits progress.expanded with
  | none => exact Or.inr ⟨rfl, step.expanded_eq goes⟩
  | some reason =>
      cases step with
      | interrupted stops => exact Or.inl rfl
      | unanswered goes' asked => simp [goes] at goes'
      | expanded goes' asked => simp [goes] at goes'

/-- Whether a search that is cancelled after so many nodes can have come so far: it has looked
at no more of them, and recorded nothing before the first. -/
structure Heeds (count : Nat) (progress : Progress σ) : Prop where
  expanded_le : progress.expanded ≤ count
  unstarted : progress.expanded = 0 → progress.chains.toList = []

theorem visitNode_heeds (cancelled : signals.cancelledAfter = some count) (node : Node)
    (progress : Progress σ) (heeds : Heeds count progress) :
    Heeds count (visitNode view signals limits request progress node).1 := by
  rcases @visitNode_expanded _ view signals limits request node progress with same | ⟨goes, counted⟩
  · rw [same]
    exact heeds
  · have early : progress.expanded < count := by
      by_contra late
      rw [Signals.interruption?_of_cancelled cancelled (Nat.le_of_not_lt late)] at goes
      simp at goes
    exact ⟨by omega, fun none => by omega⟩

theorem run_heeds (cancelled : signals.cancelledAfter = some count) (state : σ) :
    (run view signals limits request state).1.expanded ≤ count ∧
      ((run view signals limits request state).1.expanded = 0 →
        (run view signals limits request state).1.chains = []) := by
  have start : Heeds count (Progress.mk state #[] #[] (request.firstNodes limits).length 0 0 0) :=
    ⟨Nat.zero_le _, fun _ => rfl⟩
  have heeds := runRounds_invariant (@visitNode_heeds _ view signals limits request _ cancelled)
    (fun _ heeds => ⟨heeds.expanded_le, heeds.unstarted⟩) limits.rounds (request.firstNodes limits)
    start
  exact ⟨heeds.expanded_le, heeds.unstarted⟩

/-- A search that was cancelled in time ends as cancelled, unless it became full at the node at
which that happened. -/
theorem run_cancelled (cancelled : signals.cancelledAfter = some count) {state : σ}
    (during : count ≤ (run view signals limits request state).1.expanded) :
    (run view signals limits request state).1.reason = .cancelled ∨
      ((run view signals limits request state).1.reason = .resultLimit ∧
        (run view signals limits request state).1.expanded = count ∧ 0 < count) := by
  have ends := @run_ends _ view signals limits request state
  obtain ⟨notMore, unstarted⟩ := @run_heeds _ view signals limits request count cancelled state
  have stops := @Signals.interruption?_of_cancelled signals limits count cancelled _ during
  generalize (run view signals limits request state).1 = outcome
    at ends notMore unstarted during stops ⊢
  obtain ⟨chains, reason, pruned, expanded, refused⟩ := outcome
  simp only at during notMore unstarted stops ⊢
  cases ends with
  | enough full =>
      have started : expanded ≠ 0 := by
        intro none
        simp only [unstarted none, List.length_nil, Limits.mostChains] at full
        omega
      exact Or.inr ⟨rfl, by omega, by omega⟩
  | interrupted room stops' => exact Or.inl (Option.some.inj (stops'.symm.trans stops))
  | exhausted room goes => simp [stops] at goes

/-- A search that became full has found something. -/
theorem run_resultLimit {state : σ}
    (full : (run view signals limits request state).1.reason = .resultLimit) :
    (run view signals limits request state).1.chains ≠ [] := by
  have ends := @run_ends _ view signals limits request state
  rw [full] at ends
  intro nothing
  cases ends with
  | enough full =>
      simp only [nothing, List.length_nil, Limits.mostChains] at full
      omega
  | interrupted room stops => rcases signals.interruption?_reason stops with ends | ends <;> cases ends

end Steps

end Search

/-! ## Proposals -/

/-- As long as no more chains were found than may be shown, something is shown if something was
found. -/
theorem Settings.propose_ne_nil {settings : Settings} {arena : TypeArena} {scope : ImportScope}
    {chains : List Chain} (room : chains.length ≤ settings.maxResults) (found : chains ≠ []) :
    settings.propose arena scope chains ≠ [] := by
  obtain ⟨chain, isThere⟩ := List.exists_mem_of_ne_nil chains found
  obtain ⟨twin, isShown, -⟩ := @exists_shown settings arena scope chains room chain isThere
  intro nothing
  rw [Settings.propose_eq] at nothing
  have texts := congrArg (List.map Proposal.texts) nothing
  rw [Settings.proposalsFor_texts, List.map_nil, List.map_eq_nil_iff] at texts
  rw [texts] at isShown
  simp at isShown

section Completion

variable {view : ProgramView σ} {settings : Settings} {signals : Signals}
  {request : CompletionRequest} {state : σ}

/-- A search that ends as cancelled shows nothing. -/
theorem complete_of_cancelled (enabled : settings.enabled = true)
    (valid : settings.fault? = none) {set : Origins} {started : σ}
    (collected : Origins.collect view settings state request.cursor request.typed =
      (some set, started))
    (ends : (run view signals settings.limits (request.goal view started set) started).1.reason =
      .cancelled) :
    (complete view settings signals request state).1 = [] := by
  rw [complete_of_collected enabled valid collected, completeFrom]
  simp only
  split
  · rfl
  · next goes => exact absurd ends goes

/-- What a search that became full has found is shown, whatever happened meanwhile. -/
theorem complete_of_resultLimit (enabled : settings.enabled = true)
    (valid : settings.fault? = none) {set : Origins} {started : σ}
    (collected : Origins.collect view settings state request.cursor request.typed =
      (some set, started))
    (full : (run view signals settings.limits (request.goal view started set) started).1.reason =
      .resultLimit) :
    (complete view settings signals request state).1 ≠ [] := by
  have few := @length_chains_le _ view settings signals valid (request.goal view started set) started
  have shown : (complete view settings signals request state).1 =
      settings.propose
        (view.arena (run view signals settings.limits (request.goal view started set) started).2)
        request.scope
        (run view signals settings.limits (request.goal view started set) started).1.chains := by
    rw [complete_of_collected enabled valid collected, completeFrom]
    simp only
    split
    · next cancelled => cases full.symm.trans cancelled
    · rfl
  rw [shown]
  exact Settings.propose_ne_nil few (run_resultLimit full)

/-- **A cancelled request shows nothing, but for one case.**  Let a request be cancelled before
it starts or while its search looks at a node, which counts as the `count`th.  Then something
is proposed exactly if the settings allow it and the search became full at that very node. -/
theorem complete_cancelled_iff {count : Nat} (cancelled : signals.cancelledAfter = some count)
    (during : ∀ set started,
      Origins.collect view settings state request.cursor request.typed = (some set, started) →
      count ≤ (run view signals settings.limits (request.goal view started set)
        started).1.expanded) :
    (complete view settings signals request state).1 ≠ [] ↔
      settings.enabled = true ∧ settings.fault? = none ∧ ∃ set started,
        Origins.collect view settings state request.cursor request.typed = (some set, started) ∧
        (run view signals settings.limits (request.goal view started set) started).1.reason =
          .resultLimit ∧
        (run view signals settings.limits (request.goal view started set) started).1.expanded =
          count ∧
        0 < count := by
  constructor
  · intro shown
    by_cases on : settings.enabled = true ∧ settings.fault? = none
    · obtain ⟨enabled, valid⟩ := on
      refine ⟨enabled, valid, ?_⟩
      cases asked : Origins.collect view settings state request.cursor request.typed with
      | mk origins started =>
          cases origins with
          | none => exact absurd (complete_of_not_collected (by rw [asked])) shown
          | some set =>
              refine ⟨set, started, rfl, ?_⟩
              rcases run_cancelled cancelled (during set started asked) with ends | full
              · exact absurd (complete_of_cancelled enabled valid asked ends) shown
              · exact full
    · exact absurd (complete_of_no_limits view signals request state on) shown
  · rintro ⟨enabled, valid, set, started, collected, full, -, -⟩
    exact complete_of_resultLimit enabled valid collected full

end Completion

/-- A place where a goal is expected, with a part in reach. -/
def partSite : CursorSite :=
  { boxSite with bindings := [⟨"part", ⟨1⟩, .localVariable, false⟩] }

/-- The request is cancelled while the first node is looked at. -/
def cancelledAtFirst : Signals := ⟨fun _ => 0, some 1⟩

def partOrigins : Origins := ⟨⟨3⟩, partSite.bindings, []⟩

theorem collect_part :
    Origins.collect (boxAnswers.view partSite) oneResult boxArena boxCompletion.cursor
      boxCompletion.typed = (some partOrigins, boxArena) := by
  decide

/-- With room for one proposal, `part.goal()` is found at the first node and shown. -/
theorem complete_cancelled_iff_part :
    cancelledAtFirst.cancelledAfter = some 1 ∧
    (complete (boxAnswers.view partSite) oneResult cancelledAtFirst boxCompletion boxArena).1 ≠
      [] := by
  refine ⟨rfl, (complete_cancelled_iff rfl ?_).2 ⟨rfl, rfl, partOrigins, boxArena, collect_part,
    by decide, by decide, by decide⟩⟩
  intro set started collected
  rw [collect_part] at collected
  cases collected
  decide

/-- A request that is cancelled while its search looks at a node may show a chain. -/
theorem cancelled_complete_shows_part :
    cancelledAtFirst.cancelledAfter = some 1 ∧
    (run (boxAnswers.view partSite) cancelledAtFirst oneResult.limits
      (boxCompletion.goal (boxAnswers.view partSite) boxArena partOrigins) boxArena).1.expanded = 1 ∧
    (complete (boxAnswers.view partSite) oneResult cancelledAtFirst boxCompletion boxArena).1 ≠ [] :=
  ⟨rfl, by decide, complete_of_resultLimit rfl rfl collect_part (by decide)⟩

end ChainCompletion
