/-
# Proofs.CompletionReach -- no shorter chain is missed

Proposals come out of four stages: roots are collected, chains searched for, the best of
them chosen and written.  A search that turns no member away records the start of the list
of all chains (`run_lists`), and that list goes by length
(`Search.Request.length_le_of_not_mem`); what it records fits on the list of proposals, so
choosing loses no text.  Hence a chain whose text is not proposed comes later in the list than
all that are, and is no shorter (`complete_reaches`).
-/
import ChainCompletion.Proofs.Proposals
import ChainCompletion.Proofs.SearchEnumeration
import ChainCompletion.Proofs.SearchLimits

namespace ChainCompletion

open Search

set_option autoImplicit false

variable {σ : Type}

/-- The limits of a search under settings that are not at fault. -/
def Settings.limits (settings : Settings) : Limits :=
  ⟨settings.maxDepth, settings.maxResults, standardFrontier, settings.timeoutMs⟩

/-- What is searched for on behalf of a request, from these origins. -/
def CompletionRequest.goal (request : CompletionRequest) (view : ProgramView σ) (state : σ)
    (set : Origins) : Search.Request where
  target := set.target
  roots := set.roots
  companions := set.companions
  callSite := view.callSite state request.cursor
  typed := request.typed

/-- Whether nothing from outside ever ends a search under these limits. -/
structure Search.Signals.Undisturbed (signals : Signals) (timeoutMs : Nat) : Prop where
  uncancelled : signals.cancelledAfter = none
  inTime : ∀ expanded, signals.elapsedMs expanded < timeoutMs

theorem Search.Signals.Undisturbed.interruption? {signals : Signals} {limits : Limits}
    (undisturbed : signals.Undisturbed limits.timeoutMs) (expanded : Nat) :
    signals.interruption? limits expanded = none := by
  have early := undisturbed.inTime expanded
  simp [Signals.interruption?, Signals.isCancelled, undisturbed.uncancelled, early]

/-! ## The stages -/

/-- Settings that are off or at fault propose nothing. -/
theorem complete_of_no_limits (view : ProgramView σ) {settings : Settings} (signals : Signals)
    (request : CompletionRequest) (state : σ)
    (off : ¬ (settings.enabled = true ∧ settings.fault? = none)) :
    (complete view settings signals request state).1 = [] := by
  rw [complete]
  split
  · next enabled =>
      cases fault : settings.fault? with
      | none => exact absurd ⟨enabled, fault⟩ off
      | some fault' => simp [Limits.ofSettings, fault]
  · rfl

section Stages

variable {view : ProgramView σ} {settings : Settings} {signals : Signals}
  {request : CompletionRequest} {state : σ}

theorem complete_of_not_collected (nothing :
      (Origins.collect view settings state request.cursor request.typed).1 = none) :
    (complete view settings signals request state).1 = [] := by
  generalize asked : Origins.collect view settings state request.cursor request.typed = origins
    at nothing
  obtain ⟨set, started⟩ := origins
  subst nothing
  rw [complete]
  split
  · split
    · rfl
    · simp only [asked]
  · rfl

/-- A request with origins is answered by a search from them. -/
theorem complete_of_collected (enabled : settings.enabled = true) (valid : settings.fault? = none)
    {set : Origins} {started : σ}
    (collected : Origins.collect view settings state request.cursor request.typed =
      (some set, started)) :
    complete view settings signals request state =
      completeFrom view settings signals settings.limits request set started := by
  have limits : Limits.ofSettings settings = .ok settings.limits := by
    simp [Limits.ofSettings, valid, Settings.limits]
  simp only [complete, enabled, if_true, limits, collected]

/-- Undisturbed, a request with origins is answered with proposals for the chains that the
search finds. -/
theorem complete_eq_propose (enabled : settings.enabled = true) (valid : settings.fault? = none)
    (undisturbed : signals.Undisturbed settings.timeoutMs) {set : Origins} {started : σ}
    (collected : Origins.collect view settings state request.cursor request.typed =
      (some set, started)) :
    complete view settings signals request state =
      (settings.propose
        (view.arena (run view signals settings.limits (request.goal view started set) started).2)
        request.scope
        (run view signals settings.limits (request.goal view started set) started).1.chains,
      (run view signals settings.limits (request.goal view started set) started).2) := by
  have uncancelled :
      (run view signals settings.limits (request.goal view started set) started).1.reason ≠
        .cancelled := by
    have ends := (run_ends started).of_uninterrupted
      (@Signals.Undisturbed.interruption? signals settings.limits undisturbed
        (run view signals settings.limits (request.goal view started set) started).1.expanded)
    rcases ends with enough | exhausted
    · simp [enough]
    · simp [exhausted]
  rw [complete_of_collected enabled valid collected, completeFrom]
  simp only
  split
  · next cancelled => exact absurd cancelled uncancelled
  · rfl

/-- Settings that are not at fault ask for proposals. -/
theorem Settings.maxResults_ne_zero (valid : settings.fault? = none) : settings.maxResults ≠ 0 := by
  intro zero
  simp only [Settings.fault?, zero, if_true] at valid
  split at valid <;> simp at valid

/-- A search under such settings finds no more chains than are shown. -/
theorem length_chains_le (valid : settings.fault? = none) (goal : Search.Request) (state : σ) :
    (run view signals settings.limits goal state).1.chains.length ≤ settings.maxResults := by
  have most := (@run_ends _ view signals settings.limits goal state).length_le
  have positive := Settings.maxResults_ne_zero valid
  simp only [Limits.mostChains, Settings.limits] at most ⊢
  omega

end Stages

/-! ## All of it -/

/-- In the list of all chains, whatever comes after a start of it is at least as long as
all that is in that start. -/
theorem Search.Request.length_le_of_not_mem {goal : Search.Request} {view : ProgramView σ}
    {answers : Answers} {limits : Limits} {state : σ} {entries : List (Trail × Chain)}
    (isStart : entries <+: goal.listing view answers limits state)
    {trail : Trail} {chain : Chain} (allowed : goal.Allows view answers limits state trail chain)
    (absent : (trail, chain) ∉ entries) {entry : Trail × Chain} (isThere : entry ∈ entries) :
    entry.2.length ≤ chain.length := by
  obtain ⟨rest, whole⟩ := isStart
  have roots : ∀ root ∈ goal.firstNodes limits, root.path = [] :=
    fun root isFirst => Rules.path_of_mem_firstNodes isFirst
  have isLater : (trail, chain) ∈ rest := by
    have listed := Request.mem_listing_iff.2 allowed
    rw [← whole, List.mem_append] at listed
    exact listed.resolve_left absent
  have sorted : (goal.listing view answers limits state).Pairwise fun one other =>
      one.1.length ≤ other.1.length :=
    Rules.enumerate_by_length Rules.isLevel_firstSpots
  rw [← whole, List.pairwise_append] at sorted
  have shorter : entry.1.length ≤ trail.length := sorted.2.2 entry isThere _ isLater
  have listed : entry ∈ goal.listing view answers limits state := by
    rw [← whole]
    exact List.mem_append_left _ isThere
  have entryLength := (Request.mem_listing_iff.1 listed).length_eq roots
  have chainLength := allowed.length_eq roots
  omega

/-- **No shorter chain is missed.**  Take a view whose answers depend on the question alone,
settings that are on and not at fault, and a request that nothing from outside disturbs.
Without origins nothing is proposed.  With origins, if the search turns no member away, the
proposals are the texts of chains that its rules allow; a chain that they allow has its text
proposed or is at least as long as all that are shown; and if the search ended by itself,
every chain that they allow has its text proposed.  What is allowed is settled by the view,
the request and the state the search starts in: each place is looked at where the tour comes
to it. -/
theorem complete_reaches {view : ProgramView σ} {answers : Answers}
    (functional : view.Functional answers) (settings : Settings) (signals : Signals)
    (request : CompletionRequest) (state : σ)
    (enabled : settings.enabled = true) (valid : settings.fault? = none)
    (undisturbed : signals.Undisturbed settings.timeoutMs) :
    ((Origins.collect view settings state request.cursor request.typed).1 = none →
      (complete view settings signals request state).1 = []) ∧
    ∀ set started,
      Origins.collect view settings state request.cursor request.typed = (some set, started) →
      (run view signals settings.limits (request.goal view started set) started).1.refused = 0 →
      ∃ shown : List Chain,
        (complete view settings signals request state).1.map Proposal.texts =
          shown.map (settings.textsOf
            (view.arena (complete view settings signals request state).2) request.scope) ∧
        (∀ chain ∈ shown, ∃ trail,
          (request.goal view started set).Allows view answers settings.limits started trail
            chain) ∧
        ∀ trail chain,
          (request.goal view started set).Allows view answers settings.limits started trail
            chain →
          ((∃ proposal ∈ (complete view settings signals request state).1,
              proposal.texts.insertText = (settings.textsOf
                (view.arena (complete view settings signals request state).2) request.scope
                chain).insertText) ∨
            ((run view signals settings.limits (request.goal view started set)
                started).1.reason ≠ .exhausted ∧
              ∀ other ∈ shown, other.length ≤ chain.length)) := by
  refine ⟨complete_of_not_collected, ?_⟩
  intro set started collected unrefused
  obtain ⟨entries, chains, isStart, isWhole⟩ :=
    run_lists signals settings.limits (request.goal view started set) functional started unrefused
  have answered := complete_eq_propose enabled valid undisturbed collected
  have few := @length_chains_le _ view settings signals valid (request.goal view started set)
    started
  generalize complete view settings signals request state = result at answered ⊢
  subst answered
  generalize run view signals settings.limits (request.goal view started set) started = found
    at chains isWhole unrefused few ⊢
  have proposed : (settings.propose (view.arena found.2) request.scope found.1.chains).map
      Proposal.texts = (settings.shown (view.arena found.2) request.scope found.1.chains).map
        (settings.textsOf (view.arena found.2) request.scope) := by
    rw [Settings.propose_eq, Settings.proposalsFor_texts]
  -- what is shown was recorded, and what was recorded is listed
  have entryOf : ∀ chain ∈ settings.shown (view.arena found.2) request.scope found.1.chains,
      ∃ entry ∈ entries, entry.2 = chain := by
    intro chain isShown
    have isFound := Settings.mem_of_mem_shown isShown
    rwa [chains, List.mem_map] at isFound
  refine ⟨settings.shown (view.arena found.2) request.scope found.1.chains, proposed, ?_, ?_⟩
  · intro chain isShown
    obtain ⟨⟨trail, chain⟩, isEntry, rfl⟩ := entryOf chain isShown
    exact ⟨trail, Request.mem_listing_iff.1 (isStart.subset isEntry)⟩
  · intro trail chain allowed
    by_cases recorded : (trail, chain) ∈ entries
    · refine Or.inl ?_
      have isFound : chain ∈ found.1.chains := by
        rw [chains]
        exact List.mem_map.2 ⟨_, recorded, rfl⟩
      obtain ⟨twin, isShown, same⟩ :=
        @Settings.exists_shown settings (view.arena found.2) request.scope _ few _ isFound
      have isText : settings.textsOf (view.arena found.2) request.scope twin ∈
          (settings.propose (view.arena found.2) request.scope found.1.chains).map
            Proposal.texts := by
        rw [proposed]
        exact List.mem_map.2 ⟨twin, isShown, rfl⟩
      obtain ⟨proposal, isProposed, texts⟩ := List.mem_map.1 isText
      exact ⟨proposal, isProposed, by rw [texts, same]⟩
    · refine Or.inr ⟨?_, ?_⟩
      · intro exhausted
        rw [(isWhole exhausted).1] at recorded
        exact recorded (Request.mem_listing_iff.2 allowed)
      · intro other isShown
        obtain ⟨entry, isEntry, rfl⟩ := entryOf other isShown
        exact Request.length_le_of_not_mem isStart allowed recorded isEntry

/-! ## Two cursors -/

/-- A place where a goal is expected, with a box and its maker in reach. -/
def boxSite : CursorSite :=
  { CursorSite.unknown with
    expected := some ⟨3⟩
    bindings := [⟨"box", ⟨0⟩, .localVariable, false⟩, Binding.ofStaticType "Maker" ⟨5⟩] }

def boxCompletion : CompletionRequest := ⟨⟨⟨0⟩, 0⟩, "", ImportScope.empty⟩

/-- Settings that ask for one proposal. -/
def oneResult : Settings := { Settings.standard with maxResults := 1 }

/-- A place where a cell is expected, with a board in reach. -/
def boardSite : CursorSite :=
  { CursorSite.unknown with
    expected := some ⟨0⟩
    bindings := [⟨"board", ⟨1⟩, .localVariable, false⟩] }

def boardOrigins : Origins := ⟨⟨0⟩, boardSite.bindings, []⟩

/-- On a board the search ends by itself, and the cells are proposed, although the rows that
lead to them are not known when it starts. -/
theorem complete_reaches_board :
    Signals.quiet.Undisturbed Settings.standard.timeoutMs ∧
    Origins.collect (boardView boardSite) Settings.standard boardArena boxCompletion.cursor
      boxCompletion.typed = (some boardOrigins, boardArena) ∧
    (run (boardView boardSite) Signals.quiet Settings.standard.limits
      (boxCompletion.goal (boardView boardSite) boardArena boardOrigins) boardArena).1.refused =
        0 ∧
    (run (boardView boardSite) Signals.quiet Settings.standard.limits
      (boxCompletion.goal (boardView boardSite) boardArena boardOrigins) boardArena).1.reason =
        .exhausted ∧
    (complete (boardView boardSite) Settings.standard Signals.quiet boxCompletion
      boardArena).1.map (fun proposal => proposal.texts.filterText) = ["board.cells[][]"] ∧
    ∀ trail chain,
      (boxCompletion.goal (boardView boardSite) boardArena boardOrigins).Allows
        (boardView boardSite) boardAnswers Settings.standard.limits boardArena trail chain →
      ∃ proposal ∈ (complete (boardView boardSite) Settings.standard Signals.quiet boxCompletion
          boardArena).1,
        proposal.texts.insertText = (Settings.standard.textsOf
          ((boardView boardSite).arena (complete (boardView boardSite) Settings.standard
            Signals.quiet boxCompletion boardArena).2) boxCompletion.scope chain).insertText := by
  have undisturbed : Signals.quiet.Undisturbed Settings.standard.timeoutMs :=
    ⟨rfl, fun _ => show 0 < 3000 by decide⟩
  have collected : Origins.collect (boardView boardSite) Settings.standard boardArena
      boxCompletion.cursor boxCompletion.typed = (some boardOrigins, boardArena) := by decide
  have unrefused : (run (boardView boardSite) Signals.quiet Settings.standard.limits
      (boxCompletion.goal (boardView boardSite) boardArena boardOrigins) boardArena).1.refused =
        0 := by
    decide
  have exhausted : (run (boardView boardSite) Signals.quiet Settings.standard.limits
      (boxCompletion.goal (boardView boardSite) boardArena boardOrigins) boardArena).1.reason =
        .exhausted := by
    decide
  obtain ⟨shown, -, -, reached⟩ :=
    (complete_reaches (boardView_functional boardSite) Settings.standard Signals.quiet
      boxCompletion boardArena rfl rfl undisturbed).2 boardOrigins boardArena collected unrefused
  refine ⟨undisturbed, collected, unrefused, exhausted, by decide, ?_⟩
  intro trail chain allowed
  exact (reached trail chain allowed).resolve_right fun cutOff => cutOff.1 exhausted

end ChainCompletion
