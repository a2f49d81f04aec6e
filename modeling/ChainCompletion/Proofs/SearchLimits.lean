/-
# Proofs.SearchLimits -- how a search ends

A search ends for one of three reasons: it has recorded as many chains as it may, it was
interrupted before it looked at another node, or no node was left.  Until then it has room
for another chain (`HasRoom`); how it ends is `Ends`.  Every step leaves room or such an end
(`LeavesRoom`), and so the whole search has one (`run_ends`).
-/
import ChainCompletion.Proofs.SearchSteps

namespace ChainCompletion.Search

set_option autoImplicit false

variable {σ : Type}

/-- The most chains that a search records; it always has room for one. -/
def Limits.mostChains (limits : Limits) : Nat := max 1 limits.maxResults

section Ending

variable (signals : Signals) (limits : Limits)

/-- Whether another chain may be recorded. -/
def HasRoom (progress : Progress σ) : Prop :=
  progress.chains.size < limits.mostChains

/-- Whether a search that looked at so many nodes and recorded so many chains may end for
this reason. -/
inductive Ends (expanded chains : Nat) : StopReason → Prop
  | enough (full : chains = limits.mostChains) : Ends expanded chains .resultLimit
  | interrupted {reason : StopReason} (room : chains < limits.mostChains)
      (stops : signals.interruption? limits expanded = some reason) : Ends expanded chains reason
  | exhausted (room : chains < limits.mostChains)
      (goes : signals.interruption? limits expanded = none) : Ends expanded chains .exhausted

variable {signals limits}

theorem Ends.length_le {expanded chains : Nat} {reason : StopReason}
    (ends : Ends signals limits expanded chains reason) : chains ≤ limits.mostChains := by
  cases ends with
  | enough full => omega
  | interrupted room stops => omega
  | exhausted room goes => omega

/-- Without an interruption a search ends with enough chains or by itself. -/
theorem Ends.of_uninterrupted {expanded chains : Nat} {reason : StopReason}
    (ends : Ends signals limits expanded chains reason)
    (goes : signals.interruption? limits expanded = none) :
    reason = .resultLimit ∨ reason = .exhausted := by
  cases ends with
  | enough full => exact Or.inl rfl
  | interrupted room stops => simp [goes] at stops
  | exhausted room goes => exact Or.inr rfl

end Ending

section Steps

variable {view : ProgramView σ} (signals : Signals) (limits : Limits) (request : Request)

/-- Whether there is room after a step, or an end that a search may have. -/
structure LeavesRoom (result : Progress σ × Option StopReason) : Prop where
  room : result.2 = none → HasRoom limits result.1
  ends : ∀ reason, result.2 = some reason →
    Ends signals limits result.1.expanded result.1.chains.size reason

variable {signals limits request}

theorem LeavesRoom.goOn {progress : Progress σ} (room : HasRoom limits progress) :
    LeavesRoom signals limits (progress, none) where
  room _ := room
  ends := by simp

theorem LeavesRoom.stop {progress : Progress σ} {reason : StopReason}
    (ends : Ends signals limits progress.expanded progress.chains.size reason) :
    LeavesRoom signals limits (progress, some reason) where
  room := by simp
  ends := by
    rintro _ ⟨⟩
    exact ends

theorem workOff_leavesRoom {α : Type} {work : Progress σ → α → Progress σ × Option StopReason}
    (step : ∀ item progress, HasRoom limits progress →
      LeavesRoom signals limits (work progress item))
    (items : List α) {progress : Progress σ} (room : HasRoom limits progress) :
    LeavesRoom signals limits (workOff work progress items) := by
  obtain ⟨goes, ends⟩ := @workOff_outcome _ _ _ (HasRoom limits)
    (fun after reason => Ends signals limits after.expanded after.chains.size reason) work items
    (fun item _ between roomLeft => ⟨(step item between roomLeft).room, (step item between roomLeft).ends⟩)
    progress room
  exact ⟨goes, ends⟩

/-- A candidate leaves room, or its chain is the last that there was room for. -/
theorem MemberStep.chains_size {target : TypeId} {typed : List Char} {node : Node}
    {member : Member} {progress : Progress σ} {result : Progress σ × Option StopReason}
    (step : MemberStep view limits target typed node progress member result)
    (room : HasRoom limits progress) :
    (result.2 = none ∧ HasRoom limits result.1) ∨
      (result.2 = some .resultLimit ∧ result.1.chains.size = limits.mostChains) := by
  cases step with
  | recorded asked selected =>
      rw [HasRoom, Limits.mostChains] at room
      simp only [HasRoom, Array.size_push, Limits.mostChains]
      by_cases last : limits.maxResults ≤ progress.chains.size + 1
      · exact Or.inr ⟨if_pos last, by omega⟩
      · exact Or.inl ⟨if_neg last, by omega⟩
  | _ => exact Or.inl ⟨rfl, room⟩

theorem visitMember_leavesRoom {target : TypeId} {typed : List Char} {node : Node}
    (member : Member) (progress : Progress σ) (room : HasRoom limits progress) :
    LeavesRoom signals limits (visitMember view limits target typed node progress member) := by
  have step := visitMember_step view limits target typed node progress member
  rcases step.chains_size room with ⟨goes, left⟩ | ⟨stops, full⟩
  · exact ⟨fun _ => left, by simp [goes]⟩
  · refine ⟨by simp [stops], ?_⟩
    rw [stops]
    rintro _ ⟨⟩
    exact .enough full

/-- A node leaves room, or the search ends with it. -/
theorem visitNode_leavesRoom (node : Node) (progress : Progress σ)
    (room : HasRoom limits progress) :
    LeavesRoom signals limits (visitNode view signals limits request progress node) := by
  have step := visitNode_step view signals limits request progress node
  generalize visitNode view signals limits request progress node = result at step ⊢
  cases step with
  | interrupted stops => exact LeavesRoom.stop (.interrupted room stops)
  | unanswered goes asked => exact LeavesRoom.goOn room
  | @expanded members state goes asked =>
      have taken : HasRoom limits (progress.takeUp (node.stateAfter view state)) := room
      exact workOff_leavesRoom visitMember_leavesRoom _ taken

/-- Rounds end in one of the ways of a search. -/
theorem runRounds_ends (rounds : Nat) (progress : Progress σ) (nodes : List Node)
    (room : HasRoom limits progress) :
    Ends signals limits (runRounds view signals limits request rounds progress nodes).1.expanded
      (runRounds view signals limits request rounds progress nodes).1.chains.size
      (runRounds view signals limits request rounds progress nodes).2 := by
  have halts : ∀ progress : Progress σ, HasRoom limits progress →
      Ends signals limits progress.expanded progress.chains.size
        ((signals.interruption? limits progress.expanded).getD .exhausted) := by
    intro progress room
    cases asked : signals.interruption? limits progress.expanded with
    | none => exact .exhausted room asked
    | some reason => exact .interrupted room asked
  induction rounds generalizing progress nodes with
  | zero => exact halts progress room
  | succ rounds ih =>
      cases nodes with
      | nil => exact halts progress room
      | cons node nodes =>
          rw [runRounds]
          · have start : HasRoom limits { progress with next := #[] } := room
            have leaves := @workOff_leavesRoom _ signals limits _ _
              (@visitNode_leavesRoom _ view signals limits request) (node :: nodes) _ start
            split
            · next stopped =>
                rw [stopped] at leaves
                exact leaves.ends _ rfl
            · next going =>
                rw [going] at leaves
                exact ih _ _ (leaves.room rfl)
          · simp

/-- **Every search ends** with as many chains as it may record, or with fewer because it was
interrupted, or with fewer because no node was left. -/
theorem run_ends (state : σ) :
    Ends signals limits (run view signals limits request state).1.expanded
      (run view signals limits request state).1.chains.length
      (run view signals limits request state).1.reason := by
  have start : HasRoom limits (Progress.mk state #[] #[] (request.firstNodes limits).length 0 0 0) :=
    Nat.lt_of_lt_of_le Nat.one_pos (Nat.le_max_left _ _)
  have ends := @runRounds_ends _ view signals limits request limits.rounds _
    (request.firstNodes limits) start
  simpa [run] using ends

end Steps

end ChainCompletion.Search
