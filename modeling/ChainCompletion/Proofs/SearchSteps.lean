/-
# Proofs.SearchSteps -- what one step of a search can do

A search asks its view two questions, for the members of a type and whether a type
fits the target.  A view may do anything to its state when asked, but it never takes
back a type it has handed out (`ProgramView.KeepsTypes`).  It is functional when
each answer depends on the question alone (`ProgramView.Functional`); `Answers.view`
is such a view.  A property of states that the questions keep (`ProgramView.Keeps`) is
kept by each step of a search.

For each part of the search one lemma says what it can do, and all that is said
about searches later follows from these:

* `candidates_eq`: a node offers the worthy ones of its members and then the entries
  of its type, as the arena stands after the question (`Node.choices`);
* `visitMember_step`: the six ways to deal with a candidate (`MemberStep`);
* `visitNode_step`: the three ways to deal with a node (`NodeStep`);
* `runRounds_invariant`: what dealing with a node keeps, all rounds keep.
-/
import ChainCompletion.Catalog
import ChainCompletion.Proofs.ArenaGrowth
import ChainCompletion.Search.Run

namespace ChainCompletion

set_option autoImplicit false

variable {σ : Type}

/-! ## Views -/

/-- Answers that depend on the question alone. -/
structure Answers where
  members : TypeId → CallSite → Except LookupError (List Member)
  assignable : TypeId → TypeId → Except LookupError Bool

namespace ProgramView

/-- Whether all types stay what they are when the view is asked. -/
structure KeepsTypes (view : ProgramView σ) : Prop where
  members_growsTo : ∀ state type site,
    (view.arena state).GrowsTo (view.arena (view.members state type site).2)
  assignable_growsTo : ∀ state source target,
    (view.arena state).GrowsTo (view.arena (view.assignable state source target).2)

/-- Whether the questions of a search keep a property of the states. -/
structure Keeps (view : ProgramView σ) (keep : σ → Prop) : Prop where
  members : ∀ state type site, keep state → keep (view.members state type site).2
  assignable : ∀ state source target, keep state → keep (view.assignable state source target).2
  component : ∀ state type, keep state →
    keep (view.withArena state ((view.arena state).component? type).2)

theorem KeepsTypes.keeps {view : ProgramView σ} (keepsTypes : view.KeepsTypes)
    (start : TypeArena) : view.Keeps fun state => start.GrowsTo (view.arena state) where
  members state type site grown := grown.trans (keepsTypes.members_growsTo state type site)
  assignable state source target grown :=
    grown.trans (keepsTypes.assignable_growsTo state source target)
  component state type grown := by
    rw [view.arena_withArena]
    exact grown.trans (TypeArena.component?_growsTo _ type)

/-- Whether the view gives these answers, whatever it has been asked before. -/
structure Functional (view : ProgramView σ) (answers : Answers) : Prop
    extends view.KeepsTypes where
  members_eq : ∀ state type site,
    (view.members state type site).1 = answers.members type site
  assignable_eq : ∀ state source target,
    (view.assignable state source target).1 = answers.assignable source target

end ProgramView

/-- The view that gives these answers and knows the same at every cursor; its state
is the arena. -/
def Answers.view (answers : Answers) (site : CursorSite) : ProgramView TypeArena where
  arena := id
  withArena _ arena := arena
  expected _ _ := site.expected
  bindings _ _ := site.bindings
  namesNewType _ _ := site.namesNewType
  callSite _ _ := site.callSite
  members arena type site := (answers.members type site, arena)
  assignable arena source target := (answers.assignable source target, arena)
  lookup arena _ := (none, arena)
  arena_withArena _ _ := rfl

theorem Answers.view_functional (answers : Answers) (site : CursorSite) :
    (answers.view site).Functional answers where
  members_growsTo _ _ _ := TypeArena.GrowsTo.refl _
  assignable_growsTo _ _ _ := TypeArena.GrowsTo.refl _
  members_eq _ _ _ := rfl
  assignable_eq _ _ _ := rfl

namespace Search

/-- What interrupts a search comes from outside. -/
theorem Signals.interruption?_reason (signals : Signals) {limits : Limits} {expanded : Nat}
    {reason : StopReason} (stops : signals.interruption? limits expanded = some reason) :
    reason = .cancelled ∨ reason = .deadline := by
  simp only [Signals.interruption?] at stops
  split at stops
  · exact Or.inl (Option.some.inj stops).symm
  · split at stops
    · exact Or.inr (Option.some.inj stops).symm
    · simp at stops

/-! ## A small program

A box has parts, each of which has a goal; boxes and parts come from a maker. -/

/-- Types: `Box`, `Part`, `Part[]`, `Goal`, `int` and `Maker`. -/
def boxArena : TypeArena :=
  ⟨⟨[⟨.classType, "Box", [], 0⟩, ⟨.classType, "Part", [], 0⟩, ⟨.classType, "Part", [], 1⟩,
    ⟨.classType, "Goal", [], 0⟩, ⟨.primitive, "int", [], 0⟩, ⟨.classType, "Maker", [], 0⟩]⟩⟩

/-- The members of these types; each fits only itself. -/
def boxAnswers : Answers where
  members type _ :=
    match type.index with
    | 0 => .ok [Member.ofField ⟨0⟩ "parts" ⟨2⟩, Member.ofField ⟨0⟩ "count" ⟨4⟩,
        Member.ofMethod ⟨0⟩ "self" [] ⟨0⟩]
    | 1 => .ok [Member.ofMethod ⟨1⟩ "goal" [] ⟨3⟩]
    | 2 => .ok [Member.ofField ⟨2⟩ "length" ⟨4⟩]
    | 5 => .ok [{ Member.ofMethod ⟨5⟩ "box" [] ⟨0⟩ with isStatic := true },
        { Member.ofMethod ⟨5⟩ "part" [] ⟨1⟩ with isStatic := true }]
    | _ => .error (.unresolvedType type.text)
  assignable source target := .ok (source = target)

/-- A search for a goal, from a box and with the maker as companion. -/
def boxRequest : Request where
  target := ⟨3⟩
  roots := [⟨"box", ⟨0⟩, .localVariable, false⟩]
  companions := [Binding.ofStaticType "Maker" ⟨5⟩]
  callSite := CallSite.unknown
  typed := ""

def boxLimits : Limits := ⟨3, 20, 50, 1⟩

/-! ## A program whose types come up late

A board has cells in rows.  Neither `int` nor the rows are known from the start. -/

/-- Types: `Cell`, `Board` and `Cell[][]`. -/
def boardArena : TypeArena :=
  ⟨⟨[⟨.classType, "Cell", [], 0⟩, ⟨.classType, "Board", [], 0⟩, ⟨.classType, "Cell", [], 2⟩]⟩⟩

/-- The members of these types and of rows; each fits only itself. -/
def boardAnswers : Answers where
  members type _ :=
    match type.index with
    | 0 => .ok []
    | 1 => .ok [Member.ofField ⟨1⟩ "count" ⟨3⟩, Member.ofField ⟨1⟩ "cells" ⟨2⟩]
    | _ => .ok [Member.ofField type "length" ⟨3⟩]
  assignable source target := .ok (source = target)

/-- The view with these answers that stores `int` when it is asked for members. -/
def boardView (site : CursorSite) : ProgramView TypeArena :=
  { boardAnswers.view site with
    members := fun arena type site =>
      (boardAnswers.members type site, (arena.store ⟨.primitive, "int", [], 0⟩).2) }

theorem boardView_functional (site : CursorSite) :
    (boardView site).Functional boardAnswers where
  members_growsTo arena _ _ := TypeArena.store_growsTo arena _
  assignable_growsTo _ _ _ := TypeArena.GrowsTo.refl _
  members_eq _ _ _ := rfl
  assignable_eq _ _ _ := rfl

/-- A search for a cell, from a board. -/
def boardRequest : Request where
  target := ⟨0⟩
  roots := [⟨"board", ⟨1⟩, .localVariable, false⟩]
  companions := []
  callSite := CallSite.unknown
  typed := ""

/-! ## Candidates -/

/-- The entries of a node's type, if it is an array and the node a value. -/
def Node.entries (node : Node) (arena : TypeArena) : List Member :=
  if node.isStatic then []
  else (arena.component? node.type).1.toList.map (Member.ofArrayElement node.type)

/-- What a node offers, given the members of its type. -/
def Node.choices (node : Node) (arena : TypeArena) (members : List Member) : List Member :=
  members.filter (node.admits arena) ++ node.entries arena

/-- The arena once the node's entries have been asked for. -/
def Node.arenaAfter (node : Node) (arena : TypeArena) : TypeArena :=
  if node.isStatic then arena else (arena.component? node.type).2

theorem Node.arenaAfter_growsTo (node : Node) (arena : TypeArena) :
    arena.GrowsTo (node.arenaAfter arena) := by
  rw [Node.arenaAfter]
  split
  · exact TypeArena.GrowsTo.refl _
  · exact TypeArena.component?_growsTo _ _

/-- The state once the node's entries have been asked for. -/
def Node.stateAfter (node : Node) (view : ProgramView σ) (state : σ) : σ :=
  if node.isStatic then state
  else view.withArena state ((view.arena state).component? node.type).2

theorem Node.arena_stateAfter (node : Node) (view : ProgramView σ) (state : σ) :
    view.arena (node.stateAfter view state) = node.arenaAfter (view.arena state) := by
  rw [Node.stateAfter, Node.arenaAfter]
  split
  · rfl
  · exact view.arena_withArena _ _

theorem Node.stateAfter_keeps (node : Node) {view : ProgramView σ} {keep : σ → Prop}
    (keeps : view.Keeps keep) {state : σ} (start : keep state) :
    keep (node.stateAfter view state) := by
  rw [Node.stateAfter]
  split
  · exact start
  · exact keeps.component state node.type start

theorem Node.mem_choices {node : Node} {arena : TypeArena} {members : List Member}
    {member : Member} (offered : member ∈ node.choices arena members) :
    (member ∈ members ∧ node.admits arena member = true) ∨
      (node.isStatic = false ∧ ∃ component, (arena.component? node.type).1 = some component ∧
        member = Member.ofArrayElement node.type component) := by
  rw [Node.choices, List.mem_append, List.mem_filter, Node.entries] at offered
  rcases offered with worthy | entry
  · exact Or.inl worthy
  · split at entry
    · simp at entry
    · next value =>
        simp only [List.mem_map, Option.mem_toList] at entry
        obtain ⟨component, found, rfl⟩ := entry
        exact Or.inr ⟨by simpa using value, component, found, rfl⟩

/-- The candidates of a node, by what is answered about the members of its type. -/
theorem candidates_eq (view : ProgramView σ) (site : CallSite) (state : σ) (node : Node) :
    candidates view site state node =
      match view.members state node.type site with
      | (.error error, asked) => (.error error, asked)
      | (.ok members, asked) =>
          (.ok (node.choices (view.arena asked) members), node.stateAfter view asked) := by
  rw [candidates]
  generalize view.members state node.type site = result
  obtain ⟨answer, asked⟩ := result
  cases answer with
  | error error => rfl
  | ok members =>
      simp only [Node.choices, Node.entries, Node.stateAfter]
      split
      · simp
      · rfl

/-! ## One candidate -/

section Member

variable (view : ProgramView σ) (limits : Limits) (target : TypeId) (typed : List Char)
  (node : Node) (progress : Progress σ) (member : Member)

/-- The ways to deal with a candidate of a node. -/
inductive MemberStep : Progress σ × Option StopReason → Prop
  | unanswered {error : LookupError} {state : σ}
      (asked : view.assignable progress.state member.result target = (.error error, state)) :
      MemberStep ({ progress with state := state, pruned := progress.pruned + 1 }, none)
  | recorded {state : σ}
      (asked : view.assignable progress.state member.result target = (.ok true, state))
      (selected : matchesTyped typed node.root member = true) :
      MemberStep ({ progress with
          state := state
          chains := progress.chains.push (node.complete member) },
        if limits.maxResults ≤ progress.chains.size + 1 then some .resultLimit else none)
  | unselected {state : σ}
      (asked : view.assignable progress.state member.result target = (.ok true, state))
      (other : matchesTyped typed node.root member = false) :
      MemberStep ({ progress with state := state }, none)
  | waits {state : σ}
      (asked : view.assignable progress.state member.result target = (.ok false, state))
      (grows : node.mayExtend member = true)
      (room : progress.waiting < limits.maxFrontier) :
      MemberStep ({ progress with
          state := state
          next := progress.next.push (node.extend member)
          waiting := progress.waiting + 1 }, none)
  | refused {state : σ}
      (asked : view.assignable progress.state member.result target = (.ok false, state))
      (grows : node.mayExtend member = true)
      (full : limits.maxFrontier ≤ progress.waiting) :
      MemberStep ({ progress with state := state, refused := progress.refused + 1 }, none)
  | ended {state : σ}
      (asked : view.assignable progress.state member.result target = (.ok false, state))
      (ends : node.mayExtend member = false) :
      MemberStep ({ progress with state := state }, none)

/-- Every candidate is dealt with in one of these ways. -/
theorem visitMember_step :
    MemberStep view limits target typed node progress member
      (visitMember view limits target typed node progress member) := by
  rw [visitMember]
  split
  · next asked => exact .unanswered asked
  · next asked =>
      split
      · next selected => simpa using MemberStep.recorded asked selected
      · next other => exact .unselected asked (by simpa using other)
  · next asked =>
      split
      · next grows =>
          split
          · next room => exact .waits asked grows room
          · next full => exact .refused asked grows (Nat.le_of_not_lt full)
      · next ends => exact .ended asked (by simpa using ends)

variable {view limits target typed node progress member}

/-- However a candidate is dealt with, the view has been asked whether it fits. -/
theorem MemberStep.state_eq {result : Progress σ × Option StopReason}
    (step : MemberStep view limits target typed node progress member result) :
    result.1.state = (view.assignable progress.state member.result target).2 := by
  cases step with
  | _ asked => simp [asked]

/-- What every question keeps, dealing with a candidate keeps. -/
theorem MemberStep.keeps {result : Progress σ × Option StopReason} {keep : σ → Prop}
    (step : MemberStep view limits target typed node progress member result)
    (keeps : view.Keeps keep) (start : keep progress.state) : keep result.1.state := by
  rw [step.state_eq]
  exact keeps.assignable _ _ _ start

theorem MemberStep.growsTo {result : Progress σ × Option StopReason}
    (step : MemberStep view limits target typed node progress member result)
    (keepsTypes : view.KeepsTypes) :
    (view.arena progress.state).GrowsTo (view.arena result.1.state) :=
  step.keeps (keepsTypes.keeps _) (TypeArena.GrowsTo.refl _)

end Member

/-! ## One node -/

section Node

variable (view : ProgramView σ) (signals : Signals) (limits : Limits) (request : Request)
  (progress : Progress σ) (node : Node)

/-- The progress of a search that has taken up another node. -/
def Progress.takeUp (progress : Progress σ) (state : σ) : Progress σ :=
  { progress with
    state := state
    expanded := progress.expanded + 1
    waiting := progress.waiting - 1 }

/-- The ways to deal with a node. -/
inductive NodeStep : Progress σ × Option StopReason → Prop
  | interrupted {reason : StopReason}
      (stops : signals.interruption? limits progress.expanded = some reason) :
      NodeStep (progress, some reason)
  | unanswered {error : LookupError} {state : σ}
      (goes : signals.interruption? limits progress.expanded = none)
      (asked : view.members progress.state node.type request.callSite = (.error error, state)) :
      NodeStep ({ progress.takeUp state with pruned := progress.pruned + 1 }, none)
  | expanded {members : List Member} {state : σ}
      (goes : signals.interruption? limits progress.expanded = none)
      (asked : view.members progress.state node.type request.callSite = (.ok members, state)) :
      NodeStep (workOff (visitMember view limits request.target (foldName request.typed) node)
        (progress.takeUp (node.stateAfter view state)) (node.choices (view.arena state) members))

/-- Every node is dealt with in one of these ways. -/
theorem visitNode_step :
    NodeStep view signals limits request progress node
      (visitNode view signals limits request progress node) := by
  rw [visitNode]
  split
  · next reason stops => exact .interrupted stops
  · next goes =>
      simp only [candidates_eq]
      split
      · next offered =>
          split at offered
          · next asked =>
              cases offered
              exact .unanswered goes asked
          · cases offered
      · next offered =>
          split at offered
          · cases offered
          · next asked =>
              cases offered
              exact .expanded goes asked

variable {view signals limits request progress node}

/-- What every question keeps, dealing with a node keeps. -/
theorem NodeStep.keeps {result : Progress σ × Option StopReason} {keep : σ → Prop}
    (step : NodeStep view signals limits request progress node result) (keeps : view.Keeps keep)
    (start : keep progress.state) : keep result.1.state := by
  have asks := keeps.members progress.state node.type request.callSite start
  cases step with
  | interrupted stops => exact start
  | unanswered goes asked => rwa [asked] at asks
  | @expanded members state goes asked =>
      rw [asked] at asks
      have taken := node.stateAfter_keeps keeps asks
      refine @workOff_keeps _ _ _ (fun progress : Progress σ => keep progress.state) _ _ ?_ _ taken
      intro member _ before kept
      exact (visitMember_step view limits request.target _ node before member).keeps keeps kept

theorem NodeStep.growsTo {result : Progress σ × Option StopReason}
    (step : NodeStep view signals limits request progress node result)
    (keepsTypes : view.KeepsTypes) :
    (view.arena progress.state).GrowsTo (view.arena result.1.state) :=
  step.keeps (keepsTypes.keeps _) (TypeArena.GrowsTo.refl _)

/-- Looking at a node counts once, however many candidates it has. -/
theorem NodeStep.expanded_eq {result : Progress σ × Option StopReason}
    (step : NodeStep view signals limits request progress node result)
    (goes : signals.interruption? limits progress.expanded = none) :
    result.1.expanded = progress.expanded + 1 := by
  cases step with
  | interrupted stops => simp [goes] at stops
  | unanswered goes asked => rfl
  | @expanded members state goes asked =>
      refine @workOff_keeps _ _ _ (fun after : Progress σ => after.expanded = progress.expanded + 1)
        _ _ ?_ _ rfl
      intro member _ before counted
      have step := visitMember_step view limits request.target (foldName request.typed) node before
        member
      generalize visitMember view limits request.target (foldName request.typed) node before
        member = result at step ⊢
      cases step with
      | _ => exact counted

/-- What dealing with a node keeps, rounds keep, unless it is about the nodes that follow. -/
theorem runRounds_invariant {keep : Progress σ → Prop}
    (step : ∀ node progress, keep progress →
      keep (visitNode view signals limits request progress node).1)
    (fresh : ∀ progress, keep progress → keep { progress with next := #[] })
    (rounds : Nat) (nodes : List Node) {progress : Progress σ} (start : keep progress) :
    keep (runRounds view signals limits request rounds progress nodes).1 := by
  induction rounds generalizing progress nodes with
  | zero => exact start
  | succ rounds ih =>
      cases nodes with
      | nil => exact start
      | cons node nodes =>
          have round := @workOff_keeps _ _ _ keep (visitNode view signals limits request)
            (node :: nodes) (fun node _ before kept => step node before kept) _
            (fresh progress start)
          rw [runRounds]
          · split
            · next ended => rwa [ended] at round
            · next going =>
                rw [going] at round
                exact ih _ round
          · simp

end Node

end Search

end ChainCompletion
