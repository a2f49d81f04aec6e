/-
# Proofs.SearchTour -- in which arena a place is looked at

What the rules of a search allow depends on the arena in which each place is looked at, and
the arenas depend on what has been asked before.  A tour settles both: it goes through the
places that the rules allow, level by level and each level in order, and asks at each place
what there is to ask: for its members, for the entries of its type, and of each candidate
whether it fits.  A place is looked at in the arena right after its members have been asked
for (`Request.look`), and the place after it finds the view as this one leaves it
(`Request.leave`).  Nothing ends a tour, and nothing is turned away.

So the arenas of a tour are a function of the view, the request and the first state
(`Request.looks`), and with them the list of all chains (`Request.listing`) and the chains
that are allowed (`Request.Allows`).

A search goes through its places in the same way: as long as it goes on, it leaves each
place (`visitNode_leaves`) and each level (`round_leaves`) as the tour does.
-/
import ChainCompletion.Proofs.SearchRules

namespace ChainCompletion.Search

set_option autoImplicit false

variable {σ : Type}

/-! ## The tour -/

namespace Request

variable (request : Request) (view : ProgramView σ) (answers : Answers)

/-- The arena in which a place is looked at by a view that is in this state: the one right
after its members have been asked for. -/
def look (state : σ) (node : Node) : TypeArena :=
  view.arena (view.members state node.type request.callSite).2

/-- The state in which a place leaves the view: its members have been asked for, the entries
of its type stored, and each candidate has been asked about. -/
def leave (state : σ) (node : Node) : σ :=
  match view.members state node.type request.callSite with
  | (.error _, asked) => asked
  | (.ok members, asked) =>
      (node.choices (view.arena asked) members).foldl
        (fun now member => (view.assignable now member.result request.target).2)
        (node.stateAfter view asked)

/-- The arenas in which the places of a level are looked at, one after the other. -/
def levelLooks : σ → List Spot → Looks
  | state, [] => fun _ => view.arena state
  | state, spot :: spots =>
      Function.update (levelLooks (request.leave view state spot.node) spots) spot.trail
        (request.look view state spot.node)

/-- The state in which the places of a level leave the view. -/
def leaveLevel (state : σ) (spots : List Spot) : σ :=
  spots.foldl (fun now spot => request.leave view now spot.node) state

/-- The arenas in which the places of so many levels are looked at, from one on whose trails
have this length, and the state in which the last level leaves the view. -/
def tour (length : Nat) : Nat → σ → List Spot → Looks × σ
  | 0, state, _ => (fun _ => view.arena state, state)
  | depth + 1, state, spots =>
      let looks := request.levelLooks view state spots
      let (later, last) := tour (length + 1) depth (request.leaveLevel view state spots)
        (spots.flatMap fun spot => (request.rules answers).leads (looks spot.trail) spot)
      (Rules.joinLooks length looks later, last)

variable (limits : Limits)

/-- The arena in which each place is looked at on the tour from the roots and companions. -/
def looks (state : σ) : Looks :=
  (request.tour view answers 1 limits.rounds state (firstSpots (request.firstNodes limits))).1

/-- The state in which the whole tour leaves the view. -/
def lastState (state : σ) : σ :=
  (request.tour view answers 1 limits.rounds state (firstSpots (request.firstNodes limits))).2

/-- All chains, level by level, each place looked at where the tour comes to it. -/
def listing (state : σ) : List (Trail × Chain) :=
  (request.rules answers).enumerate (request.looks view answers limits state) limits.rounds
    (firstSpots (request.firstNodes limits))

/-- Whether a trail from a root or companion completes a chain, each place looked at where the
tour comes to it. -/
def Allows (state : σ) (trail : Trail) (chain : Chain) : Prop :=
  (request.rules answers).Records (request.looks view answers limits state)
    (request.firstNodes limits) trail chain

variable {request view answers limits}

/-- The chains that are allowed are those that are listed. -/
theorem mem_listing_iff {state : σ} {trail : Trail} {chain : Chain} :
    (trail, chain) ∈ request.listing view answers limits state ↔
      request.Allows view answers limits state trail chain :=
  Rules.mem_enumerate_firstSpots

/-- No trail is listed twice. -/
theorem nodup_listing (state : σ) :
    ((request.listing view answers limits state).map Prod.fst).Nodup :=
  Rules.nodup_enumerate Rules.isLevel_firstSpots (Rules.nodup_firstSpots _)

/-- What is found place by place on a level is what is found at its first place and then at
the others. -/
theorem flatMap_levelLooks_cons {α : Type} (items : TypeArena → Spot → List α) {state : σ}
    {spot : Spot} {spots : List Spot} (isNew : spot.trail ∉ spots.map Spot.trail) :
    (spot :: spots).flatMap
        (fun other => items (request.levelLooks view state (spot :: spots) other.trail) other) =
      items (request.look view state spot.node) spot ++
        spots.flatMap fun other =>
          items (request.levelLooks view (request.leave view state spot.node) spots other.trail)
            other := by
  rw [List.flatMap_cons, levelLooks, Function.update_self]
  congr 1
  refine List.flatMap_congr fun other isThere => ?_
  rw [Function.update_of_ne]
  intro same
  exact isNew (same ▸ List.mem_map_of_mem isThere)

/-- A tour without places leaves the view as it is. -/
@[simp] theorem tour_nil (length depth : Nat) (state : σ) :
    (request.tour view answers length depth state []).2 = state := by
  induction depth generalizing length with
  | zero => rfl
  | succ depth ih => exact ih (length + 1)

end Request

/-! ## A search on the tour -/

section Steps

variable {view : ProgramView σ} {signals : Signals} {limits : Limits} {request : Request}

/-- Candidates that are all dealt with have all been asked about. -/
theorem workOff_visitMember_state {target : TypeId} {typed : List Char} {node : Node}
    {members : List Member} {progress after : Progress σ}
    (going : workOff (visitMember view limits target typed node) progress members =
      (after, none)) :
    after.state = members.foldl (fun now member => (view.assignable now member.result target).2)
      progress.state := by
  induction members generalizing progress with
  | nil =>
      cases going
      rfl
  | cons member members ih =>
      have asked := (visitMember_step view limits target typed node progress member).state_eq
      rw [workOff] at going
      split at going
      · cases going
      · next between dealt =>
          rw [dealt] at asked
          rw [List.foldl_cons, ih going, asked]

/-- A search that goes on leaves a place as the tour does. -/
theorem visitNode_leaves {node : Node} {progress after : Progress σ}
    (going : visitNode view signals limits request progress node = (after, none)) :
    after.state = request.leave view progress.state node := by
  have step := visitNode_step view signals limits request progress node
  rw [going] at step
  generalize same : (after, (none : Option StopReason)) = result at step
  cases step with
  | interrupted stops => cases same
  | unanswered goes asked =>
      cases same
      rw [Request.leave, asked]
      rfl
  | expanded goes asked =>
      rw [Request.leave, asked]
      exact workOff_visitMember_state same.symm

/-- A search that goes on leaves a level as the tour does. -/
theorem round_leaves {spots : List Spot} {progress after : Progress σ}
    (going : workOff (visitNode view signals limits request) progress (spots.map Spot.node) =
      (after, none)) :
    after.state = request.leaveLevel view progress.state spots := by
  induction spots generalizing progress with
  | nil =>
      cases going
      rfl
  | cons spot spots ih =>
      rw [List.map_cons, workOff] at going
      split at going
      · cases going
      · next between left =>
          rw [ih going, visitNode_leaves left]
          rfl

end Steps

end ChainCompletion.Search
