/-
# Search.Run -- chains that lead to a type

The search looks at nodes, places that a chain has reached, in rounds: first the
roots and companions themselves, then the places one access away, and so on.  A
node's candidates are the accessible members of its type that give a value worth
going on with, and the entries of its type if it is an array.  A static root
offers its static members only, a value never any.

For each candidate in order:

* if the program cannot say whether it fits the target, it is given up;
* if it fits, it completes a chain, which is recorded if the typed text selects it
  and is not followed further;
* otherwise it waits for the next round, if the chain may still grow, the frontier
  has room, and the type has not occurred on the way.

A node whose members cannot be found is given up as a whole; nothing else is
affected.  The search ends when no node is left, when there are enough results, or
when it is interrupted.

A chain that grows has fewer accesses than its root's bound, so no node waits
after as many rounds as the search is deep (`rounds`).
-/
import ChainCompletion.ProgramView
import ChainCompletion.Search.Node
import ChainCompletion.Search.Typed
import ChainCompletion.Thread

namespace ChainCompletion.Search

set_option autoImplicit false

/-- How far a search has come. -/
structure Progress (σ : Type) where
  state : σ
  /-- The chains recorded, in order. -/
  chains : Array Chain
  /-- The nodes of the next round, in order. -/
  next : Array Node
  /-- The number of nodes that wait, in this round and the next. -/
  waiting : Nat
  /-- The number of nodes and members given up because a question failed. -/
  pruned : Nat
  /-- The number of nodes looked at. -/
  expanded : Nat
  /-- The number of members not followed because too many nodes waited. -/
  refused : Nat

/-- What a search found. -/
structure Outcome where
  /-- The chains, in the order in which they were found. -/
  chains : List Chain
  reason : StopReason
  pruned : Nat
  expanded : Nat
  refused : Nat
  deriving DecidableEq

variable {σ : Type}

/-- The members to follow from a node. -/
def candidates (view : ProgramView σ) (site : CallSite) (state : σ) (node : Node) :
    Except LookupError (List Member) × σ :=
  match view.members state node.type site with
  | (.error error, state) => (.error error, state)
  | (.ok members, state) =>
      let worthy := members.filter (node.admits (view.arena state))
      if node.isStatic then (.ok worthy, state)
      else
        let (component, arena) := (view.arena state).component? node.type
        let entries := component.toList.map (Member.ofArrayElement node.type)
        (.ok (worthy ++ entries), view.withArena state arena)

/-- Deals with one candidate of a node. -/
def visitMember (view : ProgramView σ) (limits : Limits) (target : TypeId) (typed : List Char)
    (node : Node) (progress : Progress σ) (member : Member) : Progress σ × Option StopReason :=
  match view.assignable progress.state member.result target with
  | (.error _, state) =>
      ({ progress with state := state, pruned := progress.pruned + 1 }, none)
  | (.ok true, state) =>
      if matchesTyped typed node.root member then
        let chains := progress.chains.push (node.complete member)
        ({ progress with state := state, chains := chains },
          if limits.maxResults ≤ chains.size then some .resultLimit else none)
      else ({ progress with state := state }, none)
  | (.ok false, state) =>
      if node.mayExtend member then
        if progress.waiting < limits.maxFrontier then
          ({ progress with
              state := state
              next := progress.next.push (node.extend member)
              waiting := progress.waiting + 1 }, none)
        else ({ progress with state := state, refused := progress.refused + 1 }, none)
      else ({ progress with state := state }, none)

/-- Looks at one node, unless the search is interrupted first. -/
def visitNode (view : ProgramView σ) (signals : Signals) (limits : Limits) (request : Request)
    (progress : Progress σ) (node : Node) : Progress σ × Option StopReason :=
  match signals.interruption? limits progress.expanded with
  | some reason => (progress, some reason)
  | none =>
      let progress :=
        { progress with expanded := progress.expanded + 1, waiting := progress.waiting - 1 }
      match candidates view request.callSite progress.state node with
      | (.error _, state) =>
          ({ progress with state := state, pruned := progress.pruned + 1 }, none)
      | (.ok members, state) =>
          workOff (visitMember view limits request.target (foldName request.typed) node)
            { progress with state := state } members

/-- Runs rounds until one has no nodes; the interruption is asked for once more
before the search counts as exhausted. -/
def runRounds (view : ProgramView σ) (signals : Signals) (limits : Limits) (request : Request) :
    Nat → Progress σ → List Node → Progress σ × StopReason
  | 0, progress, _ =>
      (progress, (signals.interruption? limits progress.expanded).getD .exhausted)
  | _ + 1, progress, [] =>
      (progress, (signals.interruption? limits progress.expanded).getD .exhausted)
  | rounds + 1, progress, nodes =>
      match workOff (visitNode view signals limits request)
          { progress with next := #[] } nodes with
      | (progress, some reason) => (progress, reason)
      | (progress, none) => runRounds view signals limits request rounds progress progress.next.toList

/-- The number of rounds that can have nodes; there is always a first one. -/
def Limits.rounds (limits : Limits) : Nat := max 1 limits.maxDepth

/-- Searches for chains that lead to the target of a request. -/
def run (view : ProgramView σ) (signals : Signals) (limits : Limits) (request : Request)
    (state : σ) : Outcome × σ :=
  let nodes := request.firstNodes limits
  let (progress, reason) :=
    runRounds view signals limits request limits.rounds ⟨state, #[], #[], nodes.length, 0, 0, 0⟩ nodes
  (⟨progress.chains.toList, reason, progress.pruned, progress.expanded, progress.refused⟩,
    progress.state)

end ChainCompletion.Search
