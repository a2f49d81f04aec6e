/-
# Proofs.SearchQueue -- a search works off one queue, and ends

Rounds are a way to count.  The same search has one queue of nodes that wait: it takes the
first node off, and the nodes that this one leads to join the queue at its end (`dequeue`).
The loop asks for an interruption, stops when the queue is empty, and otherwise takes up the
next node, for as long as it takes (`QueueRun`); it knows no rounds and counts on nothing.

A node leads only to nodes that are nearer to the bound of their root (`visitNode_next`).  So
each time the loop goes on, one number among the distances to a bound (`Node.distance`) is
exchanged for finitely many smaller ones, and that cannot go on forever
(`wellFounded_dequeue`), whatever the queue, the program and the limits are.

A round leaves the queue as the loop does after as many nodes (`QueueRun.front`,
`QueueRun.round`), since the nodes of a round stand before all that they lead to, and no node
is left after the last round (`runRounds_queueRun`).  Hence a search is this loop
(`run_queueRun`, `run_works_off_queue`), and what taking a node off keeps holds in the end
(`QueueRun.invariant`).
-/
import Mathlib.Logic.Hydra
import ChainCompletion.Proofs.SearchLimits

namespace ChainCompletion.Search

set_option autoImplicit false

variable {σ : Type}

/-! ## Where a node can lead -/

namespace Node

/-- Whether a node is one access after another. -/
def Continues (node after : Node) : Prop :=
  ∃ member, node.mayExtend member = true ∧ after = node.extend member

/-- How far a node is from the bound of its root. -/
def distance (node : Node) : Nat := node.bound - node.path.length

/-- The number of rounds that have nodes, from the one of this node on. -/
def roundsLeft (node : Node) : Nat := max 1 node.distance

variable {node after : Node}

theorem Continues.root_eq (continues : node.Continues after) : after.root = node.root := by
  obtain ⟨member, -, rfl⟩ := continues
  rfl

theorem Continues.bound_eq (continues : node.Continues after) : after.bound = node.bound := by
  obtain ⟨member, -, rfl⟩ := continues
  rfl

theorem Continues.length_eq (continues : node.Continues after) :
    after.path.length = node.path.length + 1 := by
  obtain ⟨member, -, rfl⟩ := continues
  simp [extend, pathTo]

/-- A chain goes on only within its bound. -/
theorem Continues.length_lt (continues : node.Continues after) :
    after.path.length < after.bound := by
  rw [continues.length_eq, continues.bound_eq]
  obtain ⟨member, grows, -⟩ := continues
  simp only [mayExtend, Bool.and_eq_true, decide_eq_true_eq] at grows
  exact grows.1

theorem Continues.distance_lt (continues : node.Continues after) :
    after.distance < node.distance := by
  have bound := continues.bound_eq
  have length := continues.length_eq
  have short := continues.length_lt
  unfold distance
  omega

theorem Continues.roundsLeft_lt (continues : node.Continues after) :
    after.roundsLeft < node.roundsLeft := by
  have nearer := continues.distance_lt
  have short := continues.length_lt
  have positive : 1 ≤ after.distance := by
    unfold distance
    omega
  unfold roundsLeft
  omega

end Node

section Steps

variable {view : ProgramView σ} {signals : Signals} {limits : Limits} {request : Request}

/-- A candidate joins the nodes that wait, or none does. -/
theorem visitMember_next {target : TypeId} {typed : List Char} (node : Node)
    (progress : Progress σ) (member : Member) :
    ∃ passed, (visitMember view limits target typed node progress member).1.next.toList =
        progress.next.toList ++ passed ∧
      ∀ after ∈ passed, node.Continues after := by
  have step := visitMember_step view limits target typed node progress member
  generalize visitMember view limits target typed node progress member = result at step ⊢
  cases step with
  | waits asked grows room =>
      refine ⟨[node.extend member], by simp, ?_⟩
      intro after isNew
      rw [List.mem_singleton] at isNew
      exact ⟨member, grows, isNew⟩
  | _ => exact ⟨[], by simp, by simp⟩

/-- The nodes that a node leads to come after those that are there. -/
theorem visitNode_next (node : Node) (progress : Progress σ) :
    ∃ passed, (visitNode view signals limits request progress node).1.next.toList =
        progress.next.toList ++ passed ∧
      ∀ after ∈ passed, node.Continues after := by
  have step := visitNode_step view signals limits request progress node
  generalize visitNode view signals limits request progress node = result at step ⊢
  cases step with
  | interrupted stops => exact ⟨[], by simp, by simp⟩
  | unanswered goes asked => exact ⟨[], by simp [Progress.takeUp], by simp⟩
  | @expanded members state goes asked =>
      refine @workOff_keeps _ _ _ (fun now : Progress σ => ∃ passed,
        now.next.toList = progress.next.toList ++ passed ∧ ∀ after ∈ passed, node.Continues after)
        _ _ ?_ _ ⟨[], by simp [Progress.takeUp], by simp⟩
      intro member _ before ⟨passed, next, continues⟩
      obtain ⟨passed', next', continues'⟩ := @visitMember_next _ view limits request.target
        (foldName request.typed) node before member
      refine ⟨passed ++ passed', by rw [next', next, List.append_assoc], ?_⟩
      intro after isThere
      rcases List.mem_append.1 isThere with early | late
      · exact continues after early
      · exact continues' after late

/-- What holds of the nodes of a round and is handed on holds of the nodes of the next. -/
theorem round_next {holds : Node → Prop} {holds' : Node → Prop}
    (handed : ∀ node after, holds node → node.Continues after → holds' after)
    {nodes : List Node} (each : ∀ node ∈ nodes, holds node) {progress : Progress σ}
    (start : ∀ node ∈ progress.next.toList, holds' node) :
    ∀ node ∈ (workOff (visitNode view signals limits request) progress nodes).1.next.toList,
      holds' node := by
  refine @workOff_keeps _ _ _ (fun now : Progress σ => ∀ node ∈ now.next.toList, holds' node)
    _ _ ?_ _ start
  intro node isHere before kept after isThere
  obtain ⟨passed, next, continues⟩ := @visitNode_next _ view signals limits request node before
  rw [next, List.mem_append] at isThere
  rcases isThere with early | late
  · exact kept after early
  · exact handed node after (each node isHere) (continues after late)

end Steps

/-! ## One queue -/

/-- What a search has found that came so far and ends for this reason, with its state. -/
def Progress.outcome (progress : Progress σ) (reason : StopReason) : Outcome × σ :=
  (⟨progress.chains.toList, reason, progress.pruned, progress.expanded, progress.refused⟩,
    progress.state)

section Queue

variable (view : ProgramView σ) (signals : Signals) (limits : Limits) (request : Request)

/-- Takes a node off a queue of which `rest` is left, and deals with it; the nodes that it
leads to join the queue at its end.  All nodes that wait are in the queue. -/
def dequeue (progress : Progress σ) (node : Node) (rest : List Node) :
    Progress σ × Option StopReason :=
  visitNode view signals limits request
    { progress with next := rest.toArray, waiting := rest.length + 1 } node

/-- The loop that works off a queue, `next`: the nodes that it takes off, in order, and what it
has found in the end. -/
inductive QueueRun : Progress σ → List Node → Outcome × σ → Prop
  | interrupted {progress : Progress σ} {reason : StopReason}
      (stops : signals.interruption? limits progress.expanded = some reason) :
      QueueRun progress [] (progress.outcome reason)
  | exhausted {progress : Progress σ}
      (goes : signals.interruption? limits progress.expanded = none)
      (empty : progress.next.toList = []) :
      QueueRun progress [] (progress.outcome .exhausted)
  | ended {progress after : Progress σ} {node : Node} {rest : List Node} {reason : StopReason}
      (goes : signals.interruption? limits progress.expanded = none)
      (first : progress.next.toList = node :: rest)
      (taken : dequeue view signals limits request progress node rest = (after, some reason)) :
      QueueRun progress [node] (after.outcome reason)
  | goOn {progress after : Progress σ} {node : Node} {rest dequeued : List Node}
      {outcome : Outcome × σ}
      (goes : signals.interruption? limits progress.expanded = none)
      (first : progress.next.toList = node :: rest)
      (taken : dequeue view signals limits request progress node rest = (after, none))
      (later : QueueRun after dequeued outcome) :
      QueueRun progress (node :: dequeued) outcome

variable {view signals limits request} in
/-- A queue loses its first node and gains those that it leads to, at the end. -/
theorem dequeue_next {progress after : Progress σ} {node : Node} {rest : List Node}
    {stop : Option StopReason}
    (taken : dequeue view signals limits request progress node rest = (after, stop)) :
    ∃ passed, after.next.toList = rest ++ passed ∧ ∀ new ∈ passed, node.Continues new := by
  obtain ⟨passed, next, continues⟩ := @visitNode_next _ view signals limits request node
    { progress with next := rest.toArray, waiting := rest.length + 1 }
  rw [← dequeue, taken] at next
  exact ⟨passed, next, continues⟩

/-- **No queue is worked off forever**, whatever is in it: the distances of the nodes that wait
go down in the order of finite collections of numbers. -/
theorem wellFounded_dequeue :
    WellFounded fun after before : Progress σ => ∃ node rest,
      before.next.toList = node :: rest ∧
        dequeue view signals limits request before node rest = (after, none) := by
  let distances (progress : Progress σ) : Multiset Nat :=
    ↑(progress.next.toList.map Node.distance)
  refine Subrelation.wf ?_ (InvImage.wf distances (WellFounded.cutExpand Nat.lt_wfRel.wf))
  rintro after before ⟨node, rest, first, taken⟩
  obtain ⟨passed, next, continues⟩ := dequeue_next taken
  -- the distance of the node that was taken off is exchanged for those of the new ones
  refine ⟨↑(passed.map Node.distance), node.distance, ?_, ?_⟩
  · intro number isNew
    rw [Multiset.mem_coe, List.mem_map] at isNew
    obtain ⟨new, isPassed, rfl⟩ := isNew
    exact (continues new isPassed).distance_lt
  · simp only [distances, next, first, List.map_append, List.map_cons]
    rw [← Multiset.coe_add, ← Multiset.cons_coe, Multiset.cons_add, add_comm,
      Multiset.singleton_add]

variable {view signals limits request}

/-- What holds of the nodes in a queue and is handed on holds of all that are taken off. -/
theorem QueueRun.forall_dequeued {holds : Node → Prop}
    (handed : ∀ node after, holds node → node.Continues after → holds after)
    {progress : Progress σ} {dequeued : List Node} {outcome : Outcome × σ}
    (queueRun : QueueRun view signals limits request progress dequeued outcome)
    (start : ∀ node ∈ progress.next.toList, holds node) : ∀ node ∈ dequeued, holds node := by
  induction queueRun with
  | interrupted stops => simp
  | exhausted goes empty => simp
  | ended goes first taken =>
      rw [first, List.forall_mem_cons] at start
      simpa using start.1
  | @goOn progress after node rest dequeued outcome goes first taken later ih =>
      rw [first, List.forall_mem_cons] at start
      obtain ⟨passed, next, continues⟩ := dequeue_next taken
      refine List.forall_mem_cons.2 ⟨start.1, ih ?_⟩
      intro other isThere
      rw [next, List.mem_append] at isThere
      rcases isThere with early | late
      · exact start.2 other early
      · exact handed node other start.1 (continues other late)

/-- What taking a node off keeps holds of the search in the end. -/
theorem QueueRun.invariant {keep : Progress σ → Prop}
    (step : ∀ progress node rest, progress.next.toList = node :: rest → keep progress →
      keep (dequeue view signals limits request progress node rest).1)
    {progress : Progress σ} {dequeued : List Node} {outcome : Outcome × σ}
    (queueRun : QueueRun view signals limits request progress dequeued outcome)
    (start : keep progress) : ∃ last, keep last ∧ outcome = last.outcome outcome.1.reason := by
  induction queueRun with
  | interrupted stops => exact ⟨_, start, rfl⟩
  | exhausted goes empty => exact ⟨_, start, rfl⟩
  | ended goes first taken =>
      have kept := step _ _ _ first start
      rw [taken] at kept
      exact ⟨_, kept, rfl⟩
  | goOn goes first taken later ih =>
      have kept := step _ _ _ first start
      rw [taken] at kept
      exact ih kept

/-- Taking a node off counts once. -/
theorem expanded_dequeue {progress after : Progress σ} {node : Node} {rest : List Node}
    {stop : Option StopReason} (goes : signals.interruption? limits progress.expanded = none)
    (taken : dequeue view signals limits request progress node rest = (after, stop)) :
    after.expanded = progress.expanded + 1 := by
  have step := visitNode_step view signals limits request
    { progress with next := rest.toArray, waiting := rest.length + 1 } node
  rw [← dequeue, taken] at step
  exact step.expanded_eq goes

/-- As many nodes are taken off as are looked at. -/
theorem QueueRun.length_dequeued {progress : Progress σ} {dequeued : List Node}
    {outcome : Outcome × σ}
    (queueRun : QueueRun view signals limits request progress dequeued outcome) :
    outcome.1.expanded = progress.expanded + dequeued.length := by
  induction queueRun with
  | interrupted stops => rfl
  | exhausted goes empty => rfl
  | @ended progress after node rest reason goes first taken =>
      show after.expanded = _
      rw [expanded_dequeue goes taken]
      rfl
  | @goOn progress after node rest dequeued outcome goes first taken later ih =>
      rw [ih, expanded_dequeue goes taken, List.length_cons]
      omega

/-! ## Rounds -/

/-- The progress of a search with these nodes before all others that wait. -/
def Progress.behind (progress : Progress σ) (nodes : List Node) : Progress σ :=
  { progress with next := (nodes ++ progress.next.toList).toArray }

/-- Work that only adds to the nodes that wait does the same behind others. -/
theorem workOff_behind {α : Type} {work : Progress σ → α → Progress σ × Option StopReason}
    {nodes : List Node}
    (each : ∀ progress item, work (Progress.behind progress nodes) item =
      ((work progress item).1.behind nodes, (work progress item).2))
    (progress : Progress σ) (items : List α) :
    workOff work (progress.behind nodes) items =
      ((workOff work progress items).1.behind nodes, (workOff work progress items).2) := by
  induction items generalizing progress with
  | nil => rfl
  | cons item items ih =>
      rw [workOff, workOff, each]
      cases done : work progress item with
      | mk after stop =>
          cases stop with
          | some reason => rfl
          | none => exact ih after

theorem visitMember_behind {target : TypeId} {typed : List Char} {node : Node}
    (nodes : List Node) (progress : Progress σ) (member : Member) :
    visitMember view limits target typed node (progress.behind nodes) member =
      ((visitMember view limits target typed node progress member).1.behind nodes,
        (visitMember view limits target typed node progress member).2) := by
  simp only [visitMember, Progress.behind]
  generalize view.assignable progress.state member.result target = asked
  obtain ⟨answer, state⟩ := asked
  cases answer with
  | error error => rfl
  | ok fits =>
      cases fits with
      | true =>
          simp only
          split <;> rfl
      | false =>
          by_cases grows : node.mayExtend member = true
          · by_cases room : progress.waiting < limits.maxFrontier <;> simp [grows, room]
          · simp [grows]

theorem visitNode_behind (nodes : List Node) (progress : Progress σ) (node : Node) :
    visitNode view signals limits request (progress.behind nodes) node =
      ((visitNode view signals limits request progress node).1.behind nodes,
        (visitNode view signals limits request progress node).2) := by
  have sameState : (progress.behind nodes).state = progress.state := rfl
  have sameCount : (progress.behind nodes).expanded = progress.expanded := rfl
  rw [visitNode, visitNode, sameCount]
  split
  · rfl
  · simp only [sameState]
    split
    · rfl
    · next members state _ =>
        exact workOff_behind (visitMember_behind nodes)
          { progress with
            state := state
            expanded := progress.expanded + 1
            waiting := progress.waiting - 1 } members

/-- As many nodes wait more as are passed on. -/
theorem visitMember_waiting {target : TypeId} {typed : List Char} {node : Node} {count : Nat}
    (member : Member) {progress : Progress σ}
    (counted : progress.waiting = count + progress.next.size) :
    (visitMember view limits target typed node progress member).1.waiting =
      count + (visitMember view limits target typed node progress member).1.next.size := by
  have step := visitMember_step view limits target typed node progress member
  generalize visitMember view limits target typed node progress member = result at step ⊢
  cases step with
  | waits asked grows room =>
      simp only [Array.size_push]
      omega
  | _ => exact counted

/-- A node that is looked at waits no longer. -/
theorem visitNode_waiting {node : Node} {count : Nat} {progress : Progress σ}
    (goes : signals.interruption? limits progress.expanded = none)
    (counted : progress.waiting = count + 1 + progress.next.size) :
    (visitNode view signals limits request progress node).1.waiting =
      count + (visitNode view signals limits request progress node).1.next.size := by
  have step := visitNode_step view signals limits request progress node
  generalize visitNode view signals limits request progress node = result at step ⊢
  cases step with
  | interrupted stops => simp [goes] at stops
  | unanswered goes asked =>
      simp only [Progress.takeUp]
      omega
  | @expanded members state goes asked =>
      have start : (progress.takeUp (node.stateAfter view state)).waiting =
          count + (progress.takeUp (node.stateAfter view state)).next.size := by
        simp only [Progress.takeUp]
        omega
      exact @workOff_keeps _ _ _ (fun now : Progress σ => now.waiting = count + now.next.size)
        _ _ (fun member _ _ kept => visitMember_waiting member kept) _ start

/-- A node of a round is taken off the queue, which goes on with the rest of the round and then
with what the round has passed on. -/
theorem dequeue_behind {node : Node} {rest : List Node} {progress : Progress σ}
    (counted : progress.waiting = rest.length + 1 + progress.next.size) :
    dequeue view signals limits request (progress.behind (node :: rest)) node
        (rest ++ progress.next.toList) =
      ((visitNode view signals limits request progress node).1.behind rest,
        (visitNode view signals limits request progress node).2) := by
  have length : (rest ++ progress.next.toList).length + 1 = progress.waiting := by
    simp only [counted, List.length_append, Array.length_toList]
    omega
  rw [← visitNode_behind, dequeue, length]
  rfl

/-- The first node of a round is taken off a queue that begins with the nodes of the round. -/
theorem QueueRun.front {node : Node} {rest : List Node} {progress : Progress σ}
    (counted : progress.waiting = rest.length + 1 + progress.next.size) :
    (∀ reason, (visitNode view signals limits request progress node).2 = some reason →
      ∃ dequeued, QueueRun view signals limits request (progress.behind (node :: rest)) dequeued
        ((visitNode view signals limits request progress node).1.outcome reason)) ∧
    ((visitNode view signals limits request progress node).2 = none →
      (visitNode view signals limits request progress node).1.waiting =
        rest.length + (visitNode view signals limits request progress node).1.next.size ∧
      ∀ dequeued outcome,
        QueueRun view signals limits request
          ((visitNode view signals limits request progress node).1.behind rest) dequeued outcome →
        QueueRun view signals limits request (progress.behind (node :: rest)) (node :: dequeued)
          outcome) := by
  have first : (progress.behind (node :: rest)).next.toList =
      node :: (rest ++ progress.next.toList) := rfl
  have taken := @dequeue_behind _ view signals limits request node rest progress counted
  cases goes : signals.interruption? limits progress.expanded with
  | some reason =>
      have stopped : visitNode view signals limits request progress node =
          (progress, some reason) := by
        simp only [visitNode, goes]
      rw [stopped]
      refine ⟨?_, by simp⟩
      rintro _ ⟨⟩
      exact ⟨[], .interrupted goes⟩
  | none =>
      have counted' := @visitNode_waiting _ view signals limits request node rest.length
        progress goes counted
      generalize visitNode view signals limits request progress node = result at taken counted' ⊢
      obtain ⟨after, stop⟩ := result
      constructor
      · rintro reason rfl
        have ended : QueueRun view signals limits request (progress.behind (node :: rest)) [node]
            ((after.behind rest).outcome reason) := .ended goes first taken
        exact ⟨[node], ended⟩
      · rintro rfl
        exact ⟨counted', fun dequeued outcome later => .goOn goes first taken later⟩

/-- A round is worked off from a queue that begins with its nodes. -/
theorem QueueRun.round {nodes : List Node} {progress : Progress σ}
    (counted : progress.waiting = nodes.length + progress.next.size) :
    (∀ reason, (workOff (visitNode view signals limits request) progress nodes).2 = some reason →
      ∃ dequeued, QueueRun view signals limits request (progress.behind nodes) dequeued
        ((workOff (visitNode view signals limits request) progress nodes).1.outcome reason)) ∧
    ((workOff (visitNode view signals limits request) progress nodes).2 = none →
      (workOff (visitNode view signals limits request) progress nodes).1.waiting =
        (workOff (visitNode view signals limits request) progress nodes).1.next.size ∧
      ∀ dequeued outcome,
        QueueRun view signals limits request
          (workOff (visitNode view signals limits request) progress nodes).1 dequeued outcome →
        QueueRun view signals limits request (progress.behind nodes) (nodes ++ dequeued)
          outcome) := by
  induction nodes generalizing progress with
  | nil => exact ⟨by simp, fun _ => ⟨by simpa using counted, fun _ _ later => later⟩⟩
  | cons node rest ih =>
      obtain ⟨stops, goesOn⟩ := @QueueRun.front _ view signals limits request node rest progress
        (by simpa using counted)
      rw [workOff]
      cases visited : visitNode view signals limits request progress node with
      | mk after stop =>
          rw [visited] at stops goesOn
          cases stop with
          | some reason => exact ⟨stops, by simp⟩
          | none =>
              obtain ⟨counted', before⟩ := goesOn rfl
              obtain ⟨stops', goesOn'⟩ := ih counted'
              constructor
              · intro reason stopped
                obtain ⟨dequeued, later⟩ := stops' reason stopped
                exact ⟨node :: dequeued, before dequeued _ later⟩
              · intro going
                obtain ⟨counted'', later⟩ := goesOn' going
                refine ⟨counted'', ?_⟩
                intro dequeued outcome rest'
                exact before _ _ (later dequeued outcome rest')

/-- Rounds are worked off from one queue, if there are as many of them as nodes can have. -/
theorem runRounds_queueRun (rounds : Nat) {nodes : List Node} {progress : Progress σ}
    (counted : progress.waiting = nodes.length)
    (few : ∀ node ∈ nodes, node.roundsLeft ≤ rounds) :
    ∃ dequeued,
      QueueRun view signals limits request { progress with next := nodes.toArray } dequeued
        ((runRounds view signals limits request rounds progress nodes).1.outcome
          (runRounds view signals limits request rounds progress nodes).2) := by
  have halts : ∀ progress : Progress σ,
      QueueRun view signals limits request { progress with next := #[] } []
        (progress.outcome ((signals.interruption? limits progress.expanded).getD .exhausted)) := by
    intro progress
    cases asked : signals.interruption? limits progress.expanded with
    | none => exact QueueRun.exhausted asked rfl
    | some reason => exact QueueRun.interrupted asked
  induction rounds generalizing progress nodes with
  | zero =>
      cases nodes with
      | nil => exact ⟨[], halts progress⟩
      | cons node nodes =>
          have left := few node List.mem_cons_self
          unfold Node.roundsLeft at left
          omega
  | succ rounds ih =>
      cases nodes with
      | nil => exact ⟨[], halts progress⟩
      | cons node nodes =>
          have start : ∀ node ∈ ({ progress with next := #[] } : Progress σ).next.toList,
              node.roundsLeft ≤ rounds := by
            simp
          have fewer := @round_next _ view signals limits request (·.roundsLeft ≤ rounds + 1)
            (·.roundsLeft ≤ rounds)
            (fun _ _ left continues => by have := continues.roundsLeft_lt; omega) _ few _ start
          obtain ⟨stops, goesOn⟩ := @QueueRun.round _ view signals limits request (node :: nodes)
            { progress with next := #[] } (by simpa using counted)
          have queue : ({ progress with next := #[] } : Progress σ).behind (node :: nodes) =
              { progress with next := (node :: nodes).toArray } := by
            simp [Progress.behind]
          rw [queue] at stops goesOn
          rw [runRounds]
          · split
            · next after reason stopped =>
                rw [stopped] at stops
                exact stops reason rfl
            · next after going =>
                rw [going] at goesOn fewer
                obtain ⟨counted', later⟩ := goesOn rfl
                obtain ⟨dequeued, rest⟩ := ih (by simpa using counted') fewer
                exact ⟨_, later dequeued _ rest⟩
          · simp

/-- Whether a node grows from a root or a companion of a request, under its bound, and has fewer
accesses than that bound; roots wait whatever their bound is. -/
structure Node.Placed (request : Request) (limits : Limits) (node : Node) : Prop where
  origin : (node.root ∈ request.roots ∧ node.bound = limits.maxDepth) ∨
    (node.root ∈ request.companions ∧ node.bound = min limits.maxDepth companionDepth)
  short : node.path.length ≤ max node.bound 1 - 1

theorem Node.Placed.handed {node after : Node} (placed : node.Placed request limits)
    (continues : node.Continues after) : after.Placed request limits := by
  have short := continues.length_lt
  refine ⟨?_, by omega⟩
  rw [continues.root_eq, continues.bound_eq]
  exact placed.origin

theorem Node.placed_of_mem_firstNodes {node : Node} (isFirst : node ∈ request.firstNodes limits) :
    node.Placed request limits := by
  simp only [Request.firstNodes, List.mem_append, List.mem_map] at isFirst
  rcases isFirst with ⟨root, isRoot, rfl⟩ | ⟨root, isCompanion, rfl⟩
  · exact ⟨Or.inl ⟨isRoot, rfl⟩, Nat.zero_le _⟩
  · exact ⟨Or.inr ⟨isCompanion, rfl⟩, Nat.zero_le _⟩

/-- No node of the first round needs more rounds than there are. -/
theorem Node.Placed.roundsLeft_le {node : Node} (placed : node.Placed request limits) :
    node.roundsLeft ≤ limits.rounds := by
  have bound : node.bound ≤ limits.maxDepth := by
    rcases placed.origin with ⟨-, bound⟩ | ⟨-, bound⟩ <;> omega
  unfold Node.roundsLeft Node.distance Limits.rounds
  omega

variable (view signals limits request)

/-- The queue of a search that has not looked at a node yet. -/
def firstQueue (state : σ) : Progress σ :=
  ⟨state, #[], (request.firstNodes limits).toArray, (request.firstNodes limits).length, 0, 0, 0⟩

/-- A search works off the queue of its roots and companions. -/
theorem run_queueRun (state : σ) :
    ∃ dequeued, QueueRun view signals limits request (firstQueue limits request state) dequeued
      (run view signals limits request state) :=
  @runRounds_queueRun _ view signals limits request limits.rounds (request.firstNodes limits)
    ⟨state, #[], #[], (request.firstNodes limits).length, 0, 0, 0⟩ rfl
    fun _ isFirst => (Node.placed_of_mem_firstNodes isFirst).roundsLeft_le

/-- **Every search works off its queue and ends.**  From no queue whatsoever can nodes be taken
off forever.  The loop that starts with the roots and companions of a request takes off as many
nodes as the search counts, ends with what the search has found, and no node that it takes
off has come as far as the bound of its root, roots themselves apart.  Unless it is
interrupted, it ends because no node is left or because there are enough results. -/
theorem run_works_off_queue (state : σ) :
    (WellFounded fun after before : Progress σ => ∃ node rest,
      before.next.toList = node :: rest ∧
        dequeue view signals limits request before node rest = (after, none)) ∧
    ∃ dequeued : List Node,
      QueueRun view signals limits request (firstQueue limits request state) dequeued
        (run view signals limits request state) ∧
      dequeued.length = (run view signals limits request state).1.expanded ∧
      (∀ node ∈ dequeued,
        ((node.root ∈ request.roots ∧ node.bound = limits.maxDepth) ∨
          (node.root ∈ request.companions ∧ node.bound = min limits.maxDepth companionDepth)) ∧
        node.path.length ≤ max node.bound 1 - 1) ∧
      ((∀ expanded, signals.interruption? limits expanded = none) →
        (run view signals limits request state).1.reason = .exhausted ∨
          (run view signals limits request state).1.reason = .resultLimit) := by
  have first : ∀ node ∈ request.firstNodes limits, node.Placed request limits :=
    fun node isFirst => Node.placed_of_mem_firstNodes isFirst
  obtain ⟨dequeued, queueRun⟩ := @runRounds_queueRun _ view signals limits request limits.rounds
    (request.firstNodes limits) ⟨state, #[], #[], (request.firstNodes limits).length, 0, 0, 0⟩ rfl
    (fun node isFirst => (first node isFirst).roundsLeft_le)
  have placed := queueRun.forall_dequeued (fun _ _ placed continues => placed.handed continues) first
  have counted := queueRun.length_dequeued
  refine ⟨wellFounded_dequeue view signals limits request, dequeued, queueRun, ?_, ?_, ?_⟩
  · rw [Nat.zero_add] at counted
    exact counted.symm
  · intro node isTaken
    exact ⟨(placed node isTaken).origin, (placed node isTaken).short⟩
  · intro goes
    exact ((run_ends state).of_uninterrupted (goes _)).symm

end Queue

/-! ## Types without end -/

/-- Every type has a field of another type, the one after it, and none fits. -/
def endlessAnswers : Answers where
  members type _ := .ok [Member.ofField type "next" ⟨type.index + 1⟩]
  assignable _ _ := .ok false

/-- A search that never finds anything, from a root and from a companion that is a value. -/
def endlessRequest : Request :=
  { boxRequest with companions := [⟨"other", ⟨0⟩, .localVariable, false⟩] }

/-- From a root and a companion of types without end, five nodes are taken off: the root with no,
one and two accesses, and the companion with no and one. -/
theorem run_works_off_queue_endless :
    (∀ expanded, Signals.quiet.interruption? boxLimits expanded = none) ∧
    (run (endlessAnswers.view CursorSite.unknown) Signals.quiet boxLimits endlessRequest
      .empty).1.reason = .exhausted ∧
    ∃ dequeued : List Node, dequeued.length = 5 ∧
      QueueRun (endlessAnswers.view CursorSite.unknown) Signals.quiet boxLimits endlessRequest
        (firstQueue boxLimits endlessRequest .empty) dequeued
        (run (endlessAnswers.view CursorSite.unknown) Signals.quiet boxLimits endlessRequest .empty) ∧
      ∀ node ∈ dequeued, node.path.length ≤ max node.bound 1 - 1 := by
  have goes : ∀ expanded, Signals.quiet.interruption? boxLimits expanded = none := fun _ => rfl
  obtain ⟨-, dequeued, queueRun, counted, placed, ends⟩ := run_works_off_queue
    (endlessAnswers.view CursorSite.unknown) Signals.quiet boxLimits endlessRequest .empty
  have five : dequeued.length = 5 := counted.trans (by decide)
  refine ⟨goes, ?_, dequeued, five, queueRun, fun node isTaken => (placed node isTaken).2⟩
  exact (ends goes).resolve_right (by decide)

end ChainCompletion.Search
