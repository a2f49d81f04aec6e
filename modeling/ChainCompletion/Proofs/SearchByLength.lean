/-
# Proofs.SearchByLength -- shorter chains are found first

The nodes in the queue of a search are as far from their roots as the one at its front, or one
access further, and the nearer ones stand first (`Progress.InBand`).  The node that is taken off
is among the nearest.  What it leads to is one access further and joins the queue at its end, all
of it or only as much as there is room for, and a chain that is completed at it is one access
longer than its path.  So the band moves on but never back (`Progress.InBand.dequeue`).

Nothing else enters into this: not what a view answers, which may be different each time, nor how
deep chains from a root may go, nor which nodes found no room, nor when the search ends.  Hence
nodes are taken off and chains are recorded by length in every search (`run_by_length`).
-/
import ChainCompletion.Proofs.SearchQueue
import ChainCompletion.Proofs.SearchRules

namespace ChainCompletion.Search

set_option autoImplicit false

variable {σ : Type} {view : ProgramView σ} {signals : Signals} {limits : Limits}
  {request : Request}

/-! ## The length of a chain -/

theorem Node.length_complete (node : Node) (member : Member) :
    (node.complete member).length = node.path.length + 1 := by
  simp [Node.complete, Node.pathTo, Chain.length]

/-- A candidate completes a chain with one access more than its node has, or none. -/
theorem visitMember_chains {target : TypeId} {typed : List Char} (node : Node)
    (progress : Progress σ) (member : Member) :
    ∃ found, (visitMember view limits target typed node progress member).1.chains.toList =
        progress.chains.toList ++ found ∧
      ∀ chain ∈ found, chain.length = node.path.length + 1 := by
  have step := visitMember_step view limits target typed node progress member
  generalize visitMember view limits target typed node progress member = result at step ⊢
  cases step with
  | recorded asked selected =>
      refine ⟨[node.complete member], by simp, ?_⟩
      intro chain isNew
      rw [List.mem_singleton.1 isNew]
      exact node.length_complete member
  | _ => exact ⟨[], by simp, by simp⟩

/-- The chains that are completed at a node come after those that are there, and have one access
more than the node. -/
theorem visitNode_chains (node : Node) (progress : Progress σ) :
    ∃ found, (visitNode view signals limits request progress node).1.chains.toList =
        progress.chains.toList ++ found ∧
      ∀ chain ∈ found, chain.length = node.path.length + 1 := by
  have step := visitNode_step view signals limits request progress node
  generalize visitNode view signals limits request progress node = result at step ⊢
  cases step with
  | interrupted stops => exact ⟨[], by simp, by simp⟩
  | unanswered goes asked => exact ⟨[], by simp [Progress.takeUp], by simp⟩
  | @expanded members state goes asked =>
      refine @workOff_keeps _ _ _ (fun now : Progress σ => ∃ found,
        now.chains.toList = progress.chains.toList ++ found ∧
          ∀ chain ∈ found, chain.length = node.path.length + 1)
        _ _ ?_ _ ⟨[], by simp [Progress.takeUp], by simp⟩
      rintro member - before ⟨found, chains, lengths⟩
      obtain ⟨found', chains', lengths'⟩ := @visitMember_chains _ view limits request.target
        (foldName request.typed) node before member
      refine ⟨found ++ found', by rw [chains', chains, List.append_assoc], ?_⟩
      intro chain isThere
      rcases List.mem_append.1 isThere with early | late
      · exact lengths chain early
      · exact lengths' chain late

/-! ## The band -/

/-- What is as long as the longest can be joins a list in order at its end. -/
theorem pairwise_append_longest {α : Type} {length : α → Nat} {items joining : List α}
    {longest : Nat} (ordered : items.Pairwise fun early late => length early ≤ length late)
    (most : ∀ item ∈ items, length item ≤ longest)
    (same : ∀ item ∈ joining, length item = longest) :
    (items ++ joining).Pairwise fun early late => length early ≤ length late := by
  refine List.pairwise_append.2 ⟨ordered, ?_, ?_⟩
  · refine List.pairwise_of_forall_mem_list ?_
    intro early isEarly late isLate
    rw [same early isEarly, same late isLate]
  · intro early isEarly late isLate
    rw [same late isLate]
    exact most early isEarly

/-- Whether the nodes that wait are `least` accesses from their roots or one further, the nearer
ones first, and chains have been recorded by length, none longer than those that the nearer nodes
complete. -/
structure Progress.InBand (progress : Progress σ) (least : Nat) : Prop where
  nearFirst : progress.next.toList.Pairwise fun early late =>
    early.path.length ≤ late.path.length
  within : ∀ node ∈ progress.next.toList,
    least ≤ node.path.length ∧ node.path.length ≤ least + 1
  byLength : progress.chains.toList.Pairwise fun early late => early.length ≤ late.length
  noLonger : ∀ chain ∈ progress.chains.toList, chain.length ≤ least + 1

/-- A node that is taken off moves the band on to itself. -/
theorem Progress.InBand.dequeue {progress after : Progress σ} {least : Nat}
    (band : progress.InBand least) {node : Node} {rest : List Node} {stop : Option StopReason}
    (first : progress.next.toList = node :: rest)
    (taken : dequeue view signals limits request progress node rest = (after, stop)) :
    least ≤ node.path.length ∧ after.InBand node.path.length := by
  obtain ⟨nearFirst, within, byLength, noLonger⟩ := band
  rw [first, List.pairwise_cons] at nearFirst
  rw [first, List.forall_mem_cons] at within
  obtain ⟨⟨reached, -⟩, within⟩ := within
  obtain ⟨passed, next, continues⟩ := dequeue_next taken
  obtain ⟨found, chains, lengths⟩ := @visitNode_chains _ view signals limits request node
    { progress with next := rest.toArray, waiting := rest.length + 1 }
  rw [← Search.dequeue, taken] at chains
  have further : ∀ other ∈ passed, other.path.length = node.path.length + 1 :=
    fun other isPassed => (continues other isPassed).length_eq
  have most : ∀ other ∈ rest, other.path.length ≤ node.path.length + 1 :=
    fun other isThere => Nat.le_trans (within other isThere).2 (Nat.succ_le_succ reached)
  have most' : ∀ chain ∈ progress.chains.toList, chain.length ≤ node.path.length + 1 :=
    fun chain isThere => Nat.le_trans (noLonger chain isThere) (Nat.succ_le_succ reached)
  refine ⟨reached, ?_, ?_, ?_, ?_⟩
  · rw [next]
    exact pairwise_append_longest nearFirst.2 most further
  · rw [next]
    intro other isThere
    rcases List.mem_append.1 isThere with old | new
    · exact ⟨nearFirst.1 other old, most other old⟩
    · rw [further other new]
      exact ⟨Nat.le_succ _, Nat.le_refl _⟩
  · rw [chains]
    exact pairwise_append_longest byLength most' lengths
  · rw [chains]
    intro chain isThere
    rcases List.mem_append.1 isThere with old | new
    · exact most' chain old
    · exact (lengths chain new).le

/-- From a queue in a band, nodes are taken off and chains recorded by length. -/
theorem QueueRun.by_length {progress : Progress σ} {dequeued : List Node} {outcome : Outcome × σ}
    (queueRun : QueueRun view signals limits request progress dequeued outcome) {least : Nat}
    (band : progress.InBand least) :
    (outcome.1.chains.Pairwise fun early late => early.length ≤ late.length) ∧
    (dequeued.Pairwise fun early late => early.path.length ≤ late.path.length) ∧
    ∀ node ∈ dequeued, least ≤ node.path.length := by
  induction queueRun generalizing least with
  | interrupted stops => exact ⟨band.byLength, .nil, by simp⟩
  | exhausted goes empty => exact ⟨band.byLength, .nil, by simp⟩
  | ended goes first taken =>
      obtain ⟨reached, band'⟩ := band.dequeue first taken
      exact ⟨band'.byLength, List.pairwise_singleton _ _, by simpa using reached⟩
  | @goOn progress after node rest dequeued outcome goes first taken later ih =>
      obtain ⟨reached, band'⟩ := band.dequeue first taken
      obtain ⟨byLength, nearFirst, further⟩ := ih band'
      refine ⟨byLength, List.pairwise_cons.2 ⟨further, nearFirst⟩, ?_⟩
      exact List.forall_mem_cons.2
        ⟨reached, fun other isTaken => Nat.le_trans reached (further other isTaken)⟩

/-- Roots and companions wait without an access. -/
theorem firstQueue_inBand (state : σ) : (firstQueue limits request state).InBand 0 := by
  have bare : ∀ node ∈ request.firstNodes limits, node.path = [] :=
    fun node isFirst => Rules.path_of_mem_firstNodes isFirst
  refine ⟨?_, ?_, .nil, ?_⟩
  · refine List.pairwise_of_forall_mem_list ?_
    intro early isEarly late isLate
    rw [bare early isEarly, bare late isLate]
  · intro node isFirst
    simp [bare node isFirst]
  · intro chain isThere
    cases isThere

/-- **Every search finds shorter chains first.**  Whatever the view answers, be it different each
time, and whatever the limits, the request and the interruptions are, no chain is shorter than one
that was recorded before it.  Nor is a node that the search takes off its queue nearer to its root
than one that it took off before. -/
theorem run_by_length (view : ProgramView σ) (signals : Signals) (limits : Limits)
    (request : Request) (state : σ) :
    ((run view signals limits request state).1.chains.Pairwise fun early late =>
      early.length ≤ late.length) ∧
    ∃ dequeued : List Node,
      QueueRun view signals limits request (firstQueue limits request state) dequeued
        (run view signals limits request state) ∧
      dequeued.Pairwise fun early late => early.path.length ≤ late.path.length := by
  obtain ⟨dequeued, queueRun⟩ := run_queueRun view signals limits request state
  obtain ⟨byLength, nearFirst, -⟩ := queueRun.by_length (firstQueue_inBand state)
  exact ⟨byLength, dequeued, queueRun, nearFirst⟩

-- the maker is a companion and waits behind the box, but the chain from it is the shorter one
example : (run (boxAnswers.view CursorSite.unknown) Signals.quiet boxLimits boxRequest
    boxArena).1.chains.map (fun chain => (chain.root.name, chain.length)) =
      [("Maker", 2), ("box", 3)] := by
  decide

end ChainCompletion.Search
