/-
# Proofs.SearchSoundness -- every recorded chain obeys the rules

Whatever the limits are and however a search ends, a chain that it records starts
at a root or companion of the request, is no longer than that allows, and goes from
type to type through members that were offered there (`SoundChain`).  The proof
carries the same for the nodes that wait (`SoundNode`): their paths are linked, do
not return to a type, and leave room for one access more.

The arena grows while the search runs, and what is void or built in depends on it.  So an
offer is told with its moment: the loop that works off the queue comes to a node (`ComesTo`)
and takes it up in some state of the view (`Takes`), the members are what the view answers in
that state, and the arena they are judged in is the one right after that answer (`Offered`).
The entries of an array are stored when they are offered, so they can be described in the
last arena as well.

* `visitMember_sound`, `visitNode_sound`, `dequeue_sound`: a step keeps chains and nodes sound;
* `QueueRun.sound`: so does a run, whatever ends it;
* `run_chains_sound`: hence all recorded chains are sound.
-/
import ChainCompletion.Proofs.SearchQueue

namespace ChainCompletion

set_option autoImplicit false

/-- Whether accesses lead from one type to another, each made on the type that the
one before it gives. -/
def Access.Lead : TypeId → List Access → TypeId → Prop
  | start, [], stop => start = stop
  | start, access :: later, stop =>
      access.receiver = start ∧ Access.Lead access.member.result later stop

theorem Access.lead_append_single {path : List Access} {start stop : TypeId} {access : Access} :
    Access.Lead start (path ++ [access]) stop ↔
      Access.Lead start path access.receiver ∧ access.member.result = stop := by
  induction path generalizing start with
  | nil => simp [Access.Lead, eq_comm]
  | cons first later ih => simp [Access.Lead, ih, and_assoc]

namespace Search

variable {σ : Type}

/-! ## When a node is taken up -/

section Moments

variable (view : ProgramView σ) (signals : Signals) (limits : Limits) (request : Request)

/-- Whether the loop that works off a queue comes from one progress to another. -/
inductive ComesTo (start : Progress σ) : Progress σ → Prop
  | start : ComesTo start start
  | goOn {progress after : Progress σ} {node : Node} {rest : List Node}
      (comes : ComesTo start progress)
      (goes : signals.interruption? limits progress.expanded = none)
      (first : progress.next.toList = node :: rest)
      (taken : dequeue view signals limits request progress node rest = (after, none)) :
      ComesTo start after

/-- Whether the loop takes a node up when its view is in this state. -/
def Takes (start : Progress σ) (node : Node) (before : σ) : Prop :=
  ∃ progress rest, ComesTo view signals limits request start progress ∧
    signals.interruption? limits progress.expanded = none ∧
    progress.next.toList = node :: rest ∧ progress.state = before

end Moments

/-! ## The rules -/

/-- Whether a member was offered at a node.  `takes` says in which states of the view the search
takes a node up, and `now` is the arena that it has come to. -/
inductive Offered (view : ProgramView σ) (site : CallSite) (takes : Node → σ → Prop)
    (now : TypeArena) (node : Node) (member : Member) : Prop
  /-- An accessible member of the node's type, static if the node is a type, with a result that
  is neither void nor built in right after the members have been asked for. -/
  | declared (members : List Member) (before asked : σ)
      (taken : takes node before)
      (answered : view.members before node.type site = (.ok members, asked))
      (listed : member ∈ members)
      (accessible : member.accessible = true)
      (static : member.isStatic = node.isStatic)
      (valued : (view.arena asked).isVoid member.result = false)
      (reference : (view.arena asked).isPrimitive member.result = false)
      (grown : (view.arena asked).GrowsTo now)
  /-- The entries of an array that is a value, once the members have been asked for. -/
  | entries (members : List Member) (before asked : σ) (component : TypeId)
      (taken : takes node before)
      (answered : view.members before node.type site = (.ok members, asked))
      (value : node.isStatic = false)
      (array : ((view.arena asked).component? node.type).1 = some component)
      (stored : now.component? node.type = (some component, now))
      (same : member = Member.ofArrayElement node.type component)

/-- Whether each access of a path from a root was offered, at the node that the accesses before
it lead to. -/
def AllOffered (view : ProgramView σ) (site : CallSite) (takes : Node → σ → Prop)
    (now : TypeArena) (root : Binding) (path : List Access) : Prop :=
  ∀ place access, path[place]? = some access →
    ∃ node : Node, node.root = root ∧ node.path = path.take place ∧
      node.type = access.receiver ∧ Offered view site takes now node access.member

/-- What holds of every node that waits. -/
structure SoundNode (view : ProgramView σ) (answers : Answers) (request : Request)
    (limits : Limits) (takes : Node → σ → Prop) (now : TypeArena) (node : Node) : Prop where
  origin : (node.root ∈ request.roots ∧ node.bound = limits.maxDepth) ∨
    (node.root ∈ request.companions ∧ node.bound = min limits.maxDepth companionDepth)
  short : node.path.length < node.bound
  linked : Access.Lead node.root.type node.path node.type
  offered : AllOffered view request.callSite takes now node.root node.path
  unfit : ∀ access ∈ node.path,
    answers.assignable access.member.result request.target = .ok false
  acyclic : (node.root.type :: node.path.map (·.member.result)).Nodup

/-- Whether a chain obeys the rules of a search that takes nodes up in these states of its view
and has come to the arena `now`. -/
structure SoundChain (view : ProgramView σ) (answers : Answers) (request : Request)
    (limits : Limits) (takes : Node → σ → Prop) (now : TypeArena) (chain : Chain) : Prop where
  /-- The chain starts where it may, and is no longer than it may be from there. -/
  origin : (chain.root ∈ request.roots ∧ chain.length ≤ limits.maxDepth) ∨
    (chain.root ∈ request.companions ∧ chain.length ≤ min limits.maxDepth companionDepth)
  /-- No chain is a root alone. -/
  nonempty : 1 ≤ chain.length
  /-- Each access is made on what precedes it, and the last one gives the result. -/
  linked : Access.Lead chain.root.type chain.accesses chain.result
  /-- Each member was offered where its access is made. -/
  offered : AllOffered view request.callSite takes now chain.root chain.accesses
  /-- The result fits the target. -/
  fits : answers.assignable chain.result request.target = .ok true
  /-- No result on the way does. -/
  unfit : ∀ access ∈ chain.accesses.dropLast,
    answers.assignable access.member.result request.target = .ok false
  /-- The types before the last access all differ. -/
  acyclic : (chain.root.type :: chain.accesses.dropLast.map (·.member.result)).Nodup
  /-- The typed text selects the chain. -/
  selected : ∃ last, chain.lastMember? = some last ∧
    matchesTyped (foldName request.typed) chain.root last = true

variable {view : ProgramView σ} {answers : Answers} {request : Request} {limits : Limits}
  {takes : Node → σ → Prop} {now later : TypeArena}

/-! ## Growth keeps what is sound -/

theorem Offered.mono {site : CallSite} {node : Node} {member : Member}
    (offered : Offered view site takes now node member) (grows : now.GrowsTo later) :
    Offered view site takes later node member := by
  cases offered with
  | declared members before asked taken answered listed accessible static valued reference grown =>
      exact .declared members before asked taken answered listed accessible static valued
        reference (grown.trans grows)
  | entries members before asked component taken answered value array stored same =>
      have known : (now.component? node.type).2.GrowsTo later := by rwa [stored]
      exact .entries members before asked component taken answered value array
        (TypeArena.component?_of_growsTo (by rw [stored]) known) same

theorem AllOffered.mono {site : CallSite} {root : Binding} {path : List Access}
    (offered : AllOffered view site takes now root path) (grows : now.GrowsTo later) :
    AllOffered view site takes later root path := by
  intro place access found
  obtain ⟨node, sameRoot, samePath, receiver, here⟩ := offered place access found
  exact ⟨node, sameRoot, samePath, receiver, here.mono grows⟩

theorem SoundNode.mono {node : Node}
    (sound : SoundNode view answers request limits takes now node) (grows : now.GrowsTo later) :
    SoundNode view answers request limits takes later node :=
  { sound with offered := sound.offered.mono grows }

theorem SoundChain.mono {chain : Chain}
    (sound : SoundChain view answers request limits takes now chain)
    (grows : now.GrowsTo later) : SoundChain view answers request limits takes later chain :=
  { sound with offered := sound.offered.mono grows }

/-! ## One access more -/

section Extend

variable {node : Node} {member : Member}

/-- A path stays offered with one more member that is offered where it leads. -/
theorem SoundNode.offered_pathTo (sound : SoundNode view answers request limits takes now node)
    (offered : Offered view request.callSite takes now node member) :
    AllOffered view request.callSite takes now node.root (node.pathTo member) := by
  intro place access found
  rw [Node.pathTo] at found ⊢
  by_cases old : place < node.path.length
  · rw [List.getElem?_append_left old] at found
    rw [List.take_append_of_le_length old.le]
    exact sound.offered place access found
  · rw [List.getElem?_append_right (Nat.le_of_not_lt old), List.getElem?_singleton] at found
    split at found
    · next zero =>
        obtain rfl : Access.mk member node.type = access := Option.some.inj found
        obtain rfl : place = node.path.length := by omega
        exact ⟨node, rfl, (List.take_left ..).symm, rfl, offered⟩
    · simp at found

/-- The node that a member leads to is sound. -/
theorem SoundNode.extend (sound : SoundNode view answers request limits takes now node)
    (offered : Offered view request.callSite takes now node member)
    (unfit : answers.assignable member.result request.target = .ok false)
    (grows : node.mayExtend member = true) :
    SoundNode view answers request limits takes now (node.extend member) := by
  simp only [Node.mayExtend, Bool.and_eq_true, decide_eq_true_eq, Bool.not_eq_true',
    Node.hasPassed, Bool.or_eq_false_iff, decide_eq_false_iff_not, List.any_eq_false] at grows
  obtain ⟨short, notRoot, notPassed⟩ := grows
  refine ⟨sound.origin, ?_, ?_, sound.offered_pathTo offered, ?_, ?_⟩
  · simpa [Node.extend, Node.pathTo] using short
  · exact Access.lead_append_single.2 ⟨sound.linked, rfl⟩
  · intro access found
    rcases List.mem_append.1 found with old | new
    · exact sound.unfit access old
    · rw [List.mem_singleton.1 new]
      exact unfit
  · have old := sound.acyclic
    simp only [Node.extend, Node.pathTo, List.map_append, List.map_singleton]
    rw [← List.cons_append, List.nodup_append]
    refine ⟨old, by simp, ?_⟩
    intro type earlier result isResult equal
    rw [List.mem_singleton] at isResult
    subst isResult equal
    rcases List.mem_cons.1 earlier with isRoot | onPath
    · exact notRoot isRoot.symm
    · obtain ⟨access, found, same⟩ := List.mem_map.1 onPath
      exact notPassed access found (by simpa using same)

/-- The chain that a member completes is sound. -/
theorem SoundNode.complete (sound : SoundNode view answers request limits takes now node)
    (offered : Offered view request.callSite takes now node member)
    (fits : answers.assignable member.result request.target = .ok true)
    (selected : matchesTyped (foldName request.typed) node.root member = true) :
    SoundChain view answers request limits takes now (node.complete member) := by
  have dropped : (node.complete member).accesses.dropLast = node.path := by
    simp [Node.complete, Node.pathTo]
  have length : (node.complete member).length = node.path.length + 1 := by
    simp [Chain.length, Node.complete, Node.pathTo]
  have short := sound.short
  refine ⟨?_, by omega, ?_, sound.offered_pathTo offered, fits, ?_, ?_, member, ?_, selected⟩
  · rw [length]
    rcases sound.origin with ⟨isRoot, bound⟩ | ⟨isCompanion, bound⟩
    · exact Or.inl ⟨isRoot, by omega⟩
    · exact Or.inr ⟨isCompanion, by omega⟩
  · exact Access.lead_append_single.2 ⟨sound.linked, rfl⟩
  · rw [dropped]
    exact sound.unfit
  · rw [dropped]
    exact sound.acyclic
  · simp [Chain.lastMember?, Node.complete, Node.pathTo]

end Extend

/-! ## Steps -/

/-- Whether all chains recorded and all nodes that wait are sound. -/
structure SoundProgress (view : ProgramView σ) (answers : Answers) (request : Request)
    (limits : Limits) (takes : Node → σ → Prop) (progress : Progress σ) : Prop where
  chains : ∀ chain ∈ progress.chains,
    SoundChain view answers request limits takes (view.arena progress.state) chain
  next : ∀ node ∈ progress.next,
    SoundNode view answers request limits takes (view.arena progress.state) node

/-- A search that only moves its view on stays sound. -/
theorem SoundProgress.move {progress after : Progress σ}
    (sound : SoundProgress view answers request limits takes progress)
    (grows : (view.arena progress.state).GrowsTo (view.arena after.state))
    (sameChains : after.chains = progress.chains) (sameNext : after.next = progress.next) :
    SoundProgress view answers request limits takes after where
  chains chain found := (sound.chains chain (sameChains ▸ found)).mono grows
  next node found := (sound.next node (sameNext ▸ found)).mono grows

/-- Dealing with a candidate keeps a search sound. -/
theorem visitMember_sound (functional : view.Functional answers) {progress : Progress σ}
    {node : Node} {member : Member}
    (sound : SoundProgress view answers request limits takes progress)
    (soundNode : SoundNode view answers request limits takes (view.arena progress.state) node)
    (offered : Offered view request.callSite takes (view.arena progress.state) node member) :
    SoundProgress view answers request limits takes
      (visitMember view limits request.target (foldName request.typed) node progress member).1 := by
  have step := visitMember_step view limits request.target (foldName request.typed) node
    progress member
  have grows := step.growsTo functional.toKeepsTypes
  have answered := functional.assignable_eq progress.state member.result request.target
  generalize visitMember view limits request.target (foldName request.typed) node
    progress member = result at step grows ⊢
  cases step with
  | recorded asked selected =>
      rw [asked] at answered
      refine ⟨?_, fun other found => (sound.next other found).mono grows⟩
      intro chain found
      rcases Array.mem_push.1 found with old | new
      · exact (sound.chains chain old).mono grows
      · rw [new]
        exact (soundNode.complete offered answered.symm selected).mono grows
  | waits asked mayGrow room =>
      rw [asked] at answered
      refine ⟨fun chain found => (sound.chains chain found).mono grows, ?_⟩
      intro other found
      rcases Array.mem_push.1 found with old | new
      · exact (sound.next other old).mono grows
      · rw [new]
        exact (soundNode.extend offered answered.symm mayGrow).mono grows
  | _ => exact sound.move grows rfl rfl

/-- What a node offers once its members have been asked for was offered there. -/
theorem offered_of_mem_choices {site : CallSite} {node : Node} {members : List Member}
    {before asked : σ} {member : Member} (taken : takes node before)
    (answered : view.members before node.type site = (.ok members, asked))
    (found : member ∈ node.choices (view.arena asked) members) :
    Offered view site takes (node.arenaAfter (view.arena asked)) node member := by
  rcases Node.mem_choices found with ⟨listed, admitted⟩ | ⟨value, component, array, same⟩
  · simp only [Node.admits, Bool.and_eq_true, decide_eq_true_eq, Bool.not_eq_true'] at admitted
    obtain ⟨⟨⟨accessible, static⟩, valued⟩, reference⟩ := admitted
    exact .declared members before asked taken answered listed accessible static valued reference
      (node.arenaAfter_growsTo _)
  · have after : node.arenaAfter (view.arena asked) =
        ((view.arena asked).component? node.type).2 := by
      simp [Node.arenaAfter, value]
    rw [after]
    exact .entries members before asked component taken answered value array
      (TypeArena.component?_of_growsTo array (TypeArena.GrowsTo.refl _)) same

/-- Dealing with a node that is taken up keeps a search sound. -/
theorem visitNode_sound (functional : view.Functional answers) (signals : Signals)
    {progress : Progress σ} {node : Node}
    (sound : SoundProgress view answers request limits takes progress)
    (soundNode : SoundNode view answers request limits takes (view.arena progress.state) node)
    (isTaken : takes node progress.state) :
    SoundProgress view answers request limits takes
      (visitNode view signals limits request progress node).1 := by
  have step := visitNode_step view signals limits request progress node
  have grows := step.growsTo functional.toKeepsTypes
  have asks := functional.members_growsTo progress.state node.type request.callSite
  generalize visitNode view signals limits request progress node = result at step grows ⊢
  cases step with
  | interrupted stops => exact sound
  | unanswered goes asked => exact sound.move grows rfl rfl
  | @expanded members state goes asked =>
      rw [asked] at asks
      have offers : ∀ member ∈ node.choices (view.arena state) members,
          Offered view request.callSite takes (node.arenaAfter (view.arena state)) node member :=
        fun member found => offered_of_mem_choices isTaken asked found
      have stored := node.arena_stateAfter view state
      generalize node.stateAfter view state = after at stored ⊢
      have taken : (view.arena progress.state).GrowsTo (view.arena after) := by
        rw [stored]
        exact asks.trans (node.arenaAfter_growsTo _)
      have start : SoundProgress view answers request limits takes (progress.takeUp after) :=
        sound.move taken rfl rfl
      -- what the node and its candidates were when it was taken up, they stay meanwhile
      refine (@workOff_keeps _ _ _ (fun now => SoundProgress view answers request limits takes now ∧
        (view.arena after).GrowsTo (view.arena now.state)) _ _ ?_ (progress.takeUp after)
        ⟨start, TypeArena.GrowsTo.refl _⟩).1
      rintro member found now ⟨soundNow, grown⟩
      have offered := offers member found
      rw [← stored] at offered
      have soundMember := visitMember_sound functional soundNow
        (soundNode.mono (taken.trans grown)) (offered.mono grown)
      exact ⟨soundMember, grown.trans
        ((visitMember_step _ _ _ _ _ now member).growsTo functional.toKeepsTypes)⟩

/-- Taking a node off the queue keeps a search sound. -/
theorem dequeue_sound (functional : view.Functional answers) (signals : Signals)
    {progress : Progress σ} {node : Node} {rest : List Node}
    (sound : SoundProgress view answers request limits takes progress)
    (first : progress.next.toList = node :: rest) (isTaken : takes node progress.state) :
    SoundProgress view answers request limits takes
      (dequeue view signals limits request progress node rest).1 := by
  have waits : ∀ other ∈ node :: rest,
      SoundNode view answers request limits takes (view.arena progress.state) other := by
    intro other isThere
    rw [← first, Array.mem_toList_iff] at isThere
    exact sound.next other isThere
  rw [List.forall_mem_cons] at waits
  rw [dequeue]
  exact visitNode_sound functional signals ⟨sound.chains, by simpa using waits.2⟩ waits.1 isTaken

/-! ## Runs -/

/-- However a sound search ends, the chains that it has found are sound. -/
theorem SoundProgress.outcome {progress : Progress σ}
    (sound : SoundProgress view answers request limits takes progress) (reason : StopReason) :
    ∀ chain ∈ (progress.outcome reason).1.chains, SoundChain view answers request limits takes
      (view.arena (progress.outcome reason).2) chain :=
  fun chain found => sound.chains chain (Array.mem_toList_iff.1 found)

/-- The loop that works off a queue keeps a search sound, whatever ends it. -/
theorem QueueRun.sound (functional : view.Functional answers) {signals : Signals}
    {start progress : Progress σ} {dequeued : List Node} {outcome : Outcome × σ}
    (queueRun : QueueRun view signals limits request progress dequeued outcome)
    (comes : ComesTo view signals limits request start progress)
    (sound : SoundProgress view answers request limits
      (Takes view signals limits request start) progress) :
    ∀ chain ∈ outcome.1.chains, SoundChain view answers request limits
      (Takes view signals limits request start) (view.arena outcome.2) chain := by
  induction queueRun with
  | interrupted stops => exact sound.outcome _
  | exhausted goes empty => exact sound.outcome _
  | ended goes first taken =>
      have kept := dequeue_sound functional signals sound first ⟨_, _, comes, goes, first, rfl⟩
      rw [taken] at kept
      exact kept.outcome _
  | goOn goes first taken later ih =>
      have kept := dequeue_sound functional signals sound first ⟨_, _, comes, goes, first, rfl⟩
      rw [taken] at kept
      exact ih (comes.goOn goes first taken) kept

/-- The nodes of the first round are sound, if chains may have an access at all. -/
theorem firstNodes_sound (deep : 1 ≤ limits.maxDepth) {node : Node}
    (found : node ∈ request.firstNodes limits) :
    SoundNode view answers request limits takes now node := by
  simp only [Request.firstNodes, List.mem_append, List.mem_map] at found
  have companionDeep : 1 ≤ min limits.maxDepth companionDepth := by
    simp only [companionDepth]
    omega
  rcases found with ⟨root, isRoot, rfl⟩ | ⟨root, isCompanion, rfl⟩
  · exact ⟨Or.inl ⟨isRoot, rfl⟩, deep, rfl, by simp [AllOffered, Node.ofRoot],
      by simp [Node.ofRoot], by simp [Node.ofRoot]⟩
  · exact ⟨Or.inr ⟨isCompanion, rfl⟩, companionDeep, rfl, by simp [AllOffered, Node.ofRoot],
      by simp [Node.ofRoot], by simp [Node.ofRoot]⟩

/-- **Every recorded chain obeys the rules**, whatever the limits are and however the
search ends; each of its members was offered when the search took up the node before it. -/
theorem run_chains_sound (functional : view.Functional answers) (signals : Signals)
    (limits : Limits) (request : Request) (state : σ) (deep : 1 ≤ limits.maxDepth) :
    ∀ chain ∈ (run view signals limits request state).1.chains,
      SoundChain view answers request limits
        (Takes view signals limits request (firstQueue limits request state))
        (view.arena (run view signals limits request state).2) chain := by
  obtain ⟨dequeued, queueRun⟩ := run_queueRun view signals limits request state
  refine queueRun.sound functional .start ⟨by simp [firstQueue], ?_⟩
  intro node isFirst
  exact firstNodes_sound deep (by simpa [firstQueue] using isFirst)

/-- `board.cells[i][j]` obeys the rules, although neither the rows that it leads through nor
`int`, which the other members give, are known at first. -/
theorem run_chains_sound_board :
    1 ≤ boxLimits.maxDepth ∧
    (run (boardView CursorSite.unknown) Signals.quiet boxLimits boardRequest
      boardArena).1.chains.map Chain.length = [3] ∧
    ∀ chain ∈ (run (boardView CursorSite.unknown) Signals.quiet boxLimits boardRequest
        boardArena).1.chains,
      SoundChain (boardView CursorSite.unknown) boardAnswers boardRequest boxLimits
        (Takes (boardView CursorSite.unknown) Signals.quiet boxLimits boardRequest
          (firstQueue boxLimits boardRequest boardArena))
        (run (boardView CursorSite.unknown) Signals.quiet boxLimits boardRequest boardArena).2
        chain :=
  ⟨by decide, by decide,
    run_chains_sound (boardView_functional CursorSite.unknown) Signals.quiet boxLimits
      boardRequest boardArena (by decide)⟩

end Search

end ChainCompletion
