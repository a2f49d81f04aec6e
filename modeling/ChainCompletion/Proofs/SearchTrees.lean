/-
# Proofs.SearchTrees -- a search on trees

The same search with trees in place of numbers and without an arena: the nodes, members and
chains carry trees (`TreeNode`, `TreeMember`, `TreeChain`), and the questions are put to the
declarations directly.  It depends on the first state of a catalog alone.

A search in a later state of that catalog does the same step by step: dealing with a
candidate (`visitMember_means`), with a node (`visitNode_means`), with the rounds
(`runRounds_means`).  So its chains mean those of the search on trees, in the same order, and
it ends for the same reason (`run_means`).
-/
import ChainCompletion.Proofs.CatalogTrees
import ChainCompletion.Proofs.SearchSteps

namespace ChainCompletion

open Denotes

set_option autoImplicit false

namespace TypeTree

/-- Whether the values of the type are built in. -/
def isPrimitive (tree : TypeTree) : Bool :=
  tree.kind = .primitive && tree.dims = 0

end TypeTree

/-- Whether the binding is a type rather than a value. -/
def TreeBinding.isStatic (binding : TreeBinding) : Bool :=
  binding.kind = .staticType

/-- The entries of an array. -/
def TreeMember.ofArrayElement (owner component : TypeTree) : TreeMember :=
  ⟨owner, "[]", .arrayElement, [], component, false, true⟩

namespace Search

/-! ## The search on trees -/

/-- A place that a chain has reached. -/
structure TreeNode where
  root : TreeBinding
  bound : Nat
  type : TypeTree
  path : List (TreeMember × TypeTree)

namespace TreeNode

/-- Whether the node is a type that stands for its static members. -/
def isStatic (node : TreeNode) : Bool :=
  node.path.isEmpty && node.root.isStatic

/-- Whether a member of the node's type is worth following. -/
def admits (node : TreeNode) (member : TreeMember) : Bool :=
  member.accessible && member.isStatic = node.isStatic &&
    !decide (member.result.kind = .void) && !member.result.isPrimitive

/-- The path with one access more. -/
def pathTo (node : TreeNode) (member : TreeMember) : List (TreeMember × TypeTree) :=
  node.path ++ [(member, node.type)]

/-- Whether the type is that of the root or of an access on the way. -/
def hasPassed (node : TreeNode) (type : TypeTree) : Bool :=
  node.root.type = type || node.path.any fun access => access.1.result = type

/-- The chain that a member completes. -/
def complete (node : TreeNode) (member : TreeMember) : TreeChain :=
  ⟨node.root, node.pathTo member, member.result⟩

/-- The place that a member leads to. -/
def extend (node : TreeNode) (member : TreeMember) : TreeNode :=
  ⟨node.root, node.bound, member.result, node.pathTo member⟩

/-- Whether a chain through a member may go on after it. -/
def mayExtend (node : TreeNode) (member : TreeMember) : Bool :=
  node.path.length + 1 < node.bound && !node.hasPassed member.result

/-- The entries of the node's type, if it is an array and the node a value. -/
def entries (node : TreeNode) : List TreeMember :=
  if node.isStatic then []
  else node.type.component?.toList.map (TreeMember.ofArrayElement node.type)

/-- What the node offers, given the members of its type. -/
def choices (node : TreeNode) (members : List TreeMember) : List TreeMember :=
  members.filter node.admits ++ node.entries

end TreeNode

/-- Whether a chain from `root` whose last member is `last` starts with the typed text. -/
def matchesTypedTree (typed : List Char) (root : TreeBinding) (last : TreeMember) : Bool :=
  typed.isEmpty || typed.isPrefixOf (foldName root.name) ||
    (last.kind ≠ .arrayElement && typed.isPrefixOf (foldName last.name))

/-- What to search for. -/
structure TreeRequest where
  target : TypeTree
  roots : List TreeBinding
  companions : List TreeBinding
  callSite : CallSite
  typed : String

/-- How far a search has come. -/
structure TreeProgress where
  chains : List TreeChain
  next : List TreeNode
  waiting : Nat
  pruned : Nat
  expanded : Nat
  refused : Nat

section Trees

variable (base : Catalog) (stops : Nat → Option StopReason) (limits : Limits)
  (request : TreeRequest)

/-- Deals with one candidate of a node. -/
def visitMemberTree (node : TreeNode) (progress : TreeProgress) (member : TreeMember) :
    TreeProgress × Option StopReason :=
  match base.assignableTree member.result request.target with
  | .error _ => ({ progress with pruned := progress.pruned + 1 }, none)
  | .ok true =>
      if matchesTypedTree (foldName request.typed) node.root member then
        ({ progress with chains := progress.chains ++ [node.complete member] },
          if limits.maxResults ≤ progress.chains.length + 1 then some .resultLimit else none)
      else (progress, none)
  | .ok false =>
      if node.mayExtend member then
        if progress.waiting < limits.maxFrontier then
          ({ progress with
              next := progress.next ++ [node.extend member]
              waiting := progress.waiting + 1 }, none)
        else ({ progress with refused := progress.refused + 1 }, none)
      else (progress, none)

/-- Looks at one node, unless the search is interrupted first. -/
def visitNodeTree (progress : TreeProgress) (node : TreeNode) :
    TreeProgress × Option StopReason :=
  match stops progress.expanded with
  | some reason => (progress, some reason)
  | none =>
      let progress :=
        { progress with expanded := progress.expanded + 1, waiting := progress.waiting - 1 }
      match base.decls.memberTrees base.arena node.type request.callSite with
      | .error _ => ({ progress with pruned := progress.pruned + 1 }, none)
      | .ok members => workOff (visitMemberTree base limits request node) progress (node.choices members)

/-- Runs rounds until one has no nodes. -/
def runRoundsTree : Nat → TreeProgress → List TreeNode → TreeProgress × StopReason
  | 0, progress, _ => (progress, (stops progress.expanded).getD .exhausted)
  | _ + 1, progress, [] => (progress, (stops progress.expanded).getD .exhausted)
  | rounds + 1, progress, nodes =>
      match workOff (visitNodeTree base stops limits request) { progress with next := [] } nodes with
      | (progress, some reason) => (progress, reason)
      | (progress, none) => runRoundsTree rounds progress progress.next

/-- The nodes of the first round. -/
def TreeRequest.firstNodes (request : TreeRequest) : List TreeNode :=
  request.roots.map (fun root => ⟨root, limits.maxDepth, root.type, []⟩) ++
    request.companions.map fun root => ⟨root, min limits.maxDepth companionDepth, root.type, []⟩

/-- The chains that a search finds, and why it ends. -/
def runTree : List TreeChain × StopReason :=
  let nodes := request.firstNodes limits
  let (progress, reason) := runRoundsTree base stops limits request limits.rounds
    ⟨[], [], nodes.length, 0, 0, 0⟩ nodes
  (progress.chains, reason)

end Trees

/-! ## Nodes -/

instance : Denotes Node TreeNode where
  Known arena node := Known arena node.root ∧ arena.Knows node.type ∧ Known arena node.path
  meaning arena node :=
    ⟨meaning arena node.root, node.bound, arena.tree node.type, meaning arena node.path⟩
  known_of_growsTo grows known :=
    ⟨known_of_growsTo grows known.1, grows.knows known.2.1, known_of_growsTo grows known.2.2⟩
  meaning_of_growsTo ordered grows known := by
    rw [meaning_of_growsTo ordered grows known.1, TypeArena.tree_of_growsTo ordered grows known.2.1,
      meaning_of_growsTo ordered grows known.2.2]
  meaning_inj {arena node other} ordered known known' same := by
    obtain ⟨root, bound, type, path⟩ := node
    obtain ⟨root', bound', type', path'⟩ := other
    simp only [TreeNode.mk.injEq] at same
    obtain ⟨sameRoot, rfl, sameType, samePath⟩ := same
    obtain rfl : root = root' := meaning_inj ordered known.1 known'.1 sameRoot
    obtain rfl : type = type' := TypeArena.tree_inj ordered known.2.1 known'.2.1 sameType
    obtain rfl : path = path' := meaning_inj ordered known.2.2 known'.2.2 samePath
    rfl

section Nodes

variable {arena : TypeArena} {node : Node} {member : Member}

theorem isStatic_meaning (arena : TypeArena) (node : Node) :
    (meaning arena node).isStatic = node.isStatic := by
  have path : (meaning arena node.path).isEmpty = node.path.isEmpty := List.isEmpty_map
  show ((meaning arena node.path).isEmpty && _) = _
  rw [path]
  rfl

theorem known_pathTo (known : Known arena node) (knownMember : Known arena member) :
    Known arena (node.pathTo member) :=
  known_append.2 ⟨known.2.2, known_singleton.2 ⟨knownMember, known.2.1⟩⟩

theorem pathTo_meaning (arena : TypeArena) (node : Node) (member : Member) :
    meaning arena (node.pathTo member) = (meaning arena node).pathTo (meaning arena member) :=
  meaning_append

theorem known_complete (known : Known arena node) (knownMember : Known arena member) :
    Known arena (node.complete member) :=
  ⟨known.1, known_pathTo known knownMember, knownMember.2.2⟩

theorem complete_meaning (arena : TypeArena) (node : Node) (member : Member) :
    meaning arena (node.complete member) = (meaning arena node).complete (meaning arena member) := by
  show TreeChain.mk _ (meaning arena (node.pathTo member)) _ = _
  rw [pathTo_meaning]
  rfl

theorem known_extend (known : Known arena node) (knownMember : Known arena member) :
    Known arena (node.extend member) :=
  ⟨known.1, knownMember.2.2, known_pathTo known knownMember⟩

theorem extend_meaning (arena : TypeArena) (node : Node) (member : Member) :
    meaning arena (node.extend member) = (meaning arena node).extend (meaning arena member) := by
  show TreeNode.mk _ _ _ (meaning arena (node.pathTo member)) = _
  rw [pathTo_meaning]
  rfl

variable (ordered : arena.Ordered)

include ordered

theorem admits_meaning (node : Node) (knownMember : Known arena member) :
    node.admits arena member = (meaning arena node).admits (meaning arena member) := by
  rw [Node.admits, TreeNode.admits, isStatic_meaning,
    TypeArena.isVoid_eq ordered knownMember.2.2, TypeArena.isPrimitive_eq ordered knownMember.2.2]
  rfl

/-- A type has been passed when its tree has. -/
theorem hasPassed_meaning {type : TypeId} (known : Known arena node) (knownType : arena.Knows type) :
    node.hasPassed type = (meaning arena node).hasPassed (arena.tree type) := by
  have passes : ∀ other, arena.Knows other → (other = type ↔ arena.tree other = arena.tree type) :=
    fun other knownOther => ⟨fun same => by rw [same], TypeArena.tree_inj ordered knownOther knownType⟩
  have path : (node.path.any fun access => access.member.result = type) =
      (meaning arena node.path).any fun access => access.1.result = arena.tree type := by
    show _ = List.any (node.path.map (meaning arena)) _
    rw [List.any_map, Bool.eq_iff_iff, List.any_eq_true, List.any_eq_true]
    refine exists_congr fun access => and_congr_right fun isAccess => ?_
    rw [decide_eq_true_iff, passes _ (known.2.2 access isAccess).1.2.2]
    simp only [Function.comp, decide_eq_true_iff]
    rfl
  rw [Node.hasPassed, TreeNode.hasPassed, path, decide_eq_decide.2 (passes _ known.1)]
  rfl

theorem mayExtend_meaning (known : Known arena node) (knownMember : Known arena member) :
    node.mayExtend member = (meaning arena node).mayExtend (meaning arena member) := by
  have length : (meaning arena node).path.length = node.path.length := List.length_map _
  rw [Node.mayExtend, TreeNode.mayExtend, length,
    hasPassed_meaning ordered known knownMember.2.2]
  rfl

theorem entries_yields (known : Known arena node) :
    arena.Yields (node.entries arena, node.arenaAfter arena) (meaning arena node).entries := by
  rw [Node.entries, Node.arenaAfter, TreeNode.entries, isStatic_meaning]
  cases node.isStatic with
  | true => exact TypeArena.Yields.nil ordered
  | false =>
      have asked := TypeArena.component?_yields ordered known.2.1
      simp only [Bool.false_eq_true, if_false]
      have tree : (meaning arena node).type = arena.tree node.type := rfl
      rw [tree, ← asked.means]
      generalize arena.component? node.type = result at asked ⊢
      obtain ⟨component?, after⟩ := result
      have knownType : after.Knows node.type := asked.grows.knows known.2.1
      have same := TypeArena.tree_of_growsTo ordered asked.grows known.2.1
      cases component? with
      | none => exact ⟨asked.grows, asked.ordered, known_nil, rfl⟩
      | some component =>
          refine ⟨asked.grows, asked.ordered,
            known_singleton.2 ⟨knownType, known_nil, asked.known component rfl⟩, ?_⟩
          rw [← same]
          rfl

/-- What a node offers is what it offers on trees. -/
theorem choices_yields {members : List Member} (known : Known arena node)
    (knownMembers : Known arena members) :
    arena.Yields (node.choices arena members, node.arenaAfter arena)
      ((meaning arena node).choices (meaning arena members)) := by
  have worthy : meaning arena (members.filter (node.admits arena)) =
      (meaning arena members).filter (meaning arena node).admits :=
    meaning_filter fun member isMember =>
      admits_meaning ordered node (knownMembers member isMember)
  have knownWorthy := known_filter knownMembers (node.admits arena)
  rw [Node.choices, TreeNode.choices, ← worthy]
  exact (entries_yields ordered known).prepend ordered knownWorthy

end Nodes

/-! ## Steps -/

instance : Denotes Request TreeRequest where
  Known arena request :=
    arena.Knows request.target ∧ Known arena request.roots ∧ Known arena request.companions
  meaning arena request :=
    ⟨arena.tree request.target, meaning arena request.roots, meaning arena request.companions,
      request.callSite, request.typed⟩
  known_of_growsTo grows known :=
    ⟨grows.knows known.1, known_of_growsTo grows known.2.1, known_of_growsTo grows known.2.2⟩
  meaning_of_growsTo ordered grows known := by
    rw [TypeArena.tree_of_growsTo ordered grows known.1, meaning_of_growsTo ordered grows known.2.1,
      meaning_of_growsTo ordered grows known.2.2]
  meaning_inj {arena request other} ordered known known' same := by
    obtain ⟨target, roots, companions, callSite, typed⟩ := request
    obtain ⟨target', roots', companions', callSite', typed'⟩ := other
    simp only [TreeRequest.mk.injEq] at same
    obtain ⟨sameTarget, sameRoots, sameCompanions, rfl, rfl⟩ := same
    obtain rfl : target = target' := TypeArena.tree_inj ordered known.1 known'.1 sameTarget
    obtain rfl : roots = roots' := meaning_inj ordered known.2.1 known'.2.1 sameRoots
    obtain rfl : companions = companions' := meaning_inj ordered known.2.2 known'.2.2 sameCompanions
    rfl

/-- Whether a search in a later state of a catalog has come as far as one on trees, and
its arena has grown from `start`. -/
structure Progress.Means (base : Catalog) (start : TypeArena) (progress : Progress Catalog)
    (trees : TreeProgress) : Prop where
  continues : base.Continues progress.state
  grown : start.GrowsTo progress.state.arena
  chains : progress.state.arena.Means progress.chains.toList trees.chains
  next : progress.state.arena.Means progress.next.toList trees.next
  waiting : progress.waiting = trees.waiting
  pruned : progress.pruned = trees.pruned
  expanded : progress.expanded = trees.expanded
  refused : progress.refused = trees.refused

section Steps

variable {base : Catalog} {start : TypeArena} (limits : Limits) {request : Request}
  {progress : Progress Catalog} {trees : TreeProgress}

theorem Progress.Means.ordered (means : progress.Means base start trees) : start.Ordered :=
  means.continues.ordered.of_growsTo means.grown

/-- A search whose state has changed has come as far as before. -/
theorem Progress.Means.move (means : progress.Means base start trees) {state : Catalog}
    (continues : base.Continues state) (grows : progress.state.arena.GrowsTo state.arena) :
    Progress.Means base start { progress with state := state } trees :=
  { means with
    continues := continues
    grown := means.grown.trans grows
    chains := means.chains.of_growsTo means.continues.ordered grows
    next := means.next.of_growsTo means.continues.ordered grows }

/-- The arena has also grown from any earlier one. -/
theorem Progress.Means.since {earlier : TypeArena} (means : progress.Means base start trees)
    (grown : earlier.GrowsTo start) : progress.Means base earlier trees :=
  { means with grown := grown.trans means.grown }

variable (wellScoped : base.WellScoped)

include wellScoped

/-- Questions lead from later states to later states. -/
theorem view_keeps_continues : Catalog.view.Keeps base.Continues where
  members _ type site continues := continues.members wellScoped type site
  assignable _ source target continues := continues.assignable wellScoped source target
  component _ type continues := continues.component? type

/-- What a search is told about a candidate, it is told on trees. -/
theorem Progress.Means.assignable (means : progress.Means base start trees) {member : Member}
    (knownRequest : Known start request) (knownMember : Known start member)
    {answer : Except LookupError Bool} {state : Catalog}
    (answered : Catalog.view.assignable progress.state member.result request.target =
      (answer, state)) :
    base.assignableTree (meaning start member).result (meaning start request).target = answer ∧
      Progress.Means base start { progress with state := state } trees := by
  have knownMember' := known_of_growsTo means.grown knownMember
  have knownRequest' := known_of_growsTo means.grown knownRequest
  have asked := Catalog.assignable_yields means.continues wellScoped knownMember'.2.2 knownRequest'.1
  rw [show progress.state.assignable member.result request.target = (answer, state) from answered]
    at asked
  refine ⟨?_, means.move asked.continues asked.grows⟩
  rw [← meaning_of_growsTo means.ordered means.grown knownMember,
    ← meaning_of_growsTo means.ordered means.grown knownRequest]
  refine asked.means.symm.trans ?_
  cases answer <;> rfl

/-- Dealing with a candidate is mirrored on trees. -/
theorem visitMember_means (means : progress.Means base start trees) {node : Node} {member : Member}
    (knownRequest : Known start request) (knownNode : Known start node)
    (knownMember : Known start member) :
    (visitMember Catalog.view limits request.target (foldName request.typed) node progress
        member).1.Means base start
      (visitMemberTree base limits (meaning start request) (meaning start node) trees
        (meaning start member)).1 ∧
    (visitMember Catalog.view limits request.target (foldName request.typed) node progress
        member).2 =
      (visitMemberTree base limits (meaning start request) (meaning start node) trees
        (meaning start member)).2 := by
  have step := visitMember_step Catalog.view limits request.target (foldName request.typed) node
    progress member
  have extends_eq := mayExtend_meaning means.ordered knownNode knownMember
  have size : progress.chains.size = trees.chains.length := by
    rw [← means.chains.eq]
    simp [meaning]
  generalize visitMember Catalog.view limits request.target (foldName request.typed) node progress
    member = result at step ⊢
  rw [visitMemberTree]
  cases step with
  | unanswered answered =>
      obtain ⟨tree, moved⟩ := means.assignable wellScoped knownRequest knownMember answered
      simp only [tree]
      exact ⟨{ moved with pruned := by rw [← moved.pruned] }, trivial⟩
  | @recorded state answered selected =>
      obtain ⟨tree, moved⟩ := means.assignable wellScoped knownRequest knownMember answered
      have matched : matchesTypedTree (foldName (meaning start request).typed)
          (meaning start node).root (meaning start member) = true := selected
      have completed : state.arena.Means (node.complete member)
          ((meaning start node).complete (meaning start member)) :=
        TypeArena.Means.of_growsTo ⟨known_complete knownNode knownMember, complete_meaning _ _ _⟩
          means.ordered moved.grown
      simp only [tree, matched, if_true, ← size]
      refine ⟨{ moved with chains := ?_ }, trivial⟩
      rw [Array.toList_push]
      exact moved.chains.append completed.singleton
  | unselected answered other =>
      obtain ⟨tree, moved⟩ := means.assignable wellScoped knownRequest knownMember answered
      have unmatched : matchesTypedTree (foldName (meaning start request).typed)
          (meaning start node).root (meaning start member) = false := other
      simp only [tree, unmatched, Bool.false_eq_true, if_false]
      exact ⟨moved, trivial⟩
  | @waits state answered allowed room =>
      obtain ⟨tree, moved⟩ := means.assignable wellScoped knownRequest knownMember answered
      have extended : state.arena.Means (node.extend member)
          ((meaning start node).extend (meaning start member)) :=
        TypeArena.Means.of_growsTo ⟨known_extend knownNode knownMember, extend_meaning _ _ _⟩
          means.ordered moved.grown
      have room' : trees.waiting < limits.maxFrontier := means.waiting ▸ room
      simp only [tree, ← extends_eq, allowed, room', if_true]
      refine ⟨{ moved with next := ?_, waiting := by rw [← means.waiting] }, trivial⟩
      rw [Array.toList_push]
      exact moved.next.append extended.singleton
  | refused answered allowed full =>
      obtain ⟨tree, moved⟩ := means.assignable wellScoped knownRequest knownMember answered
      have full' : ¬ trees.waiting < limits.maxFrontier := Nat.not_lt.2 (means.waiting ▸ full)
      simp only [tree, ← extends_eq, allowed, full', if_true, if_false]
      exact ⟨{ moved with refused := by rw [← means.refused] }, trivial⟩
  | ended answered ends =>
      obtain ⟨tree, moved⟩ := means.assignable wellScoped knownRequest knownMember answered
      simp only [tree, ← extends_eq, ends, Bool.false_eq_true, if_false]
      exact ⟨moved, trivial⟩

/-- Dealing with candidates is mirrored on trees. -/
theorem visitMembers_means (means : progress.Means base start trees) {node : Node}
    (knownRequest : Known start request) (knownNode : Known start node) {members : List Member}
    (knownMembers : Known start members) :
    (workOff (visitMember Catalog.view limits request.target (foldName request.typed) node)
        progress members).1.Means base start
      (workOff (visitMemberTree base limits (meaning start request) (meaning start node)) trees
        (meaning start members)).1 ∧
    (workOff (visitMember Catalog.view limits request.target (foldName request.typed) node)
        progress members).2 =
      (workOff (visitMemberTree base limits (meaning start request) (meaning start node)) trees
        (meaning start members)).2 :=
  @workOff_mirrors _ _ _ _ _ (Progress.Means base start) _ _ (meaning start) members
    (fun member isMember _ _ meansNow => visitMember_means limits wellScoped meansNow knownRequest
      knownNode (knownMembers member isMember)) _ _ means

/-- Dealing with a node is mirrored on trees. -/
theorem visitNode_means (signals : Signals) (means : progress.Means base start trees) {node : Node}
    (knownRequest : Known start request) (knownNode : Known start node) :
    (visitNode Catalog.view signals limits request progress node).1.Means base start
      (visitNodeTree base (signals.interruption? limits) limits (meaning start request) trees
        (meaning start node)).1 ∧
    (visitNode Catalog.view signals limits request progress node).2 =
      (visitNodeTree base (signals.interruption? limits) limits (meaning start request) trees
        (meaning start node)).2 := by
  have step := visitNode_step Catalog.view signals limits request progress node
  have knownNode' := known_of_growsTo means.grown knownNode
  have asked := Catalog.members_yields means.continues wellScoped knownNode'.2.1 request.callSite
  have sameType : progress.state.arena.tree node.type = (meaning start node).type :=
    TypeArena.tree_of_growsTo means.ordered means.grown knownNode.2.1
  rw [sameType] at asked
  have sameSite : (meaning start request).callSite = request.callSite := rfl
  generalize visitNode Catalog.view signals limits request progress node = result at step ⊢
  rw [visitNodeTree, ← means.expanded, sameSite]
  cases step with
  | interrupted stops =>
      simp only [stops]
      exact ⟨means, trivial⟩
  | @unanswered error state goes answered =>
      rw [show progress.state.members node.type request.callSite = (.error error, state) from
        answered] at asked
      have failed : base.decls.memberTrees base.arena (meaning start node).type request.callSite =
          .error error := asked.means.symm
      have moved := means.move asked.continues asked.grows
      simp only [goes, failed]
      exact ⟨{ moved with
        waiting := by rw [← means.waiting]; rfl
        pruned := by rw [← means.pruned]
        expanded := rfl }, trivial⟩
  | @expanded members state goes answered =>
      rw [show progress.state.members node.type request.callSite = (.ok members, state) from
        answered] at asked
      have found : base.decls.memberTrees base.arena (meaning start node).type request.callSite =
          .ok (meaning state.arena members) := asked.means.symm
      have offered := choices_yields asked.continues.ordered
        (known_of_growsTo asked.grows knownNode') (asked.known members rfl)
      have stored : (node.stateAfter Catalog.view state).arena = node.arenaAfter state.arena :=
        node.arena_stateAfter Catalog.view state
      have continues := node.stateAfter_keeps (view_keeps_continues wellScoped) asked.continues
      rw [← stored] at offered
      generalize node.stateAfter Catalog.view state = after at offered continues ⊢
      have grows := asked.grows.trans offered.grows
      have grown : start.GrowsTo after.arena := means.grown.trans grows
      have taken : (progress.takeUp after).Means base after.arena
          { trees with expanded := progress.expanded + 1, waiting := trees.waiting - 1 } :=
        { means.move continues grows with
          grown := TypeArena.GrowsTo.refl _
          waiting := by rw [← means.waiting]; rfl
          expanded := rfl }
      have visited := visitMembers_means limits wellScoped taken (known_of_growsTo grown knownRequest)
        (known_of_growsTo grown knownNode) offered.known
      have candidates : meaning after.arena (node.choices state.arena members) =
          (meaning start node).choices (meaning state.arena members) := by
        rw [← meaning_of_growsTo means.ordered (means.grown.trans asked.grows) knownNode]
        exact offered.means
      rw [candidates, meaning_of_growsTo means.ordered grown knownRequest,
        meaning_of_growsTo means.ordered grown knownNode] at visited
      simp only [goes, found]
      exact ⟨visited.1.since grown, visited.2⟩

/-- Dealing with nodes is mirrored on trees. -/
theorem visitNodes_means (signals : Signals) (means : progress.Means base start trees)
    (knownRequest : Known start request) {nodes : List Node} (knownNodes : Known start nodes) :
    (workOff (visitNode Catalog.view signals limits request) progress nodes).1.Means base start
      (workOff (visitNodeTree base (signals.interruption? limits) limits (meaning start request))
        trees (meaning start nodes)).1 ∧
    (workOff (visitNode Catalog.view signals limits request) progress nodes).2 =
      (workOff (visitNodeTree base (signals.interruption? limits) limits (meaning start request))
        trees (meaning start nodes)).2 :=
  @workOff_mirrors _ _ _ _ _ (Progress.Means base start) _ _ (meaning start) nodes
    (fun node isNode _ _ meansNow => visitNode_means limits wellScoped signals meansNow
      knownRequest (knownNodes node isNode)) _ _ means

/-- Rounds are mirrored on trees. -/
theorem runRounds_means (signals : Signals) (rounds : Nat) {start : TypeArena}
    {progress : Progress Catalog} {trees : TreeProgress} (means : progress.Means base start trees)
    (knownRequest : Known start request) {nodes : List Node} (knownNodes : Known start nodes) :
    (runRounds Catalog.view signals limits request rounds progress nodes).1.Means base start
      (runRoundsTree base (signals.interruption? limits) limits (meaning start request) rounds trees
        (meaning start nodes)).1 ∧
    (runRounds Catalog.view signals limits request rounds progress nodes).2 =
      (runRoundsTree base (signals.interruption? limits) limits (meaning start request) rounds trees
        (meaning start nodes)).2 := by
  have halts : progress.Means base start trees ∧
      (signals.interruption? limits progress.expanded).getD .exhausted =
        (signals.interruption? limits trees.expanded).getD .exhausted :=
    ⟨means, by rw [means.expanded]⟩
  induction rounds generalizing start progress trees nodes with
  | zero => exact halts
  | succ rounds ih =>
      cases nodes with
      | nil => exact halts
      | cons node nodes =>
          have emptied : Progress.Means base start { progress with next := #[] }
              { trees with next := [] } := { means with next := TypeArena.Means.nil }
          obtain ⟨visited, stops⟩ := visitNodes_means limits wellScoped signals emptied
            knownRequest knownNodes
          rw [meaning_cons, runRounds, runRoundsTree, ← meaning_cons]
          · generalize workOff (visitNode Catalog.view signals limits request)
              { progress with next := #[] } (node :: nodes) = result at visited stops ⊢
            generalize workOff (visitNodeTree base (signals.interruption? limits) limits
              (meaning start request)) { trees with next := [] } (meaning start (node :: nodes)) =
              result' at visited stops ⊢
            obtain ⟨after, stop⟩ := result
            obtain ⟨after', stop'⟩ := result'
            simp only at visited stops
            subst stops
            cases stop with
            | some reason => exact ⟨visited, rfl⟩
            | none =>
                -- the next round starts from the arena of this one
                have next : after.Means base after.state.arena after' :=
                  { visited with grown := TypeArena.GrowsTo.refl _ }
                have rest := ih next (known_of_growsTo visited.grown knownRequest)
                  visited.next.known ⟨next, by rw [visited.expanded]⟩
                rw [visited.next.eq, meaning_of_growsTo visited.ordered visited.grown knownRequest]
                  at rest
                exact ⟨rest.1.since visited.grown, rest.2⟩
          · simp
          · simp

omit wellScoped in
theorem firstNodes_means (knownRequest : Known start request) :
    start.Means (request.firstNodes limits) ((meaning start request).firstNodes limits) := by
  have nodes : ∀ (bound : Nat) (roots : List Binding), Known start roots →
      start.Means (roots.map (Node.ofRoot bound))
        ((meaning start roots).map fun root => TreeNode.mk root bound root.type []) := by
    intro bound roots known
    refine ⟨?_, ?_⟩
    · intro node isNode
      obtain ⟨root, isRoot, rfl⟩ := List.mem_map.1 isNode
      exact ⟨known root isRoot, known root isRoot, known_nil⟩
    · show List.map _ (List.map _ _) = List.map _ (List.map _ _)
      rw [List.map_map, List.map_map]
      rfl
  exact (nodes _ _ knownRequest.2.1).append (nodes _ _ knownRequest.2.2)

/-- **A search in a later state of a catalog finds what the search on trees finds**, in the
same order, and ends for the same reason. -/
theorem run_means (signals : Signals) {state : Catalog} (continues : base.Continues state)
    (knownRequest : Known state.arena request) :
    base.Continues (run Catalog.view signals limits request state).2 ∧
      (run Catalog.view signals limits request state).2.arena.Means
        (run Catalog.view signals limits request state).1.chains
        (runTree base (signals.interruption? limits) limits (meaning state.arena request)).1 ∧
      (run Catalog.view signals limits request state).1.reason =
        (runTree base (signals.interruption? limits) limits (meaning state.arena request)).2 := by
  have first := @firstNodes_means state.arena limits request knownRequest
  have start : Progress.Means base state.arena
      ⟨state, #[], #[], (request.firstNodes limits).length, 0, 0, 0⟩
      ⟨[], [], ((meaning state.arena request).firstNodes limits).length, 0, 0, 0⟩ :=
    { continues := continues
      grown := TypeArena.GrowsTo.refl _
      chains := TypeArena.Means.nil
      next := TypeArena.Means.nil
      waiting := by rw [← first.eq]; exact (List.length_map _).symm
      pruned := rfl
      expanded := rfl
      refused := rfl }
  have rounds := runRounds_means limits wellScoped signals limits.rounds start knownRequest
    first.known
  rw [first.eq] at rounds
  exact ⟨rounds.1.continues, rounds.1.chains, rounds.2⟩

end Steps

end Search

end ChainCompletion
