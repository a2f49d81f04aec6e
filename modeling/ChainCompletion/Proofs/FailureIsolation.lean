/-
# Proofs.FailureIsolation -- a failed question costs its branch and nothing else

Two searches ask the same view, but for one of them some questions fail: those for the members
of certain types, and whether certain types fit the target (`ProgramView.failing`).  A chain
is spared if none of its accesses depends on a question that fails (`Failures.spares`).

As long as no place is refused, what looking at a node adds can be read off the rules
(`sweepNode_adds`): the chains and places of its candidates, in order, provided that they find
room.  A failure takes from these what is not spared and leaves the rest in order
(`Rules.foundBy_failing`, `Rules.ledBy_failing`).  So the search that meets failures works off,
round by round, the spared nodes of the other one (`Thins`); fewer nodes wait in it, hence it
refuses none either.

* `sweep_failing`: the sweep that meets failures records the spared chains of the other;
* `run_failing_spares`: so does the search, and it ends by itself.
-/
import ChainCompletion.Proofs.SearchSweep

namespace ChainCompletion

set_option autoImplicit false

variable {σ : Type}

/-! ## Failures -/

/-- Questions that fail, with their errors: for the members of a type, and whether a type fits
the target. -/
structure Failures where
  members : TypeId → Option LookupError
  assignable : TypeId → Option LookupError

/-- Whether none of these accesses depends on a question that fails. -/
def Failures.spares (failures : Failures) (accesses : List Access) : Bool :=
  accesses.all fun access =>
    (failures.members access.receiver).isNone && (failures.assignable access.member.result).isNone

def Failures.sparesChain (failures : Failures) (chain : Chain) : Bool :=
  failures.spares chain.accesses

def Failures.sparesNode (failures : Failures) (node : Search.Node) : Bool :=
  failures.spares node.path

/-- The view that fails at these questions and answers all others as before. -/
def ProgramView.failing (view : ProgramView σ) (failures : Failures) (target : TypeId) :
    ProgramView σ :=
  { view with
    members := fun state type site =>
      match failures.members type with
      | some error => (.error error, state)
      | none => view.members state type site
    assignable := fun state source goal =>
      match if goal = target then failures.assignable source else none with
      | some error => (.error error, state)
      | none => view.assignable state source goal }

/-- The answers with these failures. -/
def Answers.failing (answers : Answers) (failures : Failures) (target : TypeId) : Answers where
  members type site :=
    match failures.members type with
    | some error => .error error
    | none => answers.members type site
  assignable source goal :=
    match if goal = target then failures.assignable source else none with
    | some error => .error error
    | none => answers.assignable source goal

/-- Failures do not depend on what has been asked before. -/
theorem ProgramView.Functional.failing {view : ProgramView σ} {answers : Answers}
    (functional : view.Functional answers) (failures : Failures) (target : TypeId) :
    (view.failing failures target).Functional (answers.failing failures target) where
  members_growsTo state type site := by
    simp only [ProgramView.failing]
    split
    · exact TypeArena.GrowsTo.refl _
    · exact functional.members_growsTo state type site
  assignable_growsTo state source goal := by
    simp only [ProgramView.failing]
    split
    · exact TypeArena.GrowsTo.refl _
    · exact functional.assignable_growsTo state source goal
  members_eq state type site := by
    simp only [ProgramView.failing, Answers.failing]
    split
    · rfl
    · exact functional.members_eq state type site
  assignable_eq state source goal := by
    simp only [ProgramView.failing, Answers.failing]
    split
    · rfl
    · exact functional.assignable_eq state source goal

namespace Search

/-! ## What candidates add -/

namespace Rules

variable (rules : Rules)

/-- Whether a type is known to fit the target. -/
def isFit (type : TypeId) : Bool :=
  match rules.fits type with
  | .ok true => true
  | _ => false

/-- The chains that candidates of a node complete, whatever is typed. -/
def foundBy (node : Node) (members : List Member) : List Chain :=
  (members.filter fun member => rules.isFit member.result).map node.complete

/-- The places that candidates of a node lead to. -/
def ledBy (node : Node) (members : List Member) : List Node :=
  (members.filter (rules.follows node)).map node.extend

theorem foundBy_cons (node : Node) (member : Member) (members : List Member) :
    rules.foundBy node (member :: members) =
      rules.foundBy node [member] ++ rules.foundBy node members := by
  rw [foundBy, foundBy, foundBy, ← List.map_append, ← List.filter_append, List.singleton_append]

theorem ledBy_cons (node : Node) (member : Member) (members : List Member) :
    rules.ledBy node (member :: members) =
      rules.ledBy node [member] ++ rules.ledBy node members := by
  rw [ledBy, ledBy, ledBy, ← List.map_append, ← List.filter_append, List.singleton_append]

end Rules

/-- Whether there is room for these places too. -/
def HasPlaces (limits : Limits) (waiting : Nat) (led : List Node) : Prop :=
  led = [] ∨ waiting + led.length ≤ limits.maxFrontier

theorem HasPlaces.left {limits : Limits} {waiting : Nat} {led led' : List Node}
    (places : HasPlaces limits waiting (led ++ led')) : HasPlaces limits waiting led := by
  rcases places with nothing | room
  · exact Or.inl (List.append_eq_nil_iff.1 nothing).1
  · rw [List.length_append] at room
    exact Or.inr (by omega)

theorem HasPlaces.right {limits : Limits} {waiting : Nat} {led led' : List Node}
    (places : HasPlaces limits waiting (led ++ led')) :
    HasPlaces limits (waiting + led.length) led' := by
  rcases places with nothing | room
  · exact Or.inl (List.append_eq_nil_iff.1 nothing).2
  · rw [List.length_append] at room
    exact Or.inr (by omega)

/-- Whether a sweep went on by recording these chains and passing on these places, all of which
found room. -/
structure Adds (limits : Limits) (before after : Progress σ) (found : List Chain)
    (led : List Node) : Prop where
  chains : after.chains.toList = before.chains.toList ++ found
  next : after.next.toList = before.next.toList ++ led
  waiting : after.waiting = before.waiting + led.length
  refused : after.refused = before.refused
  room : HasPlaces limits before.waiting led

theorem Adds.trans {limits : Limits} {before between after : Progress σ}
    {found found' : List Chain} {led led' : List Node}
    (early : Adds limits before between found led) (late : Adds limits between after found' led') :
    Adds limits before after (found ++ found') (led ++ led') where
  chains := by rw [late.chains, early.chains, List.append_assoc]
  next := by rw [late.next, early.next, List.append_assoc]
  waiting := by rw [late.waiting, early.waiting, List.length_append, Nat.add_assoc]
  refused := late.refused.trans early.refused
  room := by
    have wait := early.waiting
    rcases late.room with rfl | room
    · rw [List.append_nil]
      exact early.room
    · refine Or.inr ?_
      rw [List.length_append]
      omega

section Steps

variable {view : ProgramView σ} {answers : Answers} {limits : Limits} {request : Request}

/-- A candidate adds what the rules say of it, unless it is refused. -/
theorem sweepMember_adds (functional : view.Functional answers) (node : Node)
    (progress : Progress σ) (member : Member)
    (fine : (sweepMember view limits request node progress member).refused = progress.refused ∨
      HasPlaces limits progress.waiting ((request.rules answers).ledBy node [member])) :
    Adds limits progress (sweepMember view limits request node progress member)
      ((request.rules answers).foundBy node [member])
      ((request.rules answers).ledBy node [member]) := by
  have step := visitMember_step view limits request.target [] node progress member
  have answered := functional.assignable_eq progress.state member.result request.target
  rw [sweepMember] at fine ⊢
  generalize visitMember view limits request.target [] node progress member = result at step fine ⊢
  -- the answer about the candidate decides what the rules say of it
  simp only [Rules.foundBy, Rules.ledBy, Rules.isFit, Rules.follows, Request.rules, ← answered,
    List.filter_cons, List.filter_nil] at fine ⊢
  cases step with
  | unanswered asked =>
      simp only [asked]
      exact ⟨by simp, by simp, rfl, rfl, Or.inl rfl⟩
  | recorded asked selected =>
      simp only [asked]
      exact ⟨by simp, by simp, rfl, rfl, Or.inl rfl⟩
  | unselected asked other => simp at other
  | waits asked grows room =>
      simp only [asked, grows, if_true]
      exact ⟨by simp, by simp, rfl, rfl, Or.inr room⟩
  | refused asked grows full =>
      simp only [asked, grows, if_true] at fine
      rcases fine with unrefused | nothing | room
      · simp at unrefused
      · simp at nothing
      · simp only [List.map_cons, List.map_nil, List.length_singleton] at room
        omega
  | ended asked ends =>
      simp only [asked, ends]
      exact ⟨by simp, by simp, rfl, rfl, Or.inl rfl⟩

/-- Candidates add what the rules say of them, unless one is refused. -/
theorem sweepMembers_adds (functional : view.Functional answers) (node : Node)
    (members : List Member) (progress : Progress σ)
    (fine : (members.foldl (sweepMember view limits request node) progress).refused =
        progress.refused ∨
      HasPlaces limits progress.waiting ((request.rules answers).ledBy node members)) :
    Adds limits progress (members.foldl (sweepMember view limits request node) progress)
      ((request.rules answers).foundBy node members)
      ((request.rules answers).ledBy node members) := by
  induction members generalizing progress with
  | nil => exact ⟨by simp [Rules.foundBy], by simp [Rules.ledBy], rfl, rfl, Or.inl rfl⟩
  | cons member members ih =>
      rw [List.foldl_cons, Rules.ledBy_cons] at fine
      rw [List.foldl_cons, Rules.foundBy_cons, Rules.ledBy_cons]
      have fineHere : (sweepMember view limits request node progress member).refused =
            progress.refused ∨
          HasPlaces limits progress.waiting ((request.rules answers).ledBy node [member]) := by
        rcases fine with unrefused | places
        · have early := (@sweepMember_goesOn _ view limits request node progress member).refused
          have late := (foldl_goesOn (@sweepMember_goesOn _ view limits request node)
            (sweepMember view limits request node progress member) members).refused
          exact Or.inl (by omega)
        · exact Or.inr places.left
      have first := sweepMember_adds functional node progress member fineHere
      refine first.trans (ih _ ?_)
      rcases fine with unrefused | places
      · exact Or.inl (unrefused.trans first.refused.symm)
      · rw [first.waiting]
        exact Or.inr places.right

/-! ## An arena that stays -/

/-- Whether looking at a node stores no type in an arena: the component of its type is there
already, and so is all that the view itself may store when it is asked about the node. -/
structure Settled (view : ProgramView σ) (answers : Answers) (request : Request)
    (arena : TypeArena) (node : Node) : Prop where
  component : node.arenaAfter arena = arena
  members : ∀ state, view.arena state = arena →
    view.arena (view.members state node.type request.callSite).2 = arena
  assignable : ∀ member ∈ (request.rules answers).choices arena node,
    ∀ state, view.arena state = arena →
    view.arena (view.assignable state member.result request.target).2 = arena

/-- With answers that depend on the question alone and store nothing, it is enough that the
component is there. -/
theorem settled_of_component (answers : Answers) (site : CursorSite) (request : Request)
    {arena : TypeArena} {node : Node} (stored : node.arenaAfter arena = arena) :
    Settled (answers.view site) answers request arena node where
  component := stored
  members _ here := here
  assignable _ _ _ here := here

theorem sweepMembers_arena {arena : TypeArena} {node : Node} {members : List Member}
    (stays : ∀ member ∈ members, ∀ state, view.arena state = arena →
      view.arena (view.assignable state member.result request.target).2 = arena)
    {progress : Progress σ} (here : view.arena progress.state = arena) :
    view.arena (members.foldl (sweepMember view limits request node) progress).state = arena := by
  induction members generalizing progress with
  | nil => exact here
  | cons member members ih =>
      rw [List.foldl_cons]
      apply ih (fun other isThere => stays other (by simp [isThere]))
      have step := visitMember_step view limits request.target [] node progress member
      rw [sweepMember, step.state_eq]
      exact stays member (by simp) _ here

/-- A node at which nothing is stored adds what the rules say of it, unless a place is
refused. -/
theorem sweepNode_adds (functional : view.Functional answers) {arena : TypeArena} {node : Node}
    (settled : Settled view answers request arena node) {progress : Progress σ}
    (here : view.arena progress.state = arena)
    (fine : (sweepNode view limits request progress node).refused = progress.refused ∨
      HasPlaces limits (progress.waiting - 1) ((request.rules answers).ledBy node
        ((request.rules answers).choices arena node))) :
    view.arena (sweepNode view limits request progress node).state = arena ∧
    Adds limits (progress.takeUp progress.state) (sweepNode view limits request progress node)
      ((request.rules answers).foundBy node ((request.rules answers).choices arena node))
      ((request.rules answers).ledBy node ((request.rules answers).choices arena node)) := by
  have answered := functional.members_eq progress.state node.type request.callSite
  have asks := settled.members progress.state here
  have candidates := settled.assignable
  rw [sweepNode, candidates_eq] at fine ⊢
  simp only [Rules.choices, Request.rules, ← answered] at fine candidates ⊢
  generalize view.members progress.state node.type request.callSite = result
    at asks fine candidates ⊢
  obtain ⟨answer, state⟩ := result
  cases answer with
  | error error => exact ⟨asks, by simp [Rules.foundBy, Progress.takeUp],
      by simp [Rules.ledBy, Progress.takeUp], rfl, rfl, Or.inl rfl⟩
  | ok members =>
      simp only at asks fine candidates ⊢
      rw [asks] at fine ⊢
      have taken : view.arena (progress.takeUp (node.stateAfter view state)).state = arena := by
        show view.arena (node.stateAfter view state) = arena
        rw [node.arena_stateAfter, asks, settled.component]
      have adds := sweepMembers_adds functional node (node.choices arena members)
        (progress.takeUp (node.stateAfter view state)) fine
      exact ⟨sweepMembers_arena candidates taken, adds.chains, adds.next, adds.waiting,
        adds.refused, adds.room⟩

/-! ## What failures take away -/

section Failing

variable {failures : Failures}

theorem spares_pathTo (node : Node) (member : Member) :
    failures.spares (node.pathTo member) =
      (failures.sparesNode node && (failures.members node.type).isNone &&
        (failures.assignable member.result).isNone) := by
  simp [Failures.sparesNode, Failures.spares, Node.pathTo, Bool.and_assoc]

/-- The candidates of a node once some questions fail. -/
theorem Rules.choices_failing (arena : TypeArena) (node : Node) :
    (request.rules (answers.failing failures request.target)).choices arena node =
      if (failures.members node.type).isNone then (request.rules answers).choices arena node
      else [] := by
  simp only [Rules.choices, Request.rules, Answers.failing]
  cases failures.members node.type with
  | none => rfl
  | some error => rfl

theorem Rules.isFit_failing (type : TypeId) :
    (request.rules (answers.failing failures request.target)).isFit type =
      ((failures.assignable type).isNone && (request.rules answers).isFit type) := by
  simp only [Rules.isFit, Request.rules, Answers.failing, if_true]
  cases failures.assignable type with
  | none => rfl
  | some error => rfl

theorem Rules.follows_failing (node : Node) (member : Member) :
    (request.rules (answers.failing failures request.target)).follows node member =
      ((failures.assignable member.result).isNone &&
        (request.rules answers).follows node member) := by
  simp only [Rules.follows, Request.rules, Answers.failing, if_true]
  cases failures.assignable member.result with
  | none => rfl
  | some error => rfl

/-- Of what candidates give, failures take what is not spared and leave the rest in order. -/
theorem Rules.filter_failing {α : Type} (make : Member → α) (path : α → List Access)
    {node : Node} (spared : failures.sparesNode node = true) {keep keep' : Member → Bool}
    (kept : ∀ member, keep' member = ((failures.assignable member.result).isNone && keep member))
    (made : ∀ member, path (make member) = node.pathTo member) (arena : TypeArena) :
    (((request.rules (answers.failing failures request.target)).choices arena node).filter
        keep').map make =
      ((((request.rules answers).choices arena node).filter keep).map make).filter
        fun item => failures.spares (path item) := by
  rw [Rules.choices_failing, List.filter_map, List.filter_filter]
  split
  · next answered =>
      congr 1
      apply List.filter_congr
      intro member _
      simp [kept, made, spares_pathTo, spared, answered]
  · next failed => simp [made, spares_pathTo, failed]

theorem Rules.foundBy_failing {node : Node} (spared : failures.sparesNode node = true)
    (arena : TypeArena) :
    (request.rules (answers.failing failures request.target)).foundBy node
        ((request.rules (answers.failing failures request.target)).choices arena node) =
      ((request.rules answers).foundBy node ((request.rules answers).choices arena node)).filter
        failures.sparesChain :=
  Rules.filter_failing node.complete Chain.accesses spared
    (fun member => Rules.isFit_failing member.result) (fun _ => rfl) arena

theorem Rules.ledBy_failing {node : Node} (spared : failures.sparesNode node = true)
    (arena : TypeArena) :
    (request.rules (answers.failing failures request.target)).ledBy node
        ((request.rules (answers.failing failures request.target)).choices arena node) =
      ((request.rules answers).ledBy node ((request.rules answers).choices arena node)).filter
        failures.sparesNode :=
  Rules.filter_failing node.extend Node.path spared (Rules.follows_failing node) (fun _ => rfl) arena

/-- After a node that is not spared nothing is. -/
theorem filter_lost {α : Type} (make : Member → α) (path : α → List Access) {node : Node}
    (lost : failures.sparesNode node = false)
    (made : ∀ member, path (make member) = node.pathTo member) (members : List Member) :
    ((members.map make).filter fun item => failures.spares (path item)) = [] := by
  simp [made, spares_pathTo, lost]

theorem Rules.foundBy_lost {rules : Rules} {node : Node}
    (lost : failures.sparesNode node = false) (members : List Member) :
    (rules.foundBy node members).filter failures.sparesChain = [] :=
  filter_lost node.complete Chain.accesses lost (fun _ => rfl) _

theorem Rules.ledBy_lost {rules : Rules} {node : Node}
    (lost : failures.sparesNode node = false) (members : List Member) :
    (rules.ledBy node members).filter failures.sparesNode = [] :=
  filter_lost node.extend Node.path lost (fun _ => rfl) _

/-- Where nothing is stored, nothing is stored when some questions fail. -/
theorem Settled.failing {arena : TypeArena} {node : Node}
    (settled : Settled view answers request arena node) :
    Settled (view.failing failures request.target) (answers.failing failures request.target)
      request arena node where
  component := settled.component
  members state here := by
    simp only [ProgramView.failing]
    split
    · exact here
    · exact settled.members state here
  assignable member offered state here := by
    rw [Rules.choices_failing] at offered
    simp only [ProgramView.failing]
    split
    · exact here
    · split at offered
      · exact settled.assignable member offered state here
      · simp at offered

/-! ## Fewer nodes, fewer chains -/

/-- Whether a search comes to a node while the arena stays as it is. -/
def Visits (answers : Answers) (limits : Limits) (request : Request) (arena : TypeArena)
    (node : Node) : Prop :=
  ∃ trail, (request.rules answers).Reaches (fun _ => arena) (request.firstNodes limits) trail node

theorem Visits.ledBy {arena : TypeArena} {node : Node}
    (visits : Visits answers limits request arena node) :
    ∀ after ∈ (request.rules answers).ledBy node ((request.rules answers).choices arena node),
      Visits answers limits request arena after := by
  intro after isLed
  obtain ⟨trail, reached⟩ := visits
  simp only [Rules.ledBy, List.mem_map, List.mem_filter] at isLed
  obtain ⟨member, ⟨offered, followed⟩, rfl⟩ := isLed
  obtain ⟨place, numbered⟩ := List.mem_iff_getElem?.1 offered
  obtain ⟨unfit, short, isNew⟩ := Rules.follows_iff.1 followed
  exact ⟨_, .follow reached numbered unfit short isNew⟩

/-- Whether a sweep that meets failures has come as far as another: it has recorded the spared
chains, and the spared nodes wait, in this round (`rest`) and the next. -/
structure Thins (view : ProgramView σ) (answers : Answers) (limits : Limits) (request : Request)
    (failures : Failures) (arena : TypeArena) (rest : List Node) (whole part : Progress σ) :
    Prop where
  chains : part.chains.toList = whole.chains.toList.filter failures.sparesChain
  next : part.next.toList = whole.next.toList.filter failures.sparesNode
  waiting : whole.waiting = rest.length + whole.next.toList.length
  fewer : part.waiting = (rest.filter failures.sparesNode).length + part.next.toList.length
  visits : ∀ node ∈ whole.next.toList, Visits answers limits request arena node
  refused : part.refused = whole.refused
  stays : view.arena whole.state = arena
  stays' : view.arena part.state = arena

variable {arena : TypeArena}

/-- A node is dealt with in both sweeps if it is spared, and else only in the one without
failures. -/
theorem Thins.node (functional : view.Functional answers) {node : Node} {rest : List Node}
    {whole part : Progress σ}
    (thins : Thins view answers limits request failures arena (node :: rest) whole part)
    (visits : Visits answers limits request arena node)
    (settled : Settled view answers request arena node)
    (unrefused : (sweepNode view limits request whole node).refused = whole.refused) :
    Thins view answers limits request failures arena rest
      (sweepNode view limits request whole node)
      (if failures.sparesNode node then
        sweepNode (view.failing failures request.target) limits request part node
      else part) := by
  obtain ⟨stays, adds⟩ := sweepNode_adds functional settled thins.stays (Or.inl unrefused)
  have chains : _ = whole.chains.toList ++ _ := adds.chains
  have next : _ = whole.next.toList ++ _ := adds.next
  have waiting : _ = whole.waiting - 1 + _ := adds.waiting
  have wait := thins.waiting
  have wait' := thins.fewer
  rw [List.length_cons] at wait
  have visitsNext : ∀ after ∈ (sweepNode view limits request whole node).next.toList,
      Visits answers limits request arena after := by
    intro after isNext
    rw [next, List.mem_append] at isNext
    rcases isNext with isOld | isLed
    · exact thins.visits after isOld
    · exact visits.ledBy after isLed
  split
  · next spared =>
      rw [List.filter_cons_of_pos spared, List.length_cons] at wait'
      have few := List.length_filter_le failures.sparesNode rest
      have few' := List.length_filter_le failures.sparesNode whole.next.toList
      rw [← thins.next] at few'
      -- fewer nodes wait where questions fail, so what found room there finds room here
      have room : HasPlaces limits (part.waiting - 1)
          ((request.rules (answers.failing failures request.target)).ledBy node
            ((request.rules (answers.failing failures request.target)).choices arena node)) := by
        rw [Rules.ledBy_failing spared]
        rcases adds.room with nothing | room
        · exact Or.inl (by rw [nothing, List.filter_nil])
        · have room : whole.waiting - 1 + _ ≤ limits.maxFrontier := room
          exact Or.inr (Nat.le_trans (Nat.add_le_add (by omega) (List.length_filter_le _ _)) room)
      obtain ⟨stays', adds'⟩ := sweepNode_adds (functional.failing failures request.target)
        settled.failing thins.stays' (Or.inr room)
      rw [Rules.foundBy_failing spared, Rules.ledBy_failing spared] at adds'
      have chains' : _ = part.chains.toList ++ _ := adds'.chains
      have next' : _ = part.next.toList ++ _ := adds'.next
      have waiting' : _ = part.waiting - 1 + _ := adds'.waiting
      refine ⟨?_, ?_, ?_, ?_, visitsNext, ?_, stays, stays'⟩
      · rw [chains, chains', List.filter_append, thins.chains]
      · rw [next, next', List.filter_append, thins.next]
      · rw [next, List.length_append]
        omega
      · rw [next', List.length_append]
        omega
      · exact (adds'.refused.trans thins.refused).trans unrefused.symm
  · next lost =>
      rw [List.filter_cons_of_neg lost] at wait'
      rw [Bool.not_eq_true] at lost
      refine ⟨?_, ?_, ?_, wait', visitsNext, ?_, stays, thins.stays'⟩
      · rw [chains, List.filter_append, Rules.foundBy_lost lost, List.append_nil, thins.chains]
      · rw [next, List.filter_append, Rules.ledBy_lost lost, List.append_nil, thins.next]
      · rw [next, List.length_append]
        omega
      · exact thins.refused.trans unrefused.symm

/-- A round is gone through in both sweeps, in the one with failures by its spared nodes. -/
theorem Thins.round (functional : view.Functional answers)
    (settled : ∀ node, Visits answers limits request arena node →
      Settled view answers request arena node)
    {nodes : List Node} {whole part : Progress σ}
    (thins : Thins view answers limits request failures arena nodes whole part)
    (visits : ∀ node ∈ nodes, Visits answers limits request arena node)
    (unrefused : (nodes.foldl (sweepNode view limits request) whole).refused = whole.refused) :
    Thins view answers limits request failures arena []
      (nodes.foldl (sweepNode view limits request) whole)
      ((nodes.filter failures.sparesNode).foldl
        (sweepNode (view.failing failures request.target) limits request) part) := by
  induction nodes generalizing whole part with
  | nil => exact thins
  | cons node nodes ih =>
      rw [List.foldl_cons] at unrefused ⊢
      have early := (@sweepNode_goesOn _ view limits request whole node).refused
      have late := (foldl_goesOn (@sweepNode_goesOn _ view limits request)
        (sweepNode view limits request whole node) nodes).refused
      have isVisited := visits node (by simp)
      have step := thins.node functional isVisited (settled node isVisited) (by omega)
      have rest := ih step (fun other isThere => visits other (by simp [isThere])) (by omega)
      by_cases spared : failures.sparesNode node = true
      · rw [if_pos spared] at rest
        rwa [List.filter_cons_of_pos spared]
      · rw [if_neg spared] at rest
        rwa [List.filter_cons_of_neg spared]

/-- So are rounds. -/
theorem Thins.rounds (functional : view.Functional answers)
    (settled : ∀ node, Visits answers limits request arena node →
      Settled view answers request arena node)
    (rounds : Nat) {nodes : List Node} {whole part : Progress σ}
    (thins : Thins view answers limits request failures arena nodes { whole with next := #[] }
      { part with next := #[] })
    (visits : ∀ node ∈ nodes, Visits answers limits request arena node)
    (unrefused : (sweepRounds view limits request rounds whole nodes).refused = whole.refused) :
    (sweepRounds (view.failing failures request.target) limits request rounds part
        (nodes.filter failures.sparesNode)).chains.toList =
      (sweepRounds view limits request rounds whole nodes).chains.toList.filter
        failures.sparesChain ∧
    (sweepRounds (view.failing failures request.target) limits request rounds part
        (nodes.filter failures.sparesNode)).refused = whole.refused := by
  induction rounds generalizing nodes whole part with
  | zero => exact ⟨thins.chains, thins.refused⟩
  | succ rounds ih =>
      rw [sweepRounds] at unrefused
      rw [sweepRounds, sweepRounds]
      have early := (foldl_goesOn (@sweepNode_goesOn _ view limits request)
        { whole with next := #[] } nodes).refused
      simp only at early unrefused ⊢
      have late := (@sweepRounds_goesOn _ view limits request rounds
        (nodes.foldl (sweepNode view limits request) { whole with next := #[] })
        (nodes.foldl (sweepNode view limits request) { whole with next := #[] }).next.toList).refused
      have still : (nodes.foldl (sweepNode view limits request) { whole with next := #[] }).refused =
          whole.refused := by omega
      have round := thins.round functional settled visits still
      generalize nodes.foldl (sweepNode view limits request) { whole with next := #[] } = after
        at round still unrefused ⊢
      generalize (nodes.filter failures.sparesNode).foldl
        (sweepNode (view.failing failures request.target) limits request)
        { part with next := #[] } = after' at round ⊢
      have start : Thins view answers limits request failures arena after.next.toList
          { after with next := #[] } { after' with next := #[] } :=
        ⟨round.chains, rfl, by simpa using round.waiting,
          by simpa [round.next] using round.fewer, by simp, round.refused, round.stays,
          round.stays'⟩
      rw [round.next]
      have rest := ih start round.visits (by omega)
      exact ⟨rest.1, by omega⟩

/-- The sweep that meets failures records the spared chains of the other. -/
theorem sweep_failing (functional : view.Functional answers) {state : σ}
    (settled : ∀ node, Visits answers limits request (view.arena state) node →
      Settled view answers request (view.arena state) node)
    (unrefused : (sweep view limits request state).refused = 0) :
    (sweep (view.failing failures request.target) limits request state).chains.toList =
      (sweep view limits request state).chains.toList.filter failures.sparesChain := by
  have all : (request.firstNodes limits).filter failures.sparesNode = request.firstNodes limits := by
    apply List.filter_eq_self.2
    intro node isFirst
    rw [Failures.sparesNode, Rules.path_of_mem_firstNodes isFirst]
    rfl
  have visits : ∀ node ∈ request.firstNodes limits,
      Visits answers limits request (view.arena state) node := by
    intro node isFirst
    obtain ⟨place, numbered⟩ := List.mem_iff_getElem?.1 isFirst
    exact ⟨[place], .root numbered⟩
  have start : Thins view answers limits request failures (view.arena state)
      (request.firstNodes limits) (firstProgress limits request state)
      (firstProgress limits request state) :=
    ⟨rfl, rfl, rfl, by rw [all]; rfl, by simp [firstProgress], rfl, rfl, rfl⟩
  have rounds := @Thins.rounds _ view answers limits request failures _ functional settled
    limits.rounds _ (firstProgress limits request state) (firstProgress limits request state) start
    visits unrefused
  rw [all] at rounds
  exact rounds.1

end Failing

end Steps

/-- **A failed question costs its branch and nothing else.**  Take a search that ends by itself
and refuses no place, with answers that depend on the question alone, in an arena in which
nothing is stored at the places that it comes to.  If certain questions fail, then, unless it
is disturbed, the search ends by itself all the same, and records exactly those of the chains
whose accesses depend on no question that fails, in the same order. -/
theorem run_failing_spares {view : ProgramView σ} {answers : Answers}
    (functional : view.Functional answers) (failures : Failures) (signals signals' : Signals)
    (limits : Limits) (request : Request) (state : σ)
    (settled : ∀ node, Visits answers limits request (view.arena state) node →
      Settled view answers request (view.arena state) node)
    (exhausted : (run view signals limits request state).1.reason = .exhausted)
    (unrefused : (run view signals limits request state).1.refused = 0)
    (undisturbed : signals'.Undisturbed limits.timeoutMs) :
    (run (view.failing failures request.target) signals' limits request state).1.chains =
      (run view signals limits request state).1.chains.filter failures.sparesChain ∧
    (run (view.failing failures request.target) signals' limits request state).1.reason =
      .exhausted := by
  obtain ⟨chains, refused⟩ :=
    (@run_chooses _ view limits limits request request.typed rfl rfl signals state).2 exhausted
  obtain ⟨isStart, isWhole⟩ := @run_chooses _ (view.failing failures request.target) limits limits
    request request.typed rfl rfl signals' state
  have thinned := @sweep_failing _ view answers limits request failures functional state settled
    (refused.symm.trans unrefused)
  have spared : ((sweep (view.failing failures request.target) limits request
      state).chains.toList.filter (selects (foldName request.typed))) =
      (run view signals limits request state).1.chains.filter failures.sparesChain := by
    rw [thinned, List.filter_comm]
    exact congrArg (List.filter failures.sparesChain) chains.symm
  rw [spared] at isStart isWhole
  -- there are fewer chains than without failures, so the result limit is not what ends it
  have room : (run view signals limits request state).1.chains.length < limits.mostChains := by
    have ends := @run_ends _ view signals limits request state
    rw [exhausted] at ends
    cases ends with
    | interrupted room stops => exact room
    | exhausted room goes => exact room
  have ends := @run_ends_undisturbed _ (view.failing failures request.target) limits request
    signals' undisturbed state
  rcases ends with full | ⟨-, exhausted'⟩
  · have few := isStart.length_le.trans (List.length_filter_le _ _)
    exact absurd (full.symm.trans_le few) (by omega)
  · exact ⟨(isWhole exhausted').1, exhausted'⟩

/-- The members of an array of parts cannot be found, and whether a box fits cannot be told. -/
def boxFailures : Failures where
  members type := if type.index = 2 then some (.unresolvedType "Part") else none
  assignable type := if type.index = 0 then some (.unresolvedType "Box") else none

theorem boxArena_component? (type : TypeId) : (boxArena.component? type).2 = boxArena := by
  obtain ⟨index⟩ := type
  match index with
  | 0 | 1 | 2 | 3 | 4 | 5 => decide
  | index + 6 => rfl

/-- No question about the box and its parts stores a type. -/
theorem box_settled (node : Node) :
    Settled (boxAnswers.view CursorSite.unknown) boxAnswers boxRequest boxArena node := by
  apply settled_of_component
  rw [Node.arenaAfter]
  split
  · rfl
  · exact boxArena_component? node.type

/-- With these failures the chain through the array is lost, and `Maker.part().goal()` is
found. -/
theorem run_failing_spares_box :
    (run (boxAnswers.view CursorSite.unknown) Signals.quiet boxLimits boxRequest
      boxArena).1.chains.length = 2 ∧
    (run ((boxAnswers.view CursorSite.unknown).failing boxFailures boxRequest.target)
      Signals.quiet boxLimits boxRequest boxArena).1.chains.length = 1 ∧
    (run ((boxAnswers.view CursorSite.unknown).failing boxFailures boxRequest.target)
      Signals.quiet boxLimits boxRequest boxArena).1.chains =
      (run (boxAnswers.view CursorSite.unknown) Signals.quiet boxLimits boxRequest
        boxArena).1.chains.filter boxFailures.sparesChain ∧
    (run ((boxAnswers.view CursorSite.unknown).failing boxFailures boxRequest.target)
      Signals.quiet boxLimits boxRequest boxArena).1.reason = .exhausted := by
  have spares := run_failing_spares (boxAnswers.view_functional CursorSite.unknown) boxFailures
    Signals.quiet Signals.quiet boxLimits boxRequest boxArena (fun node _ => box_settled node)
    (by decide) (by decide) ⟨rfl, fun _ => show 0 < 1 by decide⟩
  exact ⟨by decide, by decide, spares⟩

end Search

end ChainCompletion
