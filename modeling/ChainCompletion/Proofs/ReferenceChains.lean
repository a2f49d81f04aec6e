/-
# Proofs.ReferenceChains -- no chain goes through void or a built-in value

A type is barren if it has no values, or built-in ones (`TypeArena.IsBarren`); the values of
every other known type are references (`TypeArena.HasReferences`).  A search leaves out members
with a barren result.  But the entries of an array are offered whatever they are, and so are
members whose result is not known yet when they are listed, so that a search does come to
barren types.  Its chains stay clear of them all the same, and for two reasons:

* what is searched for has references (`Origins.hasReferences_target`), and nothing else fits it;
* from a barren type only barren ones are reached, so whatever passes one never fits.

A view with which this holds is discerning (`ProgramView.Discerns`).  A search keeps its chains on
references then, and its nodes too, unless they have come to a barren type (`OnReferences`): a
candidate keeps that (`visitMember_onReferences`), a node (`visitNode_onReferences`), and hence the
whole search (`run_onReferences`).  Every catalog that can come about is discerning
(`Catalog.view_discerns`, `Catalog.Reachable.honest`).
-/
import ChainCompletion.Proofs.CompletionReach
import ChainCompletion.Proofs.Queries
import ChainCompletion.Proofs.SearchQueue
import ChainCompletion.Proofs.SearchRules

namespace ChainCompletion

open Search

set_option autoImplicit false

/-! ## Barren types -/

/-- Whether a type has no values, or built-in ones. -/
def TypeShape.isBarren (shape : TypeShape) : Bool :=
  shape.kind = .void || !shape.isReference

namespace TypeArena

variable {arena before after : TypeArena} {type : TypeId}

/-- Whether a type is known, and its values are references. -/
def HasReferences (arena : TypeArena) (type : TypeId) : Prop :=
  ∃ shape, arena.shape? type = some shape ∧ shape.isBarren = false

/-- Whether a type is known to have no values, or built-in ones. -/
def IsBarren (arena : TypeArena) (type : TypeId) : Prop :=
  ∃ shape, arena.shape? type = some shape ∧ shape.isBarren = true

theorem HasReferences.of_growsTo (references : before.HasReferences type)
    (grows : before.GrowsTo after) : after.HasReferences type := by
  obtain ⟨shape, found, fertile⟩ := references
  exact ⟨shape, shape?_of_growsTo grows found, fertile⟩

theorem IsBarren.of_growsTo (barren : before.IsBarren type) (grows : before.GrowsTo after) :
    after.IsBarren type := by
  obtain ⟨shape, found, holds⟩ := barren
  exact ⟨shape, shape?_of_growsTo grows found, holds⟩

theorem HasReferences.not_isBarren (references : arena.HasReferences type) :
    ¬ arena.IsBarren type := by
  obtain ⟨shape, found, fertile⟩ := references
  rintro ⟨other, found', barren⟩
  obtain rfl : shape = other := Option.some.inj (found.symm.trans found')
  exact absurd (fertile.symm.trans barren) Bool.false_ne_true

theorem hasReferences_or_isBarren (known : arena.Knows type) :
    arena.HasReferences type ∨ arena.IsBarren type := by
  obtain ⟨shape, found⟩ := knows_iff.1 known
  cases holds : shape.isBarren with
  | false => exact Or.inl ⟨shape, found, holds⟩
  | true => exact Or.inr ⟨shape, found, holds⟩

theorem hasReferences_iff :
    arena.HasReferences type ↔
      arena.Knows type ∧ arena.isVoid type = false ∧ arena.isPrimitive type = false := by
  rw [HasReferences, knows_iff, isVoid, isPrimitive]
  cases arena.shape? type with
  | none => simp
  | some shape =>
      simp [TypeShape.isBarren, TypeShape.isReference, Nat.pos_iff_ne_zero, imp_iff_or_not, or_comm]

/-- The entries of an array without values have none. -/
theorem IsBarren.component? (barren : arena.IsBarren type) {component : TypeId}
    (found : (arena.component? type).1 = some component) :
    (arena.component? type).2.IsBarren component := by
  obtain ⟨shape, given, holds⟩ := barren
  rw [TypeArena.component?, given] at found ⊢
  cases dimensions : shape.dims with
  | zero => simp [dimensions] at found
  | succ dims =>
      -- with dimensions it is not a built-in value, so it is void
      have isVoid : shape.kind = .void := by
        simpa [TypeShape.isBarren, TypeShape.isReference, dimensions] using holds
      simp only [dimensions] at found ⊢
      rw [← Option.some.inj found]
      exact ⟨_, shape?_store _ _, by simp [TypeShape.isBarren, isVoid]⟩

end TypeArena

/-! ## What declarations tell -/

namespace Declarations

open TypeArena

variable {decls : Declarations} {arena : TypeArena}

/-- Only references fit another type. -/
theorem hasReferences_of_accepts {source target : TypeId}
    (fits : (decls.accepts arena source target).1 = .ok true) : arena.HasReferences source := by
  rw [accepts] at fits
  split at fits
  · simp at fits
  · simp at fits
  · next given wanted found found' =>
      refine ⟨given, found, ?_⟩
      split at fits
      · simp at fits
      · next valued =>
          have notVoid : given.kind ≠ .void := by
            intro isVoid
            simp [isVoid] at valued
          split at fits
          · simpa [TypeShape.isBarren, notVoid] using fits
          · split at fits
            · simp at fits
            · next classes =>
                have isClass : given.kind = .classType := by
                  by_contra other
                  simp [other] at classes
                simp [TypeShape.isBarren, TypeShape.isReference, isClass]

/-- A barren type has barren members only: the length of an array, if any. -/
theorem isBarren_of_mem_members {type : TypeId} {site : CallSite} {members : List Member}
    (barren : arena.IsBarren type) (listed : (decls.members arena type site).1 = .ok members) :
    ∀ member ∈ members, (decls.members arena type site).2.IsBarren member.result := by
  obtain ⟨shape, found, holds⟩ := barren
  rw [Declarations.members, found] at listed ⊢
  simp only at listed ⊢
  split at listed
  · next isArray =>
      rw [if_pos isArray]
      obtain rfl := Except.ok.inj listed
      intro member isThere
      rw [List.mem_singleton.1 isThere]
      exact ⟨_, shape?_store _ _, rfl⟩
  · split at listed
    · obtain rfl := Except.ok.inj listed
      intro member isThere
      cases isThere
    · next isClass =>
        rw [Decidable.not_not] at isClass
        simp [TypeShape.isBarren, TypeShape.isReference, isClass] at holds

end Declarations

/-! ## Discerning views -/

variable {σ : Type}

/-- Whether a view tells references from other values, as long as its state keeps a property:
only references fit another type, nothing is said of unknown types, and from a barren type only
barren ones are reached. -/
structure ProgramView.Discerns (view : ProgramView σ) (keep : σ → Prop) : Prop
    extends view.KeepsTypes, view.Keeps keep where
  fits : ∀ state source target, keep state →
    (view.assignable state source target).1 = .ok true →
    source = target ∨ (view.arena state).HasReferences source
  unfit : ∀ state source target, keep state →
    (view.assignable state source target).1 = .ok false → (view.arena state).Knows source
  barren : ∀ state type site members, keep state → (view.arena state).IsBarren type →
    (view.members state type site).1 = .ok members →
    ∀ member ∈ members, (view.arena (view.members state type site).2).IsBarren member.result

/-! ## Searching -/

/-- Whether all accesses of a path give references. -/
def Access.GiveReferences (arena : TypeArena) (path : List Access) : Prop :=
  ∀ access ∈ path, arena.HasReferences access.member.result

theorem Access.GiveReferences.of_growsTo {before after : TypeArena} {path : List Access}
    (give : Access.GiveReferences before path) (grows : before.GrowsTo after) :
    Access.GiveReferences after path :=
  fun access isThere => (give access isThere).of_growsTo grows

namespace Search

/-- Whether all accesses on the way to a node give references, unless it has come to a barren
type. -/
def Node.OnReferences (node : Node) (arena : TypeArena) : Prop :=
  Access.GiveReferences arena node.path ∨ arena.IsBarren node.type

theorem Node.OnReferences.of_growsTo {node : Node} {before after : TypeArena}
    (on : node.OnReferences before) (grows : before.GrowsTo after) : node.OnReferences after :=
  on.imp (fun give => give.of_growsTo grows) (fun barren => barren.of_growsTo grows)

theorem Node.giveReferences_pathTo {node : Node} {arena : TypeArena} {member : Member}
    (give : Access.GiveReferences arena node.path) (references : arena.HasReferences member.result) :
    Access.GiveReferences arena (node.pathTo member) := by
  intro access isThere
  rcases List.mem_append.1 isThere with old | new
  · exact give access old
  · rw [List.mem_singleton.1 new]
    exact references

/-- Whether a search for a type with references has all its chains and nodes on references. -/
structure Progress.OnReferences (progress : Progress σ) (view : ProgramView σ) (keep : σ → Prop)
    (target : TypeId) : Prop where
  kept : keep progress.state
  wanted : (view.arena progress.state).HasReferences target
  chains : ∀ chain ∈ progress.chains.toList,
    Access.GiveReferences (view.arena progress.state) chain.accesses
  next : ∀ node ∈ progress.next.toList, node.OnReferences (view.arena progress.state)

variable {view : ProgramView σ} {keep : σ → Prop} {signals : Signals} {limits : Limits}
  {request : Request} {target : TypeId} {typed : List Char}

/-- A search that only moves its view on stays on references. -/
theorem Progress.OnReferences.move {progress after : Progress σ}
    (on : progress.OnReferences view keep target) (kept : keep after.state)
    (grows : (view.arena progress.state).GrowsTo (view.arena after.state))
    (sameChains : after.chains = progress.chains) (sameNext : after.next = progress.next) :
    after.OnReferences view keep target where
  kept := kept
  wanted := on.wanted.of_growsTo grows
  chains chain found := (on.chains chain (sameChains ▸ found)).of_growsTo grows
  next node found := (on.next node (sameNext ▸ found)).of_growsTo grows

/-- A candidate keeps a search on references, if the way to its node gives references or the
candidate is barren. -/
theorem visitMember_onReferences (discerns : view.Discerns keep) {progress : Progress σ}
    {node : Node} {member : Member} (on : progress.OnReferences view keep target)
    (reached : Access.GiveReferences (view.arena progress.state) node.path ∨
      (view.arena progress.state).IsBarren member.result) :
    (visitMember view limits target typed node progress member).1.OnReferences view keep
      target := by
  have step := visitMember_step view limits target typed node progress member
  have grows := step.growsTo discerns.toKeepsTypes
  have kept := step.keeps discerns.toKeeps on.kept
  have fits := discerns.fits progress.state member.result target on.kept
  have unfit := discerns.unfit progress.state member.result target on.kept
  generalize visitMember view limits target typed node progress member = result
    at step grows kept ⊢
  cases step with
  | recorded asked selected =>
      rw [asked] at fits
      -- what fits has references, so it is not barren
      have references : (view.arena progress.state).HasReferences member.result := by
        rcases fits rfl with same | references
        · rw [same]
          exact on.wanted
        · exact references
      have give := reached.resolve_right references.not_isBarren
      refine ⟨kept, on.wanted.of_growsTo grows, ?_,
        fun other found => (on.next other found).of_growsTo grows⟩
      intro chain isThere
      rw [Array.toList_push, List.mem_append] at isThere
      rcases isThere with old | new
      · exact (on.chains chain old).of_growsTo grows
      · rw [List.mem_singleton.1 new]
        exact (Node.giveReferences_pathTo give references).of_growsTo grows
  | waits asked mayGrow room =>
      rw [asked] at unfit
      refine ⟨kept, on.wanted.of_growsTo grows,
        fun chain found => (on.chains chain found).of_growsTo grows, ?_⟩
      intro other isThere
      rw [Array.toList_push, List.mem_append] at isThere
      rcases isThere with old | new
      · exact (on.next other old).of_growsTo grows
      · rw [List.mem_singleton.1 new]
        rcases TypeArena.hasReferences_or_isBarren (unfit rfl) with references | barren
        · have give := reached.resolve_right references.not_isBarren
          exact Or.inl ((Node.giveReferences_pathTo give references).of_growsTo grows)
        · exact Or.inr (barren.of_growsTo grows)
  | _ => exact on.move kept grows rfl rfl

/-- What a node offers is barren, unless the way to the node gives references. -/
theorem choices_onReferences (discerns : view.Discerns keep) {state asked : σ} {node : Node}
    {site : CallSite} {members : List Member} (kept : keep state)
    (on : node.OnReferences (view.arena state))
    (answered : view.members state node.type site = (.ok members, asked)) {member : Member}
    (offered : member ∈ node.choices (view.arena asked) members) :
    Access.GiveReferences (node.arenaAfter (view.arena asked)) node.path ∨
      (node.arenaAfter (view.arena asked)).IsBarren member.result := by
  have grows := discerns.members_growsTo state node.type site
  have inherited := discerns.barren state node.type site members kept
  rw [answered] at grows inherited
  have later := node.arenaAfter_growsTo (view.arena asked)
  rcases on with give | barren
  · exact Or.inl (give.of_growsTo (grows.trans later))
  · right
    rcases Node.mem_choices offered with ⟨listed, -⟩ | ⟨value, component, found, rfl⟩
    · exact (inherited barren rfl member listed).of_growsTo later
    · have entry := (barren.of_growsTo grows).component? found
      rwa [Node.arenaAfter, if_neg (by simp [value])]

/-- Dealing with a node keeps a search on references. -/
theorem visitNode_onReferences (discerns : view.Discerns keep) {progress : Progress σ} {node : Node}
    (on : progress.OnReferences view keep request.target)
    (reached : node.OnReferences (view.arena progress.state)) :
    (visitNode view signals limits request progress node).1.OnReferences view keep
      request.target := by
  have step := visitNode_step view signals limits request progress node
  have grows := step.growsTo discerns.toKeepsTypes
  have kept := step.keeps discerns.toKeeps on.kept
  have keptAsking := discerns.members progress.state node.type request.callSite on.kept
  have asks := discerns.members_growsTo progress.state node.type request.callSite
  generalize visitNode view signals limits request progress node = result at step grows kept ⊢
  cases step with
  | interrupted stops => exact on
  | unanswered goes asked => exact on.move kept grows rfl rfl
  | @expanded members state goes asked =>
      have choices := @choices_onReferences _ view keep discerns _ _ _ _ _ on.kept reached asked
      rw [asked] at keptAsking asks
      have keptAfter := node.stateAfter_keeps discerns.toKeeps keptAsking
      have stored := node.arena_stateAfter view state
      generalize node.stateAfter view state = after at keptAfter stored ⊢
      rw [← stored] at choices
      have taken : (view.arena progress.state).GrowsTo (view.arena after) := by
        rw [stored]
        exact asks.trans (node.arenaAfter_growsTo _)
      have start : (progress.takeUp after).OnReferences view keep request.target :=
        on.move keptAfter taken rfl rfl
      -- the candidates stay what they were when they were listed
      refine (@workOff_keeps _ _ _ (fun now : Progress σ =>
        now.OnReferences view keep request.target ∧
          (view.arena after).GrowsTo (view.arena now.state)) _ _ ?_ (progress.takeUp after)
        ⟨start, TypeArena.GrowsTo.refl _⟩).1
      rintro member offered now ⟨onNow, grown⟩
      have reachedNow := (choices offered).imp (fun give => give.of_growsTo grown)
        (fun barren => barren.of_growsTo grown)
      exact ⟨visitMember_onReferences discerns onNow reachedNow,
        grown.trans ((visitMember_step _ _ _ _ _ now member).growsTo discerns.toKeepsTypes)⟩

/-- **A search keeps its chains on references**, if what it searches for has them. -/
theorem run_onReferences (discerns : view.Discerns keep) (signals : Signals) (limits : Limits)
    (request : Request) {state : σ} (kept : keep state)
    (wanted : (view.arena state).HasReferences request.target) :
    ∀ chain ∈ (run view signals limits request state).1.chains,
      Access.GiveReferences (view.arena (run view signals limits request state).2)
        chain.accesses := by
  have start : (firstQueue limits request state).OnReferences view keep request.target := by
    refine ⟨kept, wanted, ?_, ?_⟩
    · intro chain isThere
      cases isThere
    · intro node isFirst
      left
      rw [Rules.path_of_mem_firstNodes isFirst]
      intro access isThere
      cases isThere
  have step : ∀ (progress : Progress σ) (node : Node) (rest : List Node),
      progress.next.toList = node :: rest → progress.OnReferences view keep request.target →
      (dequeue view signals limits request progress node rest).1.OnReferences view keep
        request.target := by
    intro progress node rest first on
    have waiting := on.next
    rw [first, List.forall_mem_cons] at waiting
    exact visitNode_onReferences discerns ⟨on.kept, on.wanted, on.chains, waiting.2⟩ waiting.1
  obtain ⟨dequeued, queueRun⟩ := run_queueRun view signals limits request state
  obtain ⟨last, on, ended⟩ := queueRun.invariant step start
  rw [ended]
  exact on.chains

end Search

/-! ## Catalogs -/

namespace Catalog

/-- Whether what is remembered is about known types, and only references are remembered to
fit. -/
def Honest (catalog : Catalog) : Prop :=
  ∀ entry ∈ catalog.known, catalog.arena.Knows entry.1.1 ∧
    (entry.2 = true → catalog.arena.HasReferences entry.1.1)

theorem Honest.withArena {catalog : Catalog} (honest : catalog.Honest) {arena : TypeArena}
    (stores : catalog.arena.StoresTo arena) : Honest { catalog with arena := arena } := by
  intro entry isThere
  obtain ⟨knows, references⟩ := honest entry isThere
  exact ⟨stores.growsTo.knows knows, fun fits => (references fits).of_growsTo stores.growsTo⟩

theorem Honest.learn {catalog : Catalog} (honest : catalog.Honest) {source target : TypeId}
    {answer : Bool} (found : (catalog.decls.accepts catalog.arena source target).1 = .ok answer) :
    Honest { catalog with known := ((source, target), answer) :: catalog.known } := by
  refine List.forall_mem_cons.2 ⟨⟨(catalog.decls.knows_of_accepts found).1, ?_⟩, honest⟩
  rintro rfl
  exact Declarations.hasReferences_of_accepts found

/-- An honest catalog says of known types alone whether they fit another, and only of references
that they do. -/
theorem Honest.of_assignable {catalog : Catalog} (honest : catalog.Honest)
    {source target : TypeId} {answer : Bool}
    (asked : (catalog.assignable source target).1 = .ok answer) :
    (source = target ∧ answer = true) ∨
      (catalog.arena.Knows source ∧ (answer = true → catalog.arena.HasReferences source)) := by
  obtain ⟨same, given⟩ | ⟨told, remembered, given⟩ | ⟨error, given⟩ | ⟨told, found, given⟩ :=
    catalog.assignable_cases source target
  · rw [given] at asked
    exact Or.inl ⟨same, (Except.ok.inj asked).symm⟩
  · rw [given] at asked
    obtain rfl := Except.ok.inj asked
    exact Or.inr (honest _ remembered)
  · rw [given] at asked
    cases asked
  · rw [given] at asked
    obtain rfl := Except.ok.inj asked
    refine Or.inr ⟨(catalog.decls.knows_of_accepts found).1, ?_⟩
    rintro rfl
    exact Declarations.hasReferences_of_accepts found

theorem view_keepsAll_honest : view.KeepsAll Honest :=
  view_keepsAll_of (fun _ _ stores honest => honest.withArena stores)
    (fun _ _ _ _ found honest => honest.learn found)

/-- Whatever a catalog is asked, its types stay what they are. -/
theorem view_keepsAll_growsTo (start : TypeArena) :
    view.KeepsAll fun catalog => start.GrowsTo catalog.arena :=
  view_keepsAll_of (fun _ _ stores grown => grown.trans stores.growsTo)
    (fun _ _ _ _ _ grown => grown)

theorem view_keepsTypes : view.KeepsTypes where
  members_growsTo catalog type site :=
    (view_keepsAll_growsTo catalog.arena).members catalog type site (TypeArena.GrowsTo.refl _)
  assignable_growsTo catalog source target :=
    (view_keepsAll_growsTo catalog.arena).assignable catalog source target
      (TypeArena.GrowsTo.refl _)

/-- Honest catalogs tell references from other values. -/
theorem view_discerns : view.Discerns Honest where
  toKeepsTypes := view_keepsTypes
  toKeeps := view_keepsAll_honest.toKeeps
  fits catalog source target honest asked := by
    rcases honest.of_assignable asked with ⟨same, -⟩ | ⟨-, references⟩
    · exact Or.inl same
    · exact Or.inr (references rfl)
  unfit catalog source target honest asked := by
    rcases honest.of_assignable asked with ⟨-, impossible⟩ | ⟨knows, -⟩
    · cases impossible
    · exact knows
  barren catalog type site members _ barren listed :=
    Declarations.isBarren_of_mem_members barren listed

/-- Whatever a catalog is told and asked, it stays honest. -/
theorem Reachable.honest {catalog : Catalog} (reachable : catalog.Reachable) :
    catalog.Honest := by
  induction reachable with
  | empty => exact fun entry isThere => by cases isThere
  | declare _ name params supertypes members ih => exact fun entry isThere => by cases isThere
  | withUnresolved _ name ih => exact fun entry isThere => by cases isThere
  | register _ cursor site ih => exact ih
  | after _ query ih =>
      exact after_keeps view_keepsAll_honest (fun _ _ stores honest => honest.withArena stores)
        query ih

end Catalog

/-! ## Completing -/

/-- A type that is searched for and not void has references. -/
theorem Settings.hasReferences_of_included {settings : Settings} {arena : TypeArena}
    {target : TypeId} (valued : arena.isVoid target = false)
    (included : settings.excludesTarget arena target = false) : arena.HasReferences target := by
  rw [excludesTarget] at included
  cases found : arena.shape? target with
  | none => simp [found] at included
  | some shape =>
      refine TypeArena.hasReferences_iff.2 ⟨TypeArena.knows_of_shape? found, valued, ?_⟩
      rw [TypeArena.isPrimitive, found, Option.any_some, Bool.and_eq_false_imp]
      intro isBuiltIn
      have kind : shape.kind = .primitive := of_decide_eq_true isBuiltIn
      refine decide_eq_false ?_
      intro flat
      simp [found, kind, flat] at included

theorem Origins.hasReferences_target {view : ProgramView σ} {settings : Settings} {state : σ}
    {cursor : Text.Cursor} {typed : String} {set : Origins}
    (collected : (collect view settings state cursor typed).1 = some set) :
    (view.arena state).HasReferences set.target := by
  rw [collect] at collected
  split at collected
  · cases collected
  · split at collected
    · cases collected
    · next target expected =>
        simp only at collected
        split at collected
        · cases collected
        · next worthwhile =>
            obtain rfl := Option.some.inj collected
            rw [Bool.not_eq_true, Bool.or_eq_false_iff] at worthwhile
            exact Settings.hasReferences_of_included worthwhile.1 worthwhile.2

section Answer

variable (view : ProgramView σ) (settings : Settings) (signals : Signals)
  (request : CompletionRequest) (state : σ)

/-- The chains that a request is answered with, best first. -/
def answerChains : List Chain :=
  if settings.enabled = true ∧ settings.fault? = none then
    match Origins.collect view settings state request.cursor request.typed with
    | (none, _) => []
    | (some set, started) =>
        let (outcome, ended) :=
          run view signals settings.limits (request.goal view started set) started
        match outcome.reason with
        | .cancelled => []
        | _ => settings.shown (view.arena ended) request.scope outcome.chains
  else []

/-- The proposals for a request are the texts of these chains. -/
theorem complete_eq_texts :
    (complete view settings signals request state).1 =
      settings.proposalsFor
        ((answerChains view settings signals request state).map
          (settings.textsOf (view.arena (complete view settings signals request state).2)
            request.scope)) := by
  rw [answerChains]
  split
  · next on =>
      cases collected : Origins.collect view settings state request.cursor request.typed with
      | mk set started =>
          cases set with
          | none => exact complete_of_not_collected (by rw [collected])
          | some set =>
              rw [complete_of_collected on.1 on.2 collected, completeFrom]
              simp only [CompletionRequest.goal]
              generalize run view signals settings.limits _ started = found
              obtain ⟨outcome, ended⟩ := found
              cases outcome.reason with
              | cancelled => rfl
              | _ => exact settings.propose_eq _ _ _
  · next off => exact complete_of_no_limits view signals request state off

variable {view settings signals request state}

/-- A request is answered with chains that a search from its origins has found, and the answer
leaves the state that the search leaves. -/
theorem of_mem_answerChains {chain : Chain}
    (isThere : chain ∈ answerChains view settings signals request state) :
    ∃ set started,
      Origins.collect view settings state request.cursor request.typed = (some set, started) ∧
      chain ∈ (run view signals settings.limits (request.goal view started set) started).1.chains ∧
      (complete view settings signals request state).2 =
        (run view signals settings.limits (request.goal view started set) started).2 := by
  rw [answerChains] at isThere
  split at isThere
  · next on =>
      cases collected : Origins.collect view settings state request.cursor request.typed with
      | mk set started =>
          cases set with
          | none => simp [collected] at isThere
          | some set =>
              refine ⟨set, started, rfl, ?_, ?_⟩
              · simp only [collected] at isThere
                split at isThere
                · cases isThere
                · exact Settings.mem_of_mem_shown isThere
              · rw [complete_of_collected on.1 on.2 collected, completeFrom]
                simp only [CompletionRequest.goal]
                split <;> rfl
  · cases isThere

end Answer

/-- **No proposal goes through void or a built-in value.**  Whatever a catalog has been told and
asked before, whatever the settings and the request are and whatever happens from outside, the
proposals are the texts of chains of which every access gives a known type that is not void and,
unless it is an array, not built in. -/
theorem complete_through_references {catalog : Catalog} (reachable : catalog.Reachable)
    (settings : Settings) (signals : Signals) (request : CompletionRequest) :
    let chains := answerChains Catalog.view settings signals request catalog
    let arena := (complete Catalog.view settings signals request catalog).2.arena
    (complete Catalog.view settings signals request catalog).1 =
      settings.proposalsFor (chains.map (settings.textsOf arena request.scope)) ∧
    ∀ chain ∈ chains, ∀ access ∈ chain.accesses,
      arena.Knows access.member.result ∧
      arena.isVoid access.member.result = false ∧
      arena.isPrimitive access.member.result = false := by
  intro chains arena
  refine ⟨complete_eq_texts Catalog.view settings signals request catalog, ?_⟩
  intro chain isThere access isAccess
  obtain ⟨set, started, collected, found, left⟩ := of_mem_answerChains isThere
  -- collecting the origins has stored types, and left what is remembered as it was
  have honest := Origins.collect_keeps Catalog.view_keepsAll_honest settings request.cursor
    request.typed reachable.honest
  have grows := Origins.collect_keeps (Catalog.view_keepsAll_growsTo catalog.arena) settings
    request.cursor request.typed (TypeArena.GrowsTo.refl _)
  have wanted : catalog.arena.HasReferences set.target :=
    Origins.hasReferences_target (by rw [collected])
  rw [collected] at honest grows
  have give := run_onReferences Catalog.view_discerns signals settings.limits
    (request.goal Catalog.view started set) honest (wanted.of_growsTo grows) chain found
  rw [← left] at give
  exact TypeArena.hasReferences_iff.1 (give access isAccess)

/-! ## Arrays of numbers

A row of numbers is expected, and a row and a table of rows are in reach. -/

/-- The types: `int`, `int[]` and `int[][]`. -/
def numberTypes : List Query :=
  [.store ⟨.primitive, "int", [], 0⟩, .addDims ⟨0⟩ 1, .addDims ⟨0⟩ 2]

def numberSite : CursorSite :=
  { CursorSite.unknown with
    expected := some ⟨1⟩
    bindings := [⟨"row", ⟨1⟩, .localVariable, false⟩, ⟨"table", ⟨2⟩, .localVariable, false⟩] }

def numberCatalog : Catalog :=
  (Catalog.empty.afterAll numberTypes).register ⟨⟨0⟩, 0⟩ numberSite

def numberCompletion : CompletionRequest := ⟨⟨⟨0⟩, 0⟩, "", ImportScope.empty⟩

/-- Settings of a client that knows no placeholders. -/
def plainSettings : Settings := { Settings.standard with snippets := false }

/-- A row of the table is proposed, and nothing in it is a number. -/
theorem complete_through_references_numbers :
    numberCatalog.Reachable ∧
    (complete Catalog.view plainSettings Signals.quiet numberCompletion numberCatalog).1.map
      (·.texts.insertText) = ["table[]"] ∧
    ∀ chain ∈ answerChains Catalog.view plainSettings Signals.quiet numberCompletion numberCatalog,
      ∀ access ∈ chain.accesses,
        (complete Catalog.view plainSettings Signals.quiet numberCompletion
          numberCatalog).2.arena.isPrimitive access.member.result = false := by
  have reachable : numberCatalog.Reachable :=
    (Catalog.Reachable.empty.afterAll numberTypes).register _ _
  obtain ⟨-, references⟩ :=
    complete_through_references reachable plainSettings Signals.quiet numberCompletion
  exact ⟨reachable, by decide, fun chain isThere access isAccess =>
    (references chain isThere access isAccess).2.2⟩

-- the search looks at three nodes: the row, the table, and the number that the row has as entry
example : (run Catalog.view Signals.quiet plainSettings.limits
    (numberCompletion.goal Catalog.view numberCatalog ⟨⟨1⟩, numberSite.bindings, []⟩)
    numberCatalog).1.expanded = 3 := by
  decide

end ChainCompletion
