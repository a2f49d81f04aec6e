/-
# Proofs.SettledAnswers -- asked again later, a question has the same answer

A question that stores types changes the arena for the questions after it.  Once all of
them have been asked, the arena has every type that came up on the way, and each question,
asked again on its own, has the answer that it had then: it yields the same tree, and there
is one type for a tree (`Yields.settled`).  So what a walk or a listing does one question
after the other can be said in terms of its last arena alone, or of any later one
(`threadMap_settled`).

* `instantiate_settled`, `permits_settled`: types with arguments in place of parameters, and
  who may use a member;
* `parents_settled`: the declared supertypes of a type (`Declarations.above`);
* `Yields.eq_map`: two questions that yield lists, the second what a change makes of the first.
-/
import ChainCompletion.Proofs.DeclarationTrees
import ChainCompletion.Proofs.Storing

namespace ChainCompletion

open Denotes

set_option autoImplicit false

namespace TypeArena

variable {before later : TypeArena}

/-- A question that yields the same later has the same answer later. -/
theorem Yields.settled {α β : Type} [Denotes α β] {result again : α × TypeArena} {value : β}
    (asked : before.Yields result value) (grows : result.2.GrowsTo later)
    (askedAgain : later.Yields again value) : result.1 = again.1 := by
  have grown := grows.trans askedAgain.grows
  refine meaning_inj askedAgain.ordered (known_of_growsTo grown asked.known) askedAgain.known ?_
  rw [meaning_of_growsTo asked.ordered grown asked.known, asked.means, askedAgain.means]

/-- A type that was there before the question has the tree that the question yields. -/
theorem Yields.tree_eq {result : TypeId × TypeArena} {tree : TypeTree}
    (asked : before.Yields result tree) (ordered : before.Ordered) (known : before.Knows result.1) :
    before.tree result.1 = tree := by
  rw [← tree_of_growsTo ordered asked.grows known]
  exact asked.means

/-- Things that are there already are the answers to questions that yield what they mean. -/
theorem eq_map_of_yields {ι α β : Type} [Denotes α β] {ask : ι → α × TypeArena} {value : ι → β}
    (ordered : later.Ordered) {things : List α} {items : List ι} (known : Known later things)
    (means : meaning later things = items.map value)
    (each : ∀ item ∈ items, later.Yields (ask item) (value item)) :
    things = items.map fun item => (ask item).1 := by
  induction items generalizing things with
  | nil => exact List.map_eq_nil_iff.1 means
  | cons item items ih =>
      obtain ⟨thing, rest, rfl, first, others⟩ := List.map_eq_cons_iff.1 means
      obtain ⟨knownThing, knownRest⟩ := known_cons.1 known
      have there := Yields.here ordered knownThing
      rw [first] at there
      rw [List.map_cons, ← there.settled (GrowsTo.refl _) (each item List.mem_cons_self),
        ← ih knownRest others fun other isThere => each other (List.mem_cons_of_mem _ isThere)]

/-- Where the outcome of a question is that of another, changed thing by thing, its answer is the
answer to the other, changed likewise. -/
theorem Yields.eq_map {ε α β γ δ : Type} [Denotes α β] [Denotes γ δ] {first second : TypeArena}
    {result : Except ε (List α) × TypeArena} {result' : Except ε (List γ) × TypeArena}
    {outcome : Except ε (List β)} {change : β → δ} (asked : first.Yields result outcome)
    (asked' : second.Yields result' (outcome.map (List.map change))) (ordered : later.Ordered)
    (grows : result.2.GrowsTo later) (grows' : result'.2.GrowsTo later) {ask : α → γ × TypeArena}
    (each : ∀ thing, Known later thing → later.Yields (ask thing) (change (meaning later thing))) :
    result'.1 = result.1.map (List.map fun thing => (ask thing).1) := by
  obtain ⟨answer, after⟩ := result
  obtain ⟨answer', after'⟩ := result'
  rcases asked.split with ⟨reason, rfl, rfl⟩ | ⟨things, values, rfl, rfl, listed⟩
  · rcases asked'.split with ⟨reason', rfl, failed⟩ | ⟨things', values', -, succeeded, -⟩
    · cases failed
      rfl
    · cases succeeded
  · rcases asked'.split with ⟨reason', -, failed⟩ | ⟨things', values', rfl, succeeded, listed'⟩
    · cases failed
    · obtain rfl := Except.ok.inj succeeded
      have known : Known later things := known_of_growsTo grows listed.known
      have means : meaning later things' = things.map fun thing => change (meaning later thing) := by
        rw [meaning_of_growsTo listed'.ordered grows' listed'.known, listed'.means, ← listed.means,
          ← meaning_of_growsTo listed.ordered grows listed.known]
        exact List.map_map
      exact congrArg Except.ok
        (eq_map_of_yields ordered (known_of_growsTo grows' listed'.known) means
          fun thing isThere => each thing (known thing isThere))

/-- Questions asked one after the other have the answers that each of them has later. -/
theorem threadMap_settled {α β : Type} {ask : TypeArena → α → β × TypeArena} {answer : α → β}
    (stores : ∀ (arena : TypeArena) item, arena.StoresTo (ask arena item).2) {items : List α}
    {start : TypeArena}
    (settled : ∀ item ∈ items, ∀ arena, start.GrowsTo arena →
      (ask arena item).2.GrowsTo later → (ask arena item).1 = answer item)
    (grows : (threadMap ask start items).2.GrowsTo later) :
    (threadMap ask start items).1 = items.map answer := by
  induction items generalizing start with
  | nil => rfl
  | cons item items ih =>
      rw [threadMap_cons] at grows ⊢
      have first := (stores start item).growsTo
      have rest := (threadMap_storesTo stores (ask start item).2 items).growsTo
      have head := settled item (by simp) start (GrowsTo.refl _) (rest.trans grows)
      have tail := ih (fun other isThere arena grown =>
        settled other (by simp [isThere]) arena (first.trans grown)) grows
      rw [List.map_cons, ← head, ← tail]

theorem instantiate_settled {params args : List TypeId} {type : TypeId} (ordered : later.Ordered)
    (knownParams : Known before params) (knownArgs : Known before args)
    (known : before.Knows type)
    (grows : (before.instantiate params args type).2.GrowsTo later) :
    (before.instantiate params args type).1 = (later.instantiate params args type).1 := by
  have grown := (instantiate_storesTo params args before type).growsTo.trans grows
  have orderedBefore := ordered.of_growsTo grown
  have asked := instantiate_yields orderedBefore knownParams knownArgs known
  have askedAgain := instantiate_yields ordered (known_of_growsTo grown knownParams)
    (known_of_growsTo grown knownArgs) (grown.knows known)
  rw [tree_of_growsTo orderedBefore grown known, meaning_of_growsTo orderedBefore grown knownParams,
    meaning_of_growsTo orderedBefore grown knownArgs] at askedAgain
  exact asked.settled grows askedAgain

end TypeArena

namespace Declarations

open TypeArena

/-- The declared supertypes of a type, with its arguments in place of the parameters of its
declaration. -/
def above (decls : Declarations) (arena : TypeArena) (type : TypeId) : List TypeId :=
  match arena.shape? type with
  | none => []
  | some shape =>
      match decls.find? shape.name with
      | none => []
      | some decl =>
          decl.supertypes.map fun supertype =>
            (arena.instantiate decl.params shape.args supertype).1

section Later

variable {decls : Declarations} {base arena later : TypeArena} (declsKnown : decls.KnownIn base)
  (grown : base.GrowsTo arena) (ordered : later.Ordered)

include declsKnown grown ordered

omit declsKnown in
/-- Types of a declaration that are instantiated one after the other are those that each of
them is later. -/
theorem threadMap_instantiate_settled {type : TypeId} {shape : TypeShape}
    (found : arena.shape? type = some shape) {params parts : List TypeId}
    (knownParams : Known base params) (knownParts : Known base parts)
    (grows : (threadMap (fun arena part => arena.instantiate params shape.args part)
      arena parts).2.GrowsTo later) :
    (threadMap (fun arena part => arena.instantiate params shape.args part) arena parts).1 =
      parts.map fun part => (later.instantiate params shape.args part).1 := by
  have stores : ∀ (arena : TypeArena) part,
      arena.StoresTo (arena.instantiate params shape.args part).2 :=
    fun arena part => instantiate_storesTo _ _ arena part
  have orderedArena := ordered.of_growsTo ((threadMap_storesTo stores _ _).growsTo.trans grows)
  have knownArgs : Known arena shape.args := fun arg isArg => orderedArena.knows_arg found isArg
  refine threadMap_settled stores ?_ grows
  intro part isPart between grownBetween growsBetween
  have sinceBase := grown.trans grownBetween
  exact instantiate_settled ordered (known_of_growsTo sinceBase knownParams)
    (known_of_growsTo grownBetween knownArgs) (sinceBase.knows (knownParts part isPart)) growsBetween

theorem parents_settled {type : TypeId} {shape : TypeShape} (found : arena.shape? type = some shape)
    (grows : (decls.parents arena shape).2.GrowsTo later) :
    (decls.parents arena shape).1 = decls.above later type := by
  have since := (decls.parents_storesTo arena shape).growsTo.trans grows
  rw [above, shape?_of_growsTo since found]
  rw [parents] at grows ⊢
  cases declared : decls.find? shape.name with
  | none => simp only [declared]
  | some decl =>
      have known := declsKnown.find? declared
      simp only [declared] at grows ⊢
      exact threadMap_instantiate_settled grown ordered found known.params known.supertypes grows

theorem permits_settled (site : CallSite) (declaring : String) (visibility : Visibility)
    (grows : (decls.permits arena site declaring visibility).2.GrowsTo later) :
    (decls.permits arena site declaring visibility).1 =
      (decls.permits later site declaring visibility).1 := by
  have since := (decls.permits_storesTo arena site declaring visibility).growsTo.trans grows
  have asked := permits_yields declsKnown grown (ordered.of_growsTo since) site declaring visibility
  have askedAgain := permits_yields declsKnown (grown.trans since) ordered site declaring visibility
  exact asked.settled grows askedAgain

end Later

end Declarations

end ChainCompletion
