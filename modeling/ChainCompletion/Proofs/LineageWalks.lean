/-
# Proofs.LineageWalks -- the walk up from a type

The walk takes the first type off a line, passes it over if its name was met before, and
otherwise lists it and lets its declared supertypes join the line (`Walk`).  It counts no
visits.  Types come up on the way without end where declarations nest their own arguments,
but names do not: each name lets the supertypes of its declaration join once (`unopened`), so
the line runs out, and the visits that a lineage allows itself are enough (`lineage_walk`).

In the arena that the walk ends with, or a later one, it is a list of types (`Lists`) or it
breaks off at an unresolved name (`Breaks`).  What follows is by induction along the line:

* no name is listed twice, and what is listed is resolved (`Lists.nodup`, `Lists.opened_of_mem`);
* what waits is listed, and so is what is above a listed type (`Lists.waiting_listed`,
  `Lists.closed`), and nothing else is (`Lists.origin`).
-/
import ChainCompletion.Proofs.SettledAnswers
import ChainCompletion.Proofs.VariableReplacement

namespace ChainCompletion

open Denotes

set_option autoImplicit false

theorem TypeArena.qualifiedName_of_shape? {arena : TypeArena} {type : TypeId} {shape : TypeShape}
    (found : arena.shape? type = some shape) : arena.qualifiedName type = shape.name := by
  rw [qualifiedName, found]

namespace Declarations

open TypeArena

/-! ## The walk ends -/

/-- A walk along the types that wait in line, passing over the names in `seen`, for as many
visits as it takes. -/
inductive Walk (decls : Declarations) :
    TypeArena → List String → List TypeId → Except LookupError (List TypeId) × TypeArena → Prop
  | done (arena : TypeArena) (seen : List String) : Walk decls arena seen [] (.ok [], arena)
  | unknown {arena : TypeArena} {type : TypeId} (isUnknown : arena.shape? type = none)
      (seen : List String) (waiting : List TypeId) :
      Walk decls arena seen (type :: waiting) (.error (.unresolvedType type.text), arena)
  | again {arena : TypeArena} {seen : List String} {type : TypeId} {waiting : List TypeId}
      {shape : TypeShape} {result : Except LookupError (List TypeId) × TypeArena}
      (found : arena.shape? type = some shape) (isSeen : shape.name ∈ seen)
      (rest : Walk decls arena seen waiting result) : Walk decls arena seen (type :: waiting) result
  | unresolved {arena : TypeArena} {seen : List String} {type : TypeId} {shape : TypeShape}
      (found : arena.shape? type = some shape) (isNew : shape.name ∉ seen)
      (isUnresolved : shape.name ∈ decls.unresolved) (waiting : List TypeId) :
      Walk decls arena seen (type :: waiting) (.error (.unresolvedType shape.name), arena)
  | opened {arena : TypeArena} {seen : List String} {type : TypeId} {waiting : List TypeId}
      {shape : TypeShape} {result : Except LookupError (List TypeId) × TypeArena}
      (found : arena.shape? type = some shape) (isNew : shape.name ∉ seen)
      (isResolved : shape.name ∉ decls.unresolved)
      (rest : Walk decls (decls.parents arena shape).2 (shape.name :: seen)
        (waiting ++ (decls.parents arena shape).1) result) :
      Walk decls arena seen (type :: waiting) (result.1.map (type :: ·), result.2)

/-- The number of supertypes in the entries whose names have not been seen. -/
def unopened (seen : List String) (entries : List (String × ClassDecl)) : Nat :=
  entries.foldr
    (fun entry count => if entry.1 ∈ seen then count else entry.2.supertypes.length + count) 0

theorem unopened_cons (seen : List String) (entry : String × ClassDecl)
    (entries : List (String × ClassDecl)) :
    unopened seen (entry :: entries) =
      if entry.1 ∈ seen then unopened seen entries
      else entry.2.supertypes.length + unopened seen entries := rfl

theorem unopened_seen_le (name : String) (seen : List String)
    (entries : List (String × ClassDecl)) :
    unopened (name :: seen) entries ≤ unopened seen entries := by
  induction entries with
  | nil => exact Nat.le_refl _
  | cons entry entries ih =>
      rw [unopened_cons, unopened_cons]
      by_cases isSeen : entry.1 ∈ seen
      · simp only [isSeen, List.mem_cons_of_mem, if_true]
        exact ih
      · simp only [isSeen, if_false]
        split <;> omega

/-- A name that is opened takes the supertypes of its declaration from the count. -/
theorem unopened_of_lookup {name : String} {seen : List String} (isNew : name ∉ seen)
    {entries : List (String × ClassDecl)} {decl : ClassDecl}
    (declared : entries.lookup name = some decl) :
    decl.supertypes.length + unopened (name :: seen) entries ≤ unopened seen entries := by
  induction entries with
  | nil => cases declared
  | cons entry entries ih =>
      obtain ⟨other, first⟩ := entry
      rw [unopened_cons, unopened_cons]
      by_cases same : name = other
      · subst same
        have rest := unopened_seen_le name seen entries
        obtain rfl : first = decl := by simpa [List.lookup_cons] using declared
        simp only [List.mem_cons_self, if_true, isNew, if_false]
        omega
      · rw [List.lookup_cons, beq_eq_false_iff_ne.2 same] at declared
        have rest := ih declared
        have different : other ≠ name := fun equal => same equal.symm
        simp only [List.mem_cons, different, false_or]
        split <;> omega

variable {decls : Declarations}

theorem length_parents_add_unopened (arena : TypeArena) {shape : TypeShape} {seen : List String}
    (isNew : shape.name ∉ seen) :
    (decls.parents arena shape).1.length + unopened (shape.name :: seen) decls.types ≤
      unopened seen decls.types := by
  rw [parents]
  cases declared : decls.find? shape.name with
  | none =>
      simp only [List.length_nil, Nat.zero_add]
      exact unopened_seen_le _ _ _
  | some decl =>
      simp only [length_threadMap]
      exact unopened_of_lookup isNew declared

/-- A walk that is allowed a visit for each type in line and for each supertype that may still
join it is not cut short. -/
theorem lineageFrom_walk {visits : Nat} {arena : TypeArena} {seen : List String}
    {waiting : List TypeId}
    (enough : waiting.length + unopened seen decls.types ≤ visits) :
    decls.Walk arena seen waiting (decls.lineageFrom visits arena seen waiting) := by
  induction visits generalizing arena seen waiting with
  | zero =>
      cases waiting with
      | nil => exact .done arena seen
      | cons type waiting => simp at enough
  | succ visits ih =>
      cases waiting with
      | nil => exact .done arena seen
      | cons type waiting =>
          rw [List.length_cons] at enough
          rw [lineageFrom]
          cases found : arena.shape? type with
          | none => exact .unknown found seen waiting
          | some shape =>
              simp only
              by_cases isSeen : shape.name ∈ seen
              · rw [if_pos isSeen]
                exact .again found isSeen (ih (by omega))
              · rw [if_neg isSeen]
                by_cases isUnresolved : shape.name ∈ decls.unresolved
                · rw [if_pos isUnresolved]
                  exact .unresolved found isSeen isUnresolved waiting
                · rw [if_neg isUnresolved]
                  have joined := @length_parents_add_unopened decls arena shape seen isSeen
                  have rest := @ih (decls.parents arena shape).2 (shape.name :: seen)
                    (waiting ++ (decls.parents arena shape).1)
                    (by rw [List.length_append]; omega)
                  have walked := Walk.opened found isSeen isUnresolved rest
                  generalize decls.lineageFrom visits (decls.parents arena shape).2
                    (shape.name :: seen) (waiting ++ (decls.parents arena shape).1) = result
                    at walked ⊢
                  obtain ⟨answer, after⟩ := result
                  cases answer <;> exact walked

/-- The lineage of a type is a walk that has come to its end. -/
theorem lineage_walk (decls : Declarations) (arena : TypeArena) (type : TypeId) :
    decls.Walk arena [] [type] (decls.lineage arena type) := by
  refine lineageFrom_walk (Nat.le_of_eq ?_)
  rw [lineageSteps, unopened]
  simp

/-- A walk has one outcome. -/
theorem Walk.unique {arena : TypeArena} {seen : List String} {waiting : List TypeId}
    {result other : Except LookupError (List TypeId) × TypeArena}
    (walk : decls.Walk arena seen waiting result) (walk' : decls.Walk arena seen waiting other) :
    other = result := by
  induction walk generalizing other with
  | done arena seen =>
      cases walk'
      rfl
  | unknown isUnknown seen waiting =>
      cases walk' with
      | unknown isUnknown' => rfl
      | _ => simp_all
  | again found isSeen rest ih =>
      cases walk' with
      | again found' isSeen' rest' => exact ih rest'
      | _ => simp_all
  | unresolved found isNew isUnresolved waiting =>
      cases walk' with
      | unresolved found' =>
          rw [found] at found'
          obtain rfl := Option.some.inj found'
          rfl
      | _ => simp_all
  | opened found isNew isResolved rest ih =>
      cases walk' with
      | opened found' isNew' isResolved' rest' =>
          rw [found] at found'
          obtain rfl := Option.some.inj found'
          rw [ih rest']
      | _ => simp_all

theorem Walk.growsTo {arena : TypeArena} {seen : List String} {waiting : List TypeId}
    {result : Except LookupError (List TypeId) × TypeArena}
    (walk : decls.Walk arena seen waiting result) : arena.GrowsTo result.2 := by
  induction walk with
  | done arena seen => exact GrowsTo.refl _
  | unknown isUnknown seen waiting => exact GrowsTo.refl _
  | again found isSeen rest ih => exact ih
  | unresolved found isNew isUnresolved waiting => exact GrowsTo.refl _
  | opened found isNew isResolved rest ih =>
      exact (decls.parents_storesTo _ _).growsTo.trans ih

/-! ## The walk in its last arena -/

section Outcome

variable (decls) (arena : TypeArena)

/-- The types that a walk lists, in an arena that has stored all it comes upon. -/
inductive Lists : List String → List TypeId → List TypeId → Prop
  | done (seen : List String) : Lists seen [] []
  | again {seen : List String} {type : TypeId} {waiting types : List TypeId}
      (isSeen : arena.qualifiedName type ∈ seen) (rest : Lists seen waiting types) :
      Lists seen (type :: waiting) types
  | opened {seen : List String} {type : TypeId} {waiting types : List TypeId}
      (isKnown : arena.Knows type) (isNew : arena.qualifiedName type ∉ seen)
      (isResolved : arena.qualifiedName type ∉ decls.unresolved)
      (stored : Known arena (decls.above arena type))
      (rest : Lists (arena.qualifiedName type :: seen) (waiting ++ decls.above arena type) types) :
      Lists seen (type :: waiting) (type :: types)

/-- The unresolved name at which a walk breaks off. -/
inductive Breaks : List String → List TypeId → String → Prop
  | again {seen : List String} {type : TypeId} {waiting : List TypeId} {name : String}
      (isSeen : arena.qualifiedName type ∈ seen) (rest : Breaks seen waiting name) :
      Breaks seen (type :: waiting) name
  | here {seen : List String} {type : TypeId}
      (isUnresolved : arena.qualifiedName type ∈ decls.unresolved) (waiting : List TypeId) :
      Breaks seen (type :: waiting) (arena.qualifiedName type)
  | opened {seen : List String} {type : TypeId} {waiting : List TypeId} {name : String}
      (isKnown : arena.Knows type) (stored : Known arena (decls.above arena type))
      (rest : Breaks (arena.qualifiedName type :: seen) (waiting ++ decls.above arena type) name) :
      Breaks seen (type :: waiting) name

end Outcome

/-- From known types, a walk lists types or breaks off. -/
theorem Walk.outcome {base last : TypeArena} (declsKnown : decls.KnownIn base)
    (ordered : last.Ordered) {arena : TypeArena} {seen : List String} {waiting : List TypeId}
    {result : Except LookupError (List TypeId) × TypeArena}
    (walk : decls.Walk arena seen waiting result) (grown : base.GrowsTo arena)
    (known : Known arena waiting) (grows : result.2.GrowsTo last) :
    (∃ types, result.1 = .ok types ∧ decls.Lists last seen waiting types) ∨
      ∃ name, result.1 = .error (.unresolvedType name) ∧ decls.Breaks last seen waiting name := by
  induction walk with
  | done arena seen => exact Or.inl ⟨[], rfl, .done seen⟩
  | unknown isUnknown seen waiting =>
      obtain ⟨shape, found⟩ := knows_iff.1 (known_cons.1 known).1
      rw [isUnknown] at found
      cases found
  | again found isSeen rest ih =>
      have name := qualifiedName_of_shape? (shape?_of_growsTo (rest.growsTo.trans grows) found)
      rcases ih grown (known_cons.1 known).2 grows with ⟨types, answer, lists⟩ | ⟨at', answer, breaks⟩
      · exact Or.inl ⟨types, answer, .again (by rwa [name]) lists⟩
      · exact Or.inr ⟨at', answer, .again (by rwa [name]) breaks⟩
  | unresolved found isNew isUnresolved waiting =>
      have name := qualifiedName_of_shape? (shape?_of_growsTo grows found)
      refine Or.inr ⟨_, rfl, ?_⟩
      rw [← name] at isUnresolved ⊢
      exact .here isUnresolved waiting
  | @opened arena seen type waiting shape result found isNew isResolved rest ih =>
      have stores := (decls.parents_storesTo arena shape).growsTo
      have growsAbove := rest.growsTo.trans grows
      have since := stores.trans growsAbove
      have name := qualifiedName_of_shape? (shape?_of_growsTo since found)
      have isKnown := since.knows (known_cons.1 known).1
      have above := parents_yields declsKnown grown (ordered.of_growsTo since) found
      have settled := parents_settled declsKnown grown ordered found growsAbove
      have stored : Known last (decls.above last type) := by
        rw [← settled]
        exact known_of_growsTo growsAbove above.known
      have line : Known (decls.parents arena shape).2 (waiting ++ (decls.parents arena shape).1) :=
        known_append.2 ⟨above.known_of (known_cons.1 known).2, above.known⟩
      have walked := ih (grown.trans stores) line grows
      rw [settled, ← name] at walked
      rw [← name] at isNew isResolved
      rcases walked with ⟨types, answer, lists⟩ | ⟨at', answer, breaks⟩
      · refine Or.inl ⟨type :: types, ?_, .opened isKnown isNew isResolved stored lists⟩
        rw [answer]
        rfl
      · refine Or.inr ⟨at', ?_, .opened isKnown stored breaks⟩
        rw [answer]
        rfl

/-! ## What a walk lists -/

/-- A name that is seen first counts as listed once it is put in front of the list. -/
theorem listed_cons {name first : String} {seen names : List String}
    (listed : name ∈ first :: seen ∨ name ∈ names) : name ∈ seen ∨ name ∈ first :: names := by
  rcases listed with isSeen | isListed
  · rcases List.mem_cons.1 isSeen with rfl | isOld
    · exact Or.inr List.mem_cons_self
    · exact Or.inl isOld
  · exact Or.inr (List.mem_cons_of_mem _ isListed)

namespace Lists

variable {arena : TypeArena} {seen : List String} {waiting types : List TypeId}
  (lists : decls.Lists arena seen waiting types)

include lists

/-- Every listed type is known and resolved, and its supertypes are stored. -/
theorem opened_of_mem : ∀ type ∈ types, arena.Knows type ∧
    arena.qualifiedName type ∉ decls.unresolved ∧ Known arena (decls.above arena type) := by
  induction lists with
  | done seen =>
      intro type isThere
      cases isThere
  | again isSeen rest ih => exact ih
  | opened isKnown isNew isResolved stored rest ih =>
      intro other isThere
      rcases List.mem_cons.1 isThere with rfl | isLater
      · exact ⟨isKnown, isResolved, stored⟩
      · exact ih other isLater

theorem name_not_mem_seen : ∀ type ∈ types, arena.qualifiedName type ∉ seen := by
  induction lists with
  | done seen =>
      intro type isThere
      cases isThere
  | again isSeen rest ih => exact ih
  | opened isKnown isNew isResolved stored rest ih =>
      intro other isThere
      rcases List.mem_cons.1 isThere with rfl | isLater
      · exact isNew
      · intro isSeen
        exact ih other isLater (List.mem_cons_of_mem _ isSeen)

/-- No name is listed twice. -/
theorem nodup : (types.map arena.qualifiedName).Nodup := by
  induction lists with
  | done seen => exact List.nodup_nil
  | again isSeen rest ih => exact ih
  | opened isKnown isNew isResolved stored rest ih =>
      rw [List.map_cons, List.nodup_cons]
      refine ⟨?_, ih⟩
      intro isThere
      obtain ⟨other, isLater, same⟩ := List.mem_map.1 isThere
      apply rest.name_not_mem_seen other isLater
      rw [same]
      exact List.mem_cons_self

/-- What waits in line is listed under its name, unless that was seen before. -/
theorem waiting_listed : ∀ type ∈ waiting,
    arena.qualifiedName type ∈ seen ∨ arena.qualifiedName type ∈ types.map arena.qualifiedName := by
  induction lists with
  | done seen =>
      intro type isThere
      cases isThere
  | again isSeen rest ih =>
      intro other isThere
      rcases List.mem_cons.1 isThere with rfl | isLater
      · exact Or.inl isSeen
      · exact ih other isLater
  | opened isKnown isNew isResolved stored rest ih =>
      intro other isThere
      rcases List.mem_cons.1 isThere with rfl | isLater
      · exact Or.inr List.mem_cons_self
      · exact listed_cons (ih other (List.mem_append_left _ isLater))

/-- What is above a listed type is listed under its name, unless that was seen before. -/
theorem closed : ∀ type ∈ types, ∀ supertype ∈ decls.above arena type,
    arena.qualifiedName supertype ∈ seen ∨
      arena.qualifiedName supertype ∈ types.map arena.qualifiedName := by
  induction lists with
  | done seen =>
      intro type isThere
      cases isThere
  | again isSeen rest ih => exact ih
  | opened isKnown isNew isResolved stored rest ih =>
      intro other isThere supertype isAbove
      rcases List.mem_cons.1 isThere with rfl | isLater
      · exact listed_cons (rest.waiting_listed supertype (List.mem_append_right _ isAbove))
      · exact listed_cons (ih other isLater supertype isAbove)

/-- Every listed type has waited in line or is above one that is listed before it. -/
theorem origin {early late : List TypeId} {type : TypeId} (split : types = early ++ type :: late) :
    type ∈ waiting ∨ ∃ below ∈ early, type ∈ decls.above arena below := by
  induction lists generalizing early with
  | done seen => simp at split
  | again isSeen rest ih =>
      rcases ih split with waits | isAbove
      · exact Or.inl (List.mem_cons_of_mem _ waits)
      · exact Or.inr isAbove
  | opened isKnown isNew isResolved stored rest ih =>
      cases early with
      | nil =>
          obtain ⟨rfl, -⟩ := List.cons.inj split
          exact Or.inl List.mem_cons_self
      | cons first early =>
          obtain ⟨rfl, splitRest⟩ := List.cons.inj split
          rcases ih splitRest with waits | ⟨below, isEarly, isAbove⟩
          · rcases List.mem_append.1 waits with waited | isAbove
            · exact Or.inl (List.mem_cons_of_mem _ waited)
            · exact Or.inr ⟨_, List.mem_cons_self, isAbove⟩
          · exact Or.inr ⟨below, List.mem_cons_of_mem _ isEarly, isAbove⟩

end Lists

/-- The first type in line is listed first when nothing has been seen. -/
theorem Lists.head_eq {arena : TypeArena} {type : TypeId} {waiting types : List TypeId}
    (lists : decls.Lists arena [] (type :: waiting) types) : types.head? = some type := by
  cases lists with
  | again isSeen rest => cases isSeen
  | opened isKnown isNew isResolved stored rest => rfl

/-- Whatever is listed after the first type is above a type before it. -/
theorem Lists.above_earlier {arena : TypeArena} {type : TypeId} {types : List TypeId}
    (lists : decls.Lists arena [] [type] types) {early late : List TypeId} {entry : TypeId}
    (split : types = early ++ entry :: late) (notFirst : early ≠ []) :
    ∃ below ∈ early, entry ∈ decls.above arena below := by
  refine (lists.origin split).resolve_left ?_
  -- the type itself stands first, and no name is listed twice
  intro waits
  rw [List.mem_singleton] at waits
  obtain ⟨first, early, rfl⟩ := List.exists_cons_of_ne_nil notFirst
  have head := lists.head_eq
  rw [split, List.cons_append, List.head?_cons, Option.some.injEq] at head
  have distinct := lists.nodup
  rw [split, waits, head] at distinct
  simp at distinct

/-- The lineage of a known type lists types or breaks off. -/
theorem lineage_outcome {arena last : TypeArena} (declsKnown : decls.KnownIn arena)
    (ordered : last.Ordered) {type : TypeId} (known : arena.Knows type)
    (grows : (decls.lineage arena type).2.GrowsTo last) :
    (∃ types, (decls.lineage arena type).1 = .ok types ∧ decls.Lists last [] [type] types) ∨
      ∃ name, (decls.lineage arena type).1 = .error (.unresolvedType name) ∧
        decls.Breaks last [] [type] name :=
  (decls.lineage_walk arena type).outcome declsKnown ordered (GrowsTo.refl _)
    (known_singleton.2 known) grows

theorem lineage_lists {arena last : TypeArena} (declsKnown : decls.KnownIn arena)
    (ordered : last.Ordered) {type : TypeId} (known : arena.Knows type) {types : List TypeId}
    (succeeded : (decls.lineage arena type).1 = .ok types)
    (grows : (decls.lineage arena type).2.GrowsTo last) : decls.Lists last [] [type] types := by
  rcases lineage_outcome declsKnown ordered known grows with
    ⟨others, answer, lists⟩ | ⟨name, answer, -⟩
  · rw [succeeded] at answer
    rwa [Except.ok.inj answer]
  · rw [succeeded] at answer
    cases answer

end Declarations

end ChainCompletion
