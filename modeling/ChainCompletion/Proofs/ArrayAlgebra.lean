/-
# Proofs.ArrayAlgebra -- dimensions add up

Rows of rows are a grid, whichever way the grid was asked for.  The two ways store different
types, in a different order and with others in between, and still end at one number.

A history of an arena leads from `start` to `last` by storing shapes, whoever stores them, and
a question has been asked at some point of it (`Answered`).  A type that is passed to a
question must mean the same from then on: it is known, or is not handed out before the end of
the history (`Settled`).  Parameters of an instantiation are only compared, and may be any
numbers.

Asked again in the end, every question has its old answer and stores nothing
(`Answered.addDims_again`, `Answered.component_again`, `Answered.element_again`,
`Answered.instantiate_again`).  So all that is said about a history is said about its last
arena, where each shape has one number (`array_laws`).  An argument that is passed before it is
handed out breaks the last law (`late_argument_breaks_law`).
-/
import ChainCompletion.Proofs.ArenaRuns
import ChainCompletion.Proofs.Storing

namespace ChainCompletion.TypeArena

set_option autoImplicit false

variable {α : Type} {first start now last : TypeArena} {type : TypeId} {shape : TypeShape}

/-! ## Histories -/

/-- Whether a type stands for the same now and at the end of a history. -/
def Settled (now last : TypeArena) (type : TypeId) : Prop :=
  now.Knows type ∨ ¬ last.Knows type

/-- Whether a question to which these types are passed has been asked at some point of a
history, and had this answer. -/
def Answered (start last : TypeArena) (passed : List TypeId) (ask : TypeArena → α × TypeArena)
    (answer : α) : Prop :=
  ∃ now, start.StoresTo now ∧ (∀ type ∈ passed, now.Settled last type) ∧
    (ask now).2.StoresTo last ∧ (ask now).1 = answer

/-- A question can be asked at the start of a history that goes on from there. -/
theorem Answered.here {passed : List TypeId} (known : ∀ type ∈ passed, start.Knows type)
    (ask : TypeArena → α × TypeArena) (rest : (ask start).2.StoresTo last) :
    start.Answered last passed ask (ask start).1 :=
  ⟨start, .refl _, fun type isPassed => Or.inl (known type isPassed), rest, rfl⟩

/-- What was asked in a part of a history was asked in the whole. -/
theorem Answered.earlier {passed : List TypeId} {ask : TypeArena → α × TypeArena} {answer : α}
    (asked : start.Answered last passed ask answer) (stores : first.StoresTo start) :
    first.Answered last passed ask answer := by
  obtain ⟨now, since, settled, rest, isAnswer⟩ := asked
  exact ⟨now, stores.trans since, settled, rest, isAnswer⟩

theorem GrowsTo.antisymm (grows : now.GrowsTo last) (back : last.GrowsTo now) : now = last := by
  have same := List.IsPrefix.eq_of_length_le grows back.size_le
  cases now
  cases last
  congr
  exact congrArg Pool.mk same

/-- A settled type has its shape already. -/
theorem Settled.shape? (settled : now.Settled last type) (grows : now.GrowsTo last)
    (found : last.shape? type = some shape) : now.shape? type = some shape := by
  obtain ⟨early, found'⟩ := knows_iff.1 (settled.resolve_right fun unknown => unknown (knows_of_shape? found))
  rw [shape?_of_growsTo grows found'] at found
  rwa [found']

/-- A settled type that has no shape yet never has one. -/
theorem Settled.shape?_eq_none (settled : now.Settled last type) (missing : now.shape? type = none) :
    last.shape? type = none := by
  refine shape?_of_not_knows (settled.resolve_left ?_)
  intro known
  obtain ⟨shape, found⟩ := knows_iff.1 known
  rw [missing] at found
  cases found

/-! ## Asked again -/

theorem addDims_again {dims : Nat} (settled : now.Settled last type)
    (grows : (now.addDims type dims).2.GrowsTo last) :
    last.addDims type dims = ((now.addDims type dims).1, last) := by
  have since := (addDims_storesTo now type dims).growsTo.trans grows
  rw [addDims] at grows ⊢
  cases found : now.shape? type with
  | none => rw [settled.shape?_eq_none found, addDims, found]
  | some shape =>
      rw [found] at grows
      rw [shape?_of_growsTo since found, addDims, found]
      exact store_of_growsTo grows

theorem elementType_again (settled : now.Settled last type)
    (grows : (now.elementType type).2.GrowsTo last) :
    last.elementType type = ((now.elementType type).1, last) := by
  have since := (elementType_storesTo now type).growsTo.trans grows
  rw [elementType] at grows ⊢
  cases found : now.shape? type with
  | none => rw [settled.shape?_eq_none found, elementType, found]
  | some shape =>
      rw [found] at grows
      rw [shape?_of_growsTo since found, elementType, found]
      by_cases flat : shape.dims = 0
      · simp only [flat, if_true]
      · simp only [flat, if_false] at grows ⊢
        exact store_of_growsTo grows

theorem component?_again (settled : now.Settled last type)
    (grows : (now.component? type).2.GrowsTo last) :
    last.component? type = ((now.component? type).1, last) := by
  have since := (component?_storesTo now type).growsTo.trans grows
  rw [component?] at grows ⊢
  cases found : now.shape? type with
  | none => rw [settled.shape?_eq_none found, component?, found]
  | some shape =>
      rw [found] at grows
      rw [shape?_of_growsTo since found, component?, found]
      cases dimensions : shape.dims with
      | zero => simp only [dimensions]
      | succ dims =>
          simp only [dimensions] at grows ⊢
          rw [store_of_growsTo grows]

/-- Questions that each have their old answer when asked again have it one after the other. -/
theorem threadMap_again {β : Type} {ask ask' : TypeArena → α → β × TypeArena}
    (stores : ∀ (arena : TypeArena) item, arena.StoresTo (ask arena item).2) {items : List α}
    (again : ∀ item ∈ items, ∀ between, now.GrowsTo between →
      (ask between item).2.GrowsTo last → ask' last item = ((ask between item).1, last))
    (grows : (threadMap ask now items).2.GrowsTo last) :
    threadMap ask' last items = ((threadMap ask now items).1, last) := by
  induction items generalizing now with
  | nil => rfl
  | cons item items ih =>
      rw [threadMap_cons] at grows
      have since := (stores now item).growsTo
      have rest := (threadMap_storesTo stores (ask now item).2 items).growsTo
      have head := again item (by simp) now (GrowsTo.refl _) (rest.trans grows)
      have tail := ih (fun other isThere between grown =>
        again other (by simp [isThere]) between (since.trans grown)) grows
      rw [threadMap_cons, threadMap_cons, head, tail]

section Replacement

variable {table : List (TypeId × TypeId)} {depth depth' : Nat}

/-- A type is replaced as before if its arguments are. -/
theorem replaceWithin_again_of_args (settled : ∀ entry ∈ table, now.Settled last entry.2)
    (found : now.shape? type = some shape)
    (again : ∀ arg ∈ shape.args, ∀ between, now.GrowsTo between →
      (replaceWithin table depth between arg).2.GrowsTo last →
        replaceWithin table depth' last arg = ((replaceWithin table depth between arg).1, last))
    (grows : (replaceWithin table (depth + 1) now type).2.GrowsTo last) :
    replaceWithin table (depth' + 1) last type =
      ((replaceWithin table (depth + 1) now type).1, last) := by
  have since := (replaceWithin_storesTo table (depth + 1) now type).growsTo.trans grows
  have stored := elementType_storesTo now type
  have elements : ∀ {after : TypeArena}, (now.elementType type).2.GrowsTo after →
      after.GrowsTo last → last.elementType type = ((now.elementType type).1, last) :=
    fun grown rest => elementType_again (Or.inl (knows_of_shape? found)) (grown.trans rest)
  rw [replaceWithin, found] at grows
  rw [replaceWithin, shape?_of_growsTo since found, replaceWithin, found]
  simp only at grows ⊢
  cases entry : table.lookup (now.elementType type).1 with
  | some arg =>
      have settledArg : (now.elementType type).2.Settled last arg :=
        (settled _ (mem_of_lookup entry)).imp_left stored.growsTo.knows
      simp only [entry] at grows
      by_cases flat : shape.dims = 0
      · simp only [flat, if_true] at grows
        rw [elements (GrowsTo.refl _) grows]
        simp only [entry, flat, if_true]
      · simp only [flat, if_false] at grows
        rw [elements (addDims_storesTo _ _ _).growsTo grows]
        simp only [entry, flat, if_false]
        exact addDims_again settledArg grows
  | none =>
      simp only [entry] at grows
      by_cases bare : shape.args.isEmpty = true
      · simp only [bare, if_true] at grows
        rw [elements (GrowsTo.refl _) grows]
        simp only [entry, bare, if_true]
      · simp only [bare, Bool.false_eq_true, if_false] at grows
        have asked := threadMap_storesTo (replaceWithin_storesTo table depth)
          (now.elementType type).2 shape.args
        have rest := (store_growsTo _ _).trans grows
        rw [elements asked.growsTo rest]
        simp only [entry, bare, Bool.false_eq_true, if_false]
        rw [threadMap_again (replaceWithin_storesTo table depth)
          (fun arg isArg between grown => again arg isArg between (stored.growsTo.trans grown)) rest]
        exact store_of_growsTo grows

/-- A type is replaced as before, however deep its arguments are followed. -/
theorem replaceWithin_again (ordered : start.Ordered) (grown : start.GrowsTo now)
    (known : start.Knows type) (settled : ∀ entry ∈ table, now.Settled last entry.2)
    (deep : type.index < depth) (deep' : type.index < depth')
    (grows : (replaceWithin table depth now type).2.GrowsTo last) :
    replaceWithin table depth' last type = ((replaceWithin table depth now type).1, last) := by
  induction depth generalizing now type depth' with
  | zero => omega
  | succ depth ih =>
      obtain ⟨depth', rfl⟩ := Nat.exists_eq_add_one_of_ne_zero (Nat.ne_zero_of_lt deep')
      obtain ⟨shape, found⟩ := knows_iff.1 known
      refine replaceWithin_again_of_args settled (shape?_of_growsTo grown found) ?_ grows
      intro arg isArg between grownBetween rest
      have smaller := ordered.arg_lt found isArg
      exact ih (grown.trans grownBetween) (ordered.knows_arg found isArg)
        (fun entry isThere => (settled entry isThere).imp_left grownBetween.knows)
        (by omega) (by omega) rest

/-- So is a type that need not have been there from the start, if its arguments were. -/
theorem instantiate_again {params args : List TypeId} (ordered : start.Ordered)
    (grown : start.GrowsTo now) (settled : ∀ arg ∈ args, now.Settled last arg)
    (found : now.shape? type = some shape) (known : ∀ arg ∈ shape.args, start.Knows arg)
    (grows : (now.instantiate params args type).2.GrowsTo last) :
    last.instantiate params args type = ((now.instantiate params args type).1, last) := by
  have since := (instantiate_storesTo params args now type).growsTo.trans grows
  have bound : ∀ {arena : TypeArena}, start.GrowsTo arena → ∀ arg ∈ shape.args,
      arg.index < arena.reach args :=
    fun grown arg isArg => Nat.lt_of_lt_of_le (grown.knows (known arg isArg)) (size_le_reach _ _)
  rw [instantiate] at grows
  rw [instantiate, instantiate]
  split
  · rfl
  · next fit =>
      rw [if_neg fit] at grows
      refine replaceWithin_again_of_args ?_ found ?_ grows
      · intro entry isThere
        exact settled entry.2 (List.of_mem_zip isThere).2
      · intro arg isArg between grownBetween rest
        refine replaceWithin_again ordered (grown.trans grownBetween) (known arg isArg) ?_
          (bound grown arg isArg) (bound (grown.trans since) arg isArg) rest
        intro entry isThere
        exact (settled entry.2 (List.of_mem_zip isThere).2).imp_left grownBetween.knows

end Replacement

/-! ## Dimensions in the last arena -/

section Last

variable {array element : TypeId} {dims : Nat}

theorem shape?_of_addDims (found : last.shape? type = some shape)
    (made : last.addDims type dims = (array, last)) :
    last.shape? array = some { shape with dims := shape.dims + dims } := by
  have stored := shape?_store last { shape with dims := shape.dims + dims }
  rw [addDims, found] at made
  simp only at made
  rwa [made] at stored

theorem shape?_of_elementType (found : last.shape? type = some shape)
    (made : last.elementType type = (element, last)) :
    last.shape? element = some { shape with dims := 0 } := by
  have stored := shape?_store last { shape with dims := 0 }
  rw [elementType, found] at made
  by_cases flat : shape.dims = 0
  · simp only [flat, if_true, Prod.mk.injEq, and_true] at made
    rw [← made, found, ← flat]
  · simp only [flat, if_false] at made
    rwa [made] at stored

/-- An array has entries with one dimension less, and other types have none. -/
theorem shape?_of_component? {entry : Option TypeId} (found : last.shape? type = some shape)
    (made : last.component? type = (entry, last)) :
    (shape.dims = 0 ∧ entry = none) ∨
      ∃ component dims, shape.dims = dims + 1 ∧ entry = some component ∧
        last.shape? component = some { shape with dims := dims } := by
  rw [component?, found] at made
  cases dimensions : shape.dims with
  | zero =>
      simp only [dimensions, Prod.mk.injEq, and_true] at made
      exact Or.inl ⟨rfl, made.symm⟩
  | succ dims =>
      have stored := shape?_store last { shape with dims := dims }
      simp only [dimensions, Prod.mk.injEq] at made
      obtain ⟨isEntry, same⟩ := made
      rw [same] at stored
      exact Or.inr ⟨_, dims, rfl, isEntry.symm, stored⟩

section Once

variable (once : last.shapes.values.Nodup)

include once

/-- A shape is found under the number that it has. -/
theorem store_of_shape? (found : last.shape? type = some shape) : last.store shape = (type, last) := by
  rcases last.store_eq shape with ⟨other, found', stored⟩ | ⟨absent, -⟩
  · rw [stored, eq_of_shape? once found' found]
  · exact absurd found (absent type)

theorem addDims_zero (type : TypeId) : last.addDims type 0 = (type, last) := by
  rw [addDims]
  split
  · rfl
  · next found => exact store_of_shape? once found

/-- Dimensions that are added one after the other are added at once, to any number. -/
theorem addDims_addDims {row grid direct : TypeId} {more : Nat}
    (isRow : last.addDims type dims = (row, last)) (isGrid : last.addDims row more = (grid, last))
    (isDirect : last.addDims type (dims + more) = (direct, last)) : grid = direct := by
  cases found : last.shape? type with
  | none =>
      simp only [addDims, found, Prod.mk.injEq, and_true] at isRow isDirect
      subst isRow
      simp only [addDims, found, Prod.mk.injEq, and_true] at isGrid
      rw [← isGrid, isDirect]
  | some shape =>
      have foundGrid := shape?_of_addDims (shape?_of_addDims found isRow) isGrid
      have foundDirect := shape?_of_addDims found isDirect
      simp only [Nat.add_assoc] at foundGrid
      exact eq_of_shape? once foundGrid foundDirect

/-- What a replacement that stores nothing does with a type: its element has an entry, which
takes over the dimensions, or its arguments are replaced. -/
theorem replaceWithin_here {table : List (TypeId × TypeId)} {depth : Nat} {result : TypeId}
    (found : last.shape? type = some shape)
    (made : replaceWithin table (depth + 1) last type = (result, last)) :
    ∃ element, last.shape? element = some { shape with dims := 0 } ∧
      ((∃ arg, table.lookup element = some arg ∧ last.addDims arg shape.dims = (result, last)) ∨
        table.lookup element = none ∧
          ∃ args, threadMap (replaceWithin table depth) last shape.args = (args, last) ∧
            last.shape? result = some { shape with args := args }) := by
  have since : last.GrowsTo (last.elementType type).2 := (elementType_storesTo last type).growsTo
  rw [replaceWithin, found] at made
  simp only at made
  generalize isElement : last.elementType type = stored at made since
  obtain ⟨element, middle⟩ := stored
  simp only at made since
  -- nothing is stored on the way, since nothing is stored in the end
  have here : ∀ {after : TypeArena}, middle.GrowsTo after → after = last → middle = last :=
    fun grown same => GrowsTo.antisymm (same ▸ grown) since
  cases entry : table.lookup element with
  | some arg =>
      simp only [entry] at made
      by_cases flat : shape.dims = 0
      · simp only [flat, if_true, Prod.mk.injEq] at made
        obtain ⟨rfl, same⟩ := made
        obtain rfl := here (GrowsTo.refl _) same
        refine ⟨element, shape?_of_elementType found isElement, Or.inl ⟨arg, entry, ?_⟩⟩
        rw [flat]
        exact addDims_zero once arg
      · simp only [flat, if_false] at made
        obtain rfl := here (addDims_storesTo _ _ _).growsTo (congrArg Prod.snd made)
        exact ⟨element, shape?_of_elementType found isElement, Or.inl ⟨arg, entry, made⟩⟩
  | none =>
      simp only [entry] at made
      by_cases bare : shape.args = []
      · simp only [bare, List.isEmpty_nil, if_true, Prod.mk.injEq] at made
        obtain ⟨rfl, same⟩ := made
        obtain rfl := here (GrowsTo.refl _) same
        refine ⟨element, shape?_of_elementType found isElement, Or.inr ⟨entry, [], ?_, ?_⟩⟩
        · rw [bare]
          rfl
        · rw [found, ← bare]
      · simp only [List.isEmpty_iff, bare, if_false] at made
        have asked := threadMap_storesTo (replaceWithin_storesTo table depth) middle shape.args
        generalize isArgs : threadMap (replaceWithin table depth) middle shape.args = replaced
          at made asked
        obtain ⟨args, after⟩ := replaced
        simp only at made asked
        have grown := store_growsTo after { shape with args := args }
        have stored := shape?_store after { shape with args := args }
        obtain rfl := here (asked.growsTo.trans grown) (congrArg Prod.snd made)
        rw [made] at grown stored
        obtain rfl := GrowsTo.antisymm grown asked.growsTo
        exact ⟨element, shape?_of_elementType found isElement,
          Or.inr ⟨entry, args, isArgs, stored⟩⟩

/-- A type with more dimensions is replaced by what the type is replaced by, with as many
dimensions more. -/
theorem instantiate_addDims {params args : List TypeId} (found : last.shape? type = some shape)
    (isArray : last.addDims type dims = (array, last)) {outer inner direct : TypeId}
    (isOuter : last.instantiate params args array = (outer, last))
    (isInner : last.instantiate params args type = (inner, last))
    (isDirect : last.addDims inner dims = (direct, last)) : outer = direct := by
  have foundArray := shape?_of_addDims found isArray
  rw [instantiate] at isOuter isInner
  split at isOuter
  · next unfit =>
      rw [if_pos unfit] at isInner
      cases isOuter
      cases isInner
      exact congrArg Prod.fst (isArray.symm.trans isDirect)
  · next fit =>
      rw [if_neg fit] at isInner
      obtain ⟨element, foundElement, outerCase⟩ := replaceWithin_here once foundArray isOuter
      obtain ⟨element', foundElement', innerCase⟩ := replaceWithin_here once found isInner
      -- arrays of a type have its element
      obtain rfl : element = element' := eq_of_shape? once foundElement foundElement'
      rcases innerCase with ⟨arg, entry, added⟩ | ⟨absent, args, replaced, foundInner⟩
      · rcases outerCase with ⟨arg', entry', added'⟩ | ⟨absent', -⟩
        · obtain rfl : arg = arg' := Option.some.inj (entry.symm.trans entry')
          exact (addDims_addDims once added isDirect added').symm
        · rw [entry] at absent'
          cases absent'
      · rcases outerCase with ⟨arg', entry', -⟩ | ⟨-, args', replaced', foundOuter⟩
        · rw [absent] at entry'
          cases entry'
        · obtain rfl : args = args' := congrArg Prod.fst (replaced.symm.trans replaced')
          exact eq_of_shape? once foundOuter (shape?_of_addDims foundInner isDirect)

end Once

end Last

/-! ## Laws of a history -/

namespace Answered

variable {dims : Nat}

theorem addDims_again {array : TypeId}
    (asked : start.Answered last [type] (·.addDims type dims) array) :
    last.addDims type dims = (array, last) := by
  obtain ⟨now, -, settled, rest, rfl⟩ := asked
  exact TypeArena.addDims_again (settled type (by simp)) rest.growsTo

theorem component_again {entry : Option TypeId}
    (asked : start.Answered last [type] (·.component? type) entry) :
    last.component? type = (entry, last) := by
  obtain ⟨now, -, settled, rest, rfl⟩ := asked
  exact TypeArena.component?_again (settled type (by simp)) rest.growsTo

theorem element_again {element : TypeId}
    (asked : start.Answered last [type] (·.elementType type) element) :
    last.elementType type = (element, last) := by
  obtain ⟨now, -, settled, rest, rfl⟩ := asked
  exact TypeArena.elementType_again (settled type (by simp)) rest.growsTo

theorem instantiate_again {params args : List TypeId} {result : TypeId}
    (asked : start.Answered last (type :: args) (·.instantiate params args type) result)
    (ordered : start.Ordered) (found : last.shape? type = some shape)
    (known : ∀ arg ∈ shape.args, start.Knows arg) :
    last.instantiate params args type = (result, last) := by
  obtain ⟨now, since, settled, rest, rfl⟩ := asked
  have grows := (instantiate_storesTo params args now type).trans rest
  have foundNow := (settled type (by simp)).shape? grows.growsTo found
  exact TypeArena.instantiate_again ordered since.growsTo
    (fun arg isArg => settled arg (by simp [isArg])) foundNow known rest.growsTo

end Answered

/-- Whether asking for the entries of a type, then for the entries of these, and so on, has led
to a type without entries after so many steps. -/
inductive Unwraps (start last : TypeArena) : TypeId → Nat → TypeId → Prop
  | done {type : TypeId} (asked : start.Answered last [type] (·.component? type) none) :
      Unwraps start last type 0 type
  | next {type entry inner : TypeId} {steps : Nat}
      (asked : start.Answered last [type] (·.component? type) (some entry))
      (rest : Unwraps start last entry steps inner) : Unwraps start last type (steps + 1) inner

namespace Unwraps

theorem earlier {steps : Nat} {inner : TypeId} (unwraps : Unwraps start last type steps inner)
    (stores : first.StoresTo start) : Unwraps first last type steps inner := by
  induction unwraps with
  | done asked => exact .done (asked.earlier stores)
  | next asked rest ih => exact .next (asked.earlier stores) ih

/-- Each step takes one dimension off, and the last type has none left. -/
theorem shape? {steps : Nat} {inner : TypeId} (unwraps : Unwraps start last type steps inner)
    (found : last.shape? type = some shape) :
    steps = shape.dims ∧ last.shape? inner = some { shape with dims := 0 } := by
  induction unwraps generalizing shape with
  | done asked =>
      rcases shape?_of_component? found asked.component_again with
        ⟨flat, -⟩ | ⟨component, dims, -, isEntry, -⟩
      · rw [found, ← flat]
        exact ⟨rfl, rfl⟩
      · cases isEntry
  | next asked rest ih =>
      rcases shape?_of_component? found asked.component_again with
        ⟨-, isEntry⟩ | ⟨component, dims, dimensions, isEntry, foundEntry⟩
      · cases isEntry
      · cases isEntry
        obtain ⟨rfl, foundInner⟩ := ih foundEntry
        exact ⟨dimensions.symm, foundInner⟩

/-- The steps can be taken, one right after the other. -/
theorem exists_of_shape? (found : start.shape? type = some shape) :
    ∃ last inner, start.StoresTo last ∧ Unwraps start last type shape.dims inner := by
  -- on the dimensions that are left
  generalize dimensions : shape.dims = dims
  induction dims generalizing start type shape with
  | zero =>
      have known : ∀ passed ∈ [type], start.Knows passed := by simp [knows_of_shape? found]
      have flat : start.component? type = (none, start) := by
        rw [component?, found]
        simp only [dimensions]
      have rest : (start.component? type).2.StoresTo start := by
        rw [flat]
        exact .refl _
      have asked := Answered.here known (·.component? type) rest
      rw [flat] at asked
      exact ⟨start, type, .refl _, .done asked⟩
  | succ dims ih =>
      have known : ∀ passed ∈ [type], start.Knows passed := by simp [knows_of_shape? found]
      have isArray : start.component? type =
          (some (start.store { shape with dims := dims }).1,
            (start.store { shape with dims := dims }).2) := by
        rw [component?, found]
        simp only [dimensions]
      have stores := store_storesTo start { shape with dims := dims }
      obtain ⟨last, inner, rest, unwraps⟩ := ih (shape?_store start { shape with dims := dims }) rfl
      have later : (start.component? type).2.StoresTo last := by rwa [isArray]
      have asked := Answered.here known (·.component? type) later
      rw [isArray] at asked
      exact ⟨last, inner, stores.trans rest, .next asked (unwraps.earlier stores)⟩

end Unwraps

/-- **Dimensions add up, whenever they are asked for.**  In every history that begins with an
arena in order, for a type known from the start: dimensions added twice are those added at
once, and none added leave the type; an array has as its entries the array with one dimension
less, and as its element that of the type; a type has entries exactly if it has dimensions, and
taking entries ends at its element after as many steps as it has dimensions; and an array of
the type, with arguments in place of parameters, is the array of the type with arguments in
place of parameters. -/
theorem array_laws (ordered : start.Ordered) (found : start.shape? type = some shape)
    (history : start.StoresTo last) :
    (∀ m n row grid direct,
      start.Answered last [type] (·.addDims type m) row →
      start.Answered last [row] (·.addDims row n) grid →
      start.Answered last [type] (·.addDims type (m + n)) direct → grid = direct) ∧
    (∀ same, start.Answered last [type] (·.addDims type 0) same → same = type) ∧
    (∀ n array row entry,
      start.Answered last [type] (·.addDims type (n + 1)) array →
      start.Answered last [array] (·.component? array) entry →
      start.Answered last [type] (·.addDims type n) row → entry = some row) ∧
    (∀ n array inner element,
      start.Answered last [type] (·.addDims type n) array →
      start.Answered last [array] (·.elementType array) inner →
      start.Answered last [type] (·.elementType type) element → inner = element) ∧
    (∀ entry, start.Answered last [type] (·.component? type) entry →
      (entry = none ↔ shape.dims = 0)) ∧
    (∀ steps inner element, Unwraps start last type steps inner →
      start.Answered last [type] (·.elementType type) element →
      steps = shape.dims ∧ inner = element) ∧
    (∃ later inner, start.StoresTo later ∧ Unwraps start later type shape.dims inner) ∧
    ∀ n params args array outer inner direct,
      start.Answered last [type] (·.addDims type n) array →
      start.Answered last (array :: args) (·.instantiate params args array) outer →
      start.Answered last (type :: args) (·.instantiate params args type) inner →
      start.Answered last [inner] (·.addDims inner n) direct → outer = direct := by
  have once := history.nodup ordered.distinct
  have foundLast := shape?_of_growsTo history.growsTo found
  refine ⟨?_, ?_, ?_, ?_, ?_, ?_, Unwraps.exists_of_shape? found, ?_⟩
  · intro m n row grid direct isRow isGrid isDirect
    exact addDims_addDims once isRow.addDims_again isGrid.addDims_again isDirect.addDims_again
  · intro same isSame
    exact congrArg Prod.fst (isSame.addDims_again.symm.trans (addDims_zero once type))
  · intro n array row entry isArray isEntry isRow
    have foundArray := shape?_of_addDims foundLast isArray.addDims_again
    have foundRow := shape?_of_addDims foundLast isRow.addDims_again
    rcases shape?_of_component? foundArray isEntry.component_again with
      ⟨flat, -⟩ | ⟨component, dims, dimensions, rfl, foundEntry⟩
    · simp at flat
    · obtain rfl : shape.dims + n = dims := Nat.succ.inj dimensions
      rw [eq_of_shape? once foundEntry foundRow]
  · intro n array inner element isArray isInner isElement
    have foundArray := shape?_of_addDims foundLast isArray.addDims_again
    have foundInner := shape?_of_elementType foundArray isInner.element_again
    have foundElement := shape?_of_elementType foundLast isElement.element_again
    exact eq_of_shape? once foundInner foundElement
  · intro entry isEntry
    rcases shape?_of_component? foundLast isEntry.component_again with
      ⟨flat, rfl⟩ | ⟨component, dims, dimensions, rfl, -⟩
    · simp [flat]
    · simp [dimensions]
  · intro steps inner element unwraps isElement
    obtain ⟨counted, foundInner⟩ := unwraps.shape? foundLast
    exact ⟨counted, eq_of_shape? once foundInner
      (shape?_of_elementType foundLast isElement.element_again)⟩
  · intro n params args array outer inner direct isArray isOuter isInner isDirect
    have foundArray := shape?_of_addDims foundLast isArray.addDims_again
    -- the array has the arguments of the type, which were there from the start
    have known : ∀ arg ∈ shape.args, start.Knows arg := fun arg isArg => ordered.knows_arg found isArg
    exact instantiate_addDims once foundLast isArray.addDims_again
      (isOuter.instantiate_again ordered foundArray known)
      (isInner.instantiate_again ordered foundLast known) isDirect.addDims_again

/-- `T`, `T[]` and `List<T[]>[]`. -/
def rowsArena : TypeArena :=
  ⟨⟨[⟨.typeVariable, "T", [], 0⟩, ⟨.typeVariable, "T", [], 1⟩, ⟨.classType, "List", [⟨1⟩], 1⟩]⟩⟩

/-- Rows of `List<T[]>[]`, with `T[]` in place of `T`; and the other way round, in the arena that
this leaves. -/
theorem array_laws_rows :
    let array := rowsArena.addDims ⟨2⟩ 1
    let outer := array.2.instantiate [⟨0⟩] [⟨1⟩] array.1
    let inner := outer.2.instantiate [⟨0⟩] [⟨1⟩] ⟨2⟩
    let direct := inner.2.addDims inner.1 1
    rowsArena.Ordered ∧ rowsArena.shape? ⟨2⟩ = some ⟨.classType, "List", [⟨1⟩], 1⟩ ∧
    direct.2.tree outer.1 =
      ⟨.classType, "List", [⟨.typeVariable, "T", [], 2⟩], 2⟩ ∧ outer.1 = direct.1 := by
  intro array outer inner direct
  have ordered : rowsArena.Ordered := by decide
  have found : rowsArena.shape? ⟨2⟩ = some ⟨.classType, "List", [⟨1⟩], 1⟩ := by decide
  have stores : rowsArena.StoresTo array.2 := addDims_storesTo _ _ _
  have stores' : array.2.StoresTo outer.2 := instantiate_storesTo _ _ _ _
  have stores'' : outer.2.StoresTo inner.2 := instantiate_storesTo _ _ _ _
  have history : inner.2.StoresTo direct.2 := addDims_storesTo _ _ _
  obtain ⟨-, -, -, -, -, -, -, commutes⟩ := array_laws ordered found
    (((stores.trans stores').trans stores'').trans history)
  refine ⟨ordered, found, by decide, commutes 1 [⟨0⟩] [⟨1⟩] array.1 outer.1 inner.1 direct.1 ?_ ?_ ?_ ?_⟩
  · exact Answered.here (by decide) _ ((stores'.trans stores'').trans history)
  · exact Answered.earlier (Answered.here (by decide) _ (stores''.trans history)) stores
  · exact Answered.earlier (Answered.here (by decide) _ history) (stores.trans stores')
  · exact Answered.earlier (Answered.here (by decide) _ (.refl _))
      ((stores.trans stores').trans stores'')

/-- A number that is passed as an argument before it is handed out stands for two things: what
`T` stands for is no type, and stays as it is with a dimension more, until `T[]` gets its
number. -/
theorem late_argument_breaks_law :
    let start : TypeArena := ⟨⟨[⟨.typeVariable, "T", [], 0⟩]⟩⟩
    let inner := start.instantiate [⟨0⟩] [⟨1⟩] ⟨0⟩
    let direct := inner.2.addDims inner.1 1
    let array := direct.2.addDims ⟨0⟩ 1
    let outer := array.2.instantiate [⟨0⟩] [⟨1⟩] array.1
    start.Ordered ∧ start.Knows ⟨0⟩ ∧ direct.1 = ⟨1⟩ ∧ outer.1 = ⟨2⟩ ∧ outer.1 ≠ direct.1 := by
  decide

end ChainCompletion.TypeArena
