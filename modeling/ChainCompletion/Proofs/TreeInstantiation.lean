/-
# Proofs.TreeInstantiation -- type arguments in place of parameters, on trees

Replacing types in an arena may store new ones on the way: elements of arrays, arguments
that were replaced, and the results.  On trees it is one pass from the outside in
(`TypeTree.replace`): where the type without its dimensions is to be replaced, what stands
for it takes them over, and otherwise the arguments are looked at.

* `replaceWithin_yields`: followed deep enough, a replacement yields the replaced tree;
* `instantiate_yields`: so does an instantiation, whatever has come up before;
* `instantiate_ordered`: with known arguments the arena stays in order, whatever the
  parameters are.
-/
import ChainCompletion.Proofs.Denotation
import ChainCompletion.TypeArena.Instantiation

namespace ChainCompletion

open Denotes

set_option autoImplicit false

namespace TypeTree

mutual

/-- The tree with the types that have an entry in `table` replaced. -/
def replace (table : List (TypeTree × TypeTree)) : TypeTree → TypeTree
  | ⟨kind, name, args, dims⟩ =>
      match table.lookup ⟨kind, name, args, 0⟩ with
      | some arg => arg.addDims dims
      | none => ⟨kind, name, replaceAll table args, dims⟩

/-- Trees with the types that have an entry in `table` replaced. -/
def replaceAll (table : List (TypeTree × TypeTree)) : List TypeTree → List TypeTree
  | [] => []
  | tree :: trees => replace table tree :: replaceAll table trees

end

theorem replaceAll_eq_map (table : List (TypeTree × TypeTree)) (trees : List TypeTree) :
    replaceAll table trees = trees.map (replace table) := by
  induction trees with
  | nil => rfl
  | cons tree trees ih => rw [replaceAll, ih, List.map_cons]

theorem replace_of_lookup {table : List (TypeTree × TypeTree)} {tree arg : TypeTree}
    (found : table.lookup tree.element = some arg) :
    tree.replace table = arg.addDims tree.dims := by
  obtain ⟨kind, name, args, dims⟩ := tree
  rw [replace]
  simp only [element] at found
  rw [found]

theorem replace_of_not_found {table : List (TypeTree × TypeTree)} {tree : TypeTree}
    (absent : table.lookup tree.element = none) :
    tree.replace table = { tree with args := tree.args.map (replace table) } := by
  obtain ⟨kind, name, args, dims⟩ := tree
  rw [replace, replaceAll_eq_map]
  simp only [element] at absent
  rw [absent]

/-- The tree with each of `params` replaced by the argument at its place. -/
def instantiate (params args : List TypeTree) (tree : TypeTree) : TypeTree :=
  if params.isEmpty || params.length ≠ args.length then tree
  else tree.replace (params.zip args)

end TypeTree

namespace TypeArena

variable {arena : TypeArena} {type : TypeId}

/-- Followed deeper than its number, a type is replaced as its tree is. -/
theorem replaceWithin_yields {table : List (TypeId × TypeId)} {depth : Nat}
    (ordered : arena.Ordered) (known : Known arena table) (knownType : arena.Knows type)
    (deep : type.index < depth) :
    arena.Yields (replaceWithin table depth arena type)
      ((arena.tree type).replace (meaning arena table)) := by
  induction depth generalizing arena type with
  | zero => omega
  | succ depth ih =>
      obtain ⟨shape, found, same⟩ := shape?_eq_some ordered knownType
      have dimensions : (arena.tree type).dims = shape.dims := by rw [same, treeOf]
      have arguments : (arena.tree type).args = shape.args.map arena.tree := by rw [same, treeOf]
      have stored := elementType_yields ordered knownType
      have knownTable := stored.known_of known
      -- the element is to be replaced exactly when its tree is
      have looked := lookup_meaning stored.ordered knownTable stored.known
      rw [stored.means, stored.means_of ordered known] at looked
      rw [replaceWithin, found]
      simp only
      cases entry : table.lookup (arena.elementType type).1 with
      | some arg =>
          rw [entry] at looked
          have knownArg : Known (arena.elementType type).2 arg :=
            (knownTable _ (mem_of_lookup entry)).2
          rw [TypeTree.replace_of_lookup looked, dimensions]
          by_cases flat : shape.dims = 0
          · simp only [flat, if_true, TypeTree.addDims_zero]
            exact (Yields.here stored.ordered knownArg).later stored.grows
          · simp only [flat, if_false]
            exact (addDims_yields stored.ordered knownArg shape.dims).later stored.grows
      | none =>
          rw [entry] at looked
          rw [TypeTree.replace_of_not_found looked, arguments]
          have knownArgs : Known arena shape.args := fun arg isArg => ordered.knows_arg found isArg
          by_cases bare : shape.args = []
          · simp only [bare, List.isEmpty_nil, if_true, List.map_nil]
            refine ⟨stored.grows, stored.ordered, stored.known_of knownType, ?_⟩
            rw [stored.means_of ordered knownType]
            show arena.tree type = _
            rw [same, treeOf, bare]
            rfl
          · simp only [List.isEmpty_iff, bare, if_false]
            have replaced : (arena.elementType type).2.Yields
                (threadMap (replaceWithin table depth) (arena.elementType type).2 shape.args)
                (shape.args.map fun arg => (arena.tree arg).replace (meaning arena table)) := by
              refine threadMap_yields stored.ordered ?_
              intro arg isArg between grows orderedBetween
              have grown := stored.grows.trans grows
              have smaller := ordered.arg_lt found isArg
              have asked := ih orderedBetween (known_of_growsTo grown known)
                (grown.knows (knownArgs arg isArg)) (by omega)
              rwa [tree_of_growsTo ordered grown (knownArgs arg isArg),
                meaning_of_growsTo ordered grown known] at asked
            have result := (replaced.later stored.grows).store shape.kind shape.name shape.dims
            rw [List.map_map]
            rwa [same]

theorem size_le_reach (arena : TypeArena) (args : List TypeId) : arena.size ≤ arena.reach args := by
  rw [reach]
  induction arena.shapes.values.flatMap (·.args) ++ args with
  | nil => exact Nat.le_refl _
  | cons arg args ih => exact Nat.le_trans ih (Nat.le_max_right _ _)

/-- Instantiation yields the instantiated tree. -/
theorem instantiate_yields {params args : List TypeId} (ordered : arena.Ordered)
    (knownParams : Known arena params) (knownArgs : Known arena args)
    (known : arena.Knows type) :
    arena.Yields (arena.instantiate params args type)
      ((arena.tree type).instantiate (meaning arena params) (meaning arena args)) := by
  have lengths : (meaning arena params).length = params.length := List.length_map _
  have lengths' : (meaning arena args).length = args.length := List.length_map _
  have empties : (meaning arena params).isEmpty = params.isEmpty := List.isEmpty_map
  rw [instantiate, TypeTree.instantiate, lengths, lengths', empties]
  split
  · exact Yields.here ordered known
  · have knownTable : Known arena (params.zip args) := by
      intro entry isThere
      obtain ⟨isParam, isArg⟩ := List.of_mem_zip isThere
      exact ⟨knownParams _ isParam, knownArgs _ isArg⟩
    have table : meaning arena (params.zip args) =
        (meaning arena params).zip (meaning arena args) := List.zip_map.symm
    rw [← table]
    have deep : type.index < arena.reach args :=
      Nat.lt_of_lt_of_le known (size_le_reach arena args)
    exact replaceWithin_yields ordered knownTable known (Nat.lt_succ_of_lt deep)

/-! ## Parameters of any kind -/

/-- Types that each lead to a known one lead to known ones, asked one after the other. -/
theorem threadMap_known {ask : TypeArena → TypeId → TypeId × TypeArena} {types : List TypeId}
    {start : TypeArena} (ordered : start.Ordered)
    (each : ∀ type ∈ types, ∀ arena, start.GrowsTo arena → arena.Ordered →
      arena.GrowsTo (ask arena type).2 ∧ (ask arena type).2.Ordered ∧
        (ask arena type).2.Knows (ask arena type).1) :
    start.Yields (threadMap ask start types)
      (meaning (threadMap ask start types).2 (threadMap ask start types).1) := by
  induction types generalizing start with
  | nil => exact Yields.nil ordered
  | cons type types ih =>
      obtain ⟨grows, orderly, known⟩ := each type (by simp) start (GrowsTo.refl _) ordered
      have rest := ih orderly fun other isThere arena grown =>
        each other (by simp [isThere]) arena (grows.trans grown)
      have both := (rest.cons orderly known).later grows
      exact ⟨both.grows, both.ordered, both.known, rfl⟩

/-- Replacing by known types gives a known type, in an arena in order, even where the types
to replace are not known or come up only on the way. -/
theorem replaceWithin_known {table : List (TypeId × TypeId)} (depth : Nat)
    (ordered : arena.Ordered) (known : ∀ entry ∈ table, arena.Knows entry.2)
    (knownType : arena.Knows type) :
    arena.GrowsTo (replaceWithin table depth arena type).2 ∧
      (replaceWithin table depth arena type).2.Ordered ∧
      (replaceWithin table depth arena type).2.Knows (replaceWithin table depth arena type).1 := by
  induction depth generalizing arena type with
  | zero => exact ⟨GrowsTo.refl _, ordered, knownType⟩
  | succ depth ih =>
      obtain ⟨shape, found⟩ := knows_iff.1 knownType
      have stored := elementType_yields ordered knownType
      rw [replaceWithin, found]
      simp only
      generalize arena.elementType type = result at stored ⊢
      obtain ⟨element, middle⟩ := result
      have knownNow : ∀ entry ∈ table, middle.Knows entry.2 :=
        fun entry isThere => stored.grows.knows (known entry isThere)
      simp only
      cases entry : table.lookup element with
      | some arg =>
          have knownArg := knownNow _ (mem_of_lookup entry)
          by_cases flat : shape.dims = 0
          · simp only [flat, if_true]
            exact ⟨stored.grows, stored.ordered, knownArg⟩
          · simp only [flat, if_false]
            have dimmed := addDims_yields stored.ordered knownArg shape.dims
            exact ⟨stored.grows.trans dimmed.grows, dimmed.ordered, dimmed.known⟩
      | none =>
          by_cases bare : shape.args.isEmpty = true
          · simp only [bare, if_true]
            exact ⟨stored.grows, stored.ordered, stored.grows.knows knownType⟩
          · simp only [bare, Bool.false_eq_true, if_false]
            have knownArgs : Known middle shape.args := fun arg isArg =>
              stored.grows.knows (ordered.knows_arg found isArg)
            have replaced := @threadMap_known (replaceWithin table depth) shape.args middle
              stored.ordered fun arg isArg between grown orderly =>
                ih orderly (fun entry isThere => grown.knows (knownNow entry isThere))
                  (grown.knows (knownArgs arg isArg))
            have result := replaced.store shape.kind shape.name shape.dims
            exact ⟨stored.grows.trans result.grows, result.ordered, result.known⟩

/-- An instantiation with known arguments leaves the arena in order. -/
theorem instantiate_ordered {args : List TypeId} (ordered : arena.Ordered)
    (known : Known arena args) (params : List TypeId) (type : TypeId) :
    (arena.instantiate params args type).2.Ordered := by
  rw [instantiate]
  split
  · exact ordered
  · by_cases knownType : arena.Knows type
    · refine (replaceWithin_known _ ordered ?_ knownType).2.1
      intro entry isThere
      exact known _ (List.of_mem_zip isThere).2
    · rw [replaceWithin, shape?_of_not_knows knownType]
      exact ordered

end TypeArena

end ChainCompletion
