/-
# Proofs.GenericLineages -- the lineage of a generic type serves all its instances

A declaration is written once, in terms of its parameters, and used with many arguments.  Where
declarations are well formed (`Declarations.WellFormedIn`), the lineage of `G<A>` is that of
`G<P>`, the type with its own parameters for arguments, with `A` in place of `P` throughout.

On trees, replacing variables in a class and going up from it, or going up and replacing in
what is above, comes to the same (`parentTrees_replace`), since two replacements are one.  The
class must have as many arguments as its declaration has parameters (`Fits`); supertypes do,
and keep it (`fits_parentTrees`).  Replacing changes no name of a class, so the walks from
`G<P>` and from `G<A>` pass over, open and break off in step (`lineageTreesFrom_replace`).

* `lineage_instantiate`: the two lineages correspond type by type, or fail alike.
-/
import ChainCompletion.Proofs.LineageLevels

namespace ChainCompletion

open Denotes

set_option autoImplicit false

/-- Whether a declaration is well formed: its parameters are different type variables, and its
supertypes are classes that mention no other variables and have as many arguments as their own
declarations have parameters. -/
structure ClassDecl.WellFormedIn (decl : ClassDecl) (decls : Declarations) (arena : TypeArena) : Prop
    extends decl.PlainIn arena where
  distinct : decl.params.Nodup
  flat : ∀ param ∈ decl.params, (arena.tree param).dims = 0
  mentions : ∀ supertype ∈ decl.supertypes,
    ∀ other ∈ (arena.tree supertype).typeVariables, other ∈ decl.params.map arena.tree
  arity : ∀ supertype ∈ decl.supertypes, ∀ above ∈ decls.find? (arena.tree supertype).name,
    (arena.tree supertype).args.length = above.params.length

instance (decl : ClassDecl) (decls : Declarations) (arena : TypeArena) :
    Decidable (decl.WellFormedIn decls arena) :=
  decidable_of_iff
    (decl.PlainIn arena ∧ decl.params.Nodup ∧
      (∀ param ∈ decl.params, (arena.tree param).dims = 0) ∧
      (∀ supertype ∈ decl.supertypes,
        ∀ other ∈ (arena.tree supertype).typeVariables, other ∈ decl.params.map arena.tree) ∧
      ∀ supertype ∈ decl.supertypes, ∀ above ∈ decls.find? (arena.tree supertype).name,
        (arena.tree supertype).args.length = above.params.length)
    ⟨fun ⟨plain, distinct, flat, mentions, arity⟩ => ⟨plain, distinct, flat, mentions, arity⟩,
      fun formed => ⟨formed.toPlainIn, formed.distinct, formed.flat, formed.mentions, formed.arity⟩⟩

namespace Declarations

open TypeArena

/-- Whether all declarations are well formed. -/
def WellFormedIn (decls : Declarations) (arena : TypeArena) : Prop :=
  ∀ entry ∈ decls.types, entry.2.WellFormedIn decls arena

instance (decls : Declarations) (arena : TypeArena) : Decidable (decls.WellFormedIn arena) :=
  inferInstanceAs (Decidable (∀ entry ∈ decls.types, entry.2.WellFormedIn decls arena))

/-- Whether a type is a class with as many arguments as its declaration has parameters. -/
structure Fits (decls : Declarations) (tree : TypeTree) : Prop where
  isClass : tree.kind = .classType
  arity : ∀ decl, decls.find? tree.name = some decl → decl.params.length = tree.args.length

theorem Fits.not_variable {decls : Declarations} {tree : TypeTree} (fits : decls.Fits tree) :
    tree.kind ≠ .typeVariable := by
  rw [fits.isClass]
  decide

/-! ## On trees -/

section Trees

variable {decls : Declarations} {base : TypeArena} (wellFormed : decls.WellFormedIn base)
  (ordered : base.Ordered)

include wellFormed ordered

/-- What is above a type fits its own declaration. -/
theorem fits_parentTrees {tree : TypeTree} :
    ∀ parent ∈ decls.parentTrees base tree, decls.Fits parent := by
  intro parent isParent
  rw [parentTrees] at isParent
  cases declared : decls.find? tree.name with
  | none => simp [declared] at isParent
  | some decl =>
      have formed : decl.WellFormedIn decls base := wellFormed _ (mem_of_lookup declared)
      simp only [declared] at isParent
      obtain ⟨supertype, isSupertype, rfl⟩ := List.mem_map.1 isParent
      have isClass := kind_tree ordered (formed.supertypes supertype isSupertype)
      obtain ⟨kind, name, length⟩ := TypeTree.instantiate_keeps
        (formed.toPlainIn.areVariables ordered) (by rw [isClass]; decide) tree.args
      refine ⟨kind.trans isClass, ?_⟩
      intro above found
      rw [seenFrom, name] at found
      rw [seenFrom, length]
      exact (formed.arity supertype isSupertype above found).symm

variable {params : List TypeTree} (areVariables : ∀ param ∈ params, param.kind = .typeVariable)
  (args : List TypeTree)

include areVariables

/-- Replacing variables and going up commute. -/
theorem parentTrees_replace {tree : TypeTree} (fits : decls.Fits tree) :
    decls.parentTrees base (tree.replace (params.zip args)) =
      (decls.parentTrees base tree).map (TypeTree.replace (params.zip args)) := by
  rw [TypeTree.replace_of_not_variable areVariables fits.not_variable, parentTrees, parentTrees]
  cases declared : decls.find? tree.name with
  | none => rfl
  | some decl =>
      have formed : decl.WellFormedIn decls base := wellFormed _ (mem_of_lookup declared)
      have lengths : (meaning base decl.params).length = tree.args.length :=
        (List.length_map _).trans (fits.arity decl declared)
      simp only [List.map_map]
      refine List.map_congr_left ?_
      intro supertype isSupertype
      exact (TypeTree.instantiate_replace (formed.toPlainIn.areVariables ordered) areVariables args
        lengths (formed.mentions supertype isSupertype)).symm

/-- Two walks whose lines differ by a replacement of variables run in step. -/
theorem lineageTreesFrom_replace (visits : Nat) (seen : List String) {waiting : List TypeTree}
    (fits : ∀ tree ∈ waiting, decls.Fits tree) :
    decls.lineageTreesFrom base visits seen (waiting.map (TypeTree.replace (params.zip args))) =
      (decls.lineageTreesFrom base visits seen waiting).map
        (List.map (TypeTree.replace (params.zip args))) := by
  induction visits generalizing seen waiting with
  | zero => cases waiting <;> rfl
  | succ visits ih =>
      cases waiting with
      | nil => rfl
      | cons tree waiting =>
          obtain ⟨fitsTree, fitsRest⟩ := List.forall_mem_cons.1 fits
          have name : (tree.replace (params.zip args)).name = tree.name := by
            rw [TypeTree.replace_of_not_variable areVariables fitsTree.not_variable]
          rw [List.map_cons, lineageTreesFrom, lineageTreesFrom, name]
          by_cases isSeen : tree.name ∈ seen
          · rw [if_pos isSeen, if_pos isSeen]
            exact ih seen fitsRest
          · rw [if_neg isSeen, if_neg isSeen]
            by_cases isUnresolved : tree.name ∈ decls.unresolved
            · rw [if_pos isUnresolved, if_pos isUnresolved]
              rfl
            · rw [if_neg isUnresolved, if_neg isUnresolved,
                parentTrees_replace wellFormed ordered areVariables args fitsTree, ← List.map_append,
                ih (tree.name :: seen) (List.forall_mem_append.2
                  ⟨fitsRest, fits_parentTrees wellFormed ordered⟩)]
              cases decls.lineageTreesFrom base visits (tree.name :: seen)
                (waiting ++ decls.parentTrees base tree) <;> rfl

omit areVariables

/-- The lineage of a generic type with arguments is that of the type with its own parameters,
the arguments in place of the parameters. -/
theorem lineageTrees_replace {name : String} {decl : ClassDecl}
    (declared : decls.find? name = some decl) (known : Known base decl.params)
    (lengths : decl.params.length = args.length) :
    decls.lineageTrees base ⟨.classType, name, args, 0⟩ =
      (decls.lineageTrees base ⟨.classType, name, meaning base decl.params, 0⟩).map
        (List.map (TypeTree.replace ((meaning base decl.params).zip args))) := by
  have formed : decl.WellFormedIn decls base := wellFormed _ (mem_of_lookup declared)
  have areVariables := formed.toPlainIn.areVariables ordered
  have isClass : TypeKind.classType ≠ TypeKind.typeVariable := by decide
  have length : (meaning base decl.params).length = decl.params.length := List.length_map _
  have flat : ∀ param ∈ meaning base decl.params, param.dims = 0 := by
    intro param isParam
    obtain ⟨part, isPart, rfl⟩ := List.mem_map.1 isParam
    exact formed.flat part isPart
  have distinct : (meaning base decl.params).Nodup := by
    refine List.pairwise_map.2 (formed.distinct.imp_of_mem ?_)
    intro param other isParam isOther differ same
    exact differ (tree_inj ordered (known param isParam) (known other isOther) same)
  have instance_eq : (⟨.classType, name, args, 0⟩ : TypeTree) =
      TypeTree.replace ((meaning base decl.params).zip args)
        ⟨.classType, name, meaning base decl.params, 0⟩ := by
    rw [TypeTree.replace_of_not_variable areVariables isClass]
    simp only [TypeTree.map_replace_params flat distinct (length.trans lengths)]
  have fits : decls.Fits ⟨.classType, name, meaning base decl.params, 0⟩ := by
    refine ⟨rfl, ?_⟩
    intro other found
    obtain rfl := Option.some.inj (declared.symm.trans found)
    exact length.symm
  have inStep := lineageTreesFrom_replace wellFormed ordered areVariables args decls.lineageSteps []
    (List.forall_mem_singleton.2 fits)
  rw [List.map_singleton, ← instance_eq] at inStep
  exact inStep

end Trees

/-! ## In arenas -/

/-- **Going up commutes with putting arguments in place of parameters.**  Take well-formed
declarations, one of them of a generic type.  The lineage of the type with arguments is the
lineage of the type with its own parameters, the arguments put in place of the parameters in
each entry, or both fail alike.  The two may be asked for in either order and with other
questions before, between and after: all that counts is that one arena has stored both. -/
theorem lineage_instantiate {decls : Declarations} {base first second last : TypeArena}
    (ordered : last.Ordered) (declsKnown : decls.KnownIn base)
    (wellFormed : decls.WellFormedIn base) (grownFirst : base.GrowsTo first)
    (grownSecond : base.GrowsTo second) {name : String} {decl : ClassDecl}
    (declared : decls.find? name = some decl) (isGeneric : decl.params ≠ []) {args : List TypeId}
    (lengths : decl.params.length = args.length) {generic specific : TypeId}
    (foundGeneric : first.shape? generic = some ⟨.classType, name, decl.params, 0⟩)
    (foundSpecific : second.shape? specific = some ⟨.classType, name, args, 0⟩)
    (growsFirst : (decls.lineage first generic).2.GrowsTo last)
    (growsSecond : (decls.lineage second specific).2.GrowsTo last) :
    (decls.lineage second specific).1 = (decls.lineage first generic).1.map
      (List.map fun type => (last.instantiate decl.params args type).1) := by
  have sinceFirst := (decls.lineage_walk first generic).growsTo.trans growsFirst
  have sinceSecond := (decls.lineage_walk second specific).growsTo.trans growsSecond
  have orderedFirst := ordered.of_growsTo sinceFirst
  have orderedSecond := ordered.of_growsTo sinceSecond
  have orderedBase := orderedFirst.of_growsTo grownFirst
  have sinceBase := grownFirst.trans sinceFirst
  have knownParams := (declsKnown.find? declared).params
  have knownArgs : Known second args := fun arg isArg => orderedSecond.knows_arg foundSpecific isArg
  have lengthsTrees : decl.params.length = (meaning second args).length :=
    lengths.trans (List.length_map _).symm
  have notEmpty : meaning base decl.params ≠ [] := fun empty =>
    isGeneric (List.map_eq_nil_iff.1 empty)
  have genericTree : first.tree generic = ⟨.classType, name, meaning base decl.params, 0⟩ := by
    rw [tree_of_shape? orderedFirst foundGeneric, treeOf,
      ← meaning_of_growsTo orderedBase grownFirst knownParams]
    rfl
  have specificTree : second.tree specific = ⟨.classType, name, meaning second args, 0⟩ := by
    rw [tree_of_shape? orderedSecond foundSpecific, treeOf]
    rfl
  have walked := lineage_yields declsKnown grownFirst orderedFirst (knows_of_shape? foundGeneric)
  have walked' :=
    lineage_yields declsKnown grownSecond orderedSecond (knows_of_shape? foundSpecific)
  rw [specificTree, lineageTrees_replace wellFormed orderedBase (meaning second args) declared
    knownParams lengthsTrees, ← genericTree] at walked'
  refine walked.eq_map walked' ordered growsFirst growsSecond ?_
  intro type known
  have asked := instantiate_yields ordered (known_of_growsTo sinceBase knownParams)
    (known_of_growsTo sinceSecond knownArgs) known
  rwa [meaning_of_growsTo orderedBase sinceBase knownParams,
    meaning_of_growsTo orderedSecond sinceSecond knownArgs,
    TypeTree.instantiate_of_length_eq notEmpty ((List.length_map _).trans lengthsTrees)] at asked

/-- Variables `T` and `U`, `T[]`, `List<T[]>`, `Pair<U, List<T[]>>`, `Sequence<U>`, `Swap<T, U>`,
`String` and `Swap<U, String>`. -/
def swapArena : TypeArena :=
  ⟨⟨[⟨.typeVariable, "T", [], 0⟩, ⟨.typeVariable, "U", [], 0⟩, ⟨.typeVariable, "T", [], 1⟩,
    ⟨.classType, "List", [⟨2⟩], 0⟩, ⟨.classType, "Pair", [⟨1⟩, ⟨3⟩], 0⟩,
    ⟨.classType, "Sequence", [⟨1⟩], 0⟩, ⟨.classType, "Swap", [⟨0⟩, ⟨1⟩], 0⟩,
    ⟨.classType, "String", [], 0⟩, ⟨.classType, "Swap", [⟨1⟩, ⟨7⟩], 0⟩]⟩⟩

/-- `Swap<T, U> extends Pair<U, List<T[]>>` and `Pair<T, U> extends Sequence<U>`. -/
def swapDecls : Declarations :=
  ⟨[("Swap", ⟨[⟨0⟩, ⟨1⟩], [⟨4⟩], []⟩), ("Pair", ⟨[⟨0⟩, ⟨1⟩], [⟨5⟩], []⟩)], []⟩

/-- The arguments `U` and `String` go through two declarations that call their own parameters `T`
and `U`, and nothing is caught. -/
theorem lineage_instantiate_swap :
    let first := swapDecls.lineage swapArena ⟨6⟩
    let second := swapDecls.lineage first.2 ⟨8⟩
    swapDecls.WellFormedIn swapArena ∧
    first.1 = .ok [⟨6⟩, ⟨4⟩, ⟨9⟩] ∧ second.1 = .ok [⟨8⟩, ⟨12⟩, ⟨13⟩] ∧
    second.2.tree ⟨13⟩ = ⟨.classType, "Sequence", [⟨.classType, "List",
      [⟨.typeVariable, "U", [], 1⟩], 0⟩], 0⟩ ∧
    second.1 = first.1.map
      (List.map fun type => (second.2.instantiate [⟨0⟩, ⟨1⟩] [⟨1⟩, ⟨7⟩] type).1) := by
  intro first second
  have wellFormed : swapDecls.WellFormedIn swapArena := by decide
  have grown := (swapDecls.lineage_walk swapArena ⟨6⟩).growsTo
  have grows := (swapDecls.lineage_walk first.2 ⟨8⟩).growsTo
  refine ⟨wellFormed, by decide, by decide, by decide, ?_⟩
  exact @lineage_instantiate swapDecls swapArena swapArena first.2 second.2 (by decide) (by decide)
    wellFormed (GrowsTo.refl _) grown "Swap" ⟨[⟨0⟩, ⟨1⟩], [⟨4⟩], []⟩ rfl (by decide) [⟨1⟩, ⟨7⟩] rfl
    ⟨6⟩ ⟨8⟩ rfl (by decide) grows (GrowsTo.refl _)

end Declarations

end ChainCompletion
