/-
# Proofs.SimultaneousReplacement -- arguments in place of parameters, all at once

What it means to put arguments in place of parameters can be said without an order of work
(`TypeTree.Replaced`).  A type that is a parameter, its array dimensions aside, becomes the
argument at the place of the first such parameter; it keeps the dimensions on top of those
of the argument, and the argument is taken as it is.  Every other type keeps its sort, name
and dimensions, and its arguments are replaced one by one.  This leaves exactly one outcome
(`replaced_iff`).

An arena compares numbers instead of types and stores elements, arguments and results on the
way.  Still it comes to that outcome, keeps all it had, and hands a type back under its old
number where nothing changes (`TypeArena.instantiate_at_once`): no parameter occurs among
the parts of the type (`replace_of_not_occursIn`), or the parameters stand for themselves
(`replace_zip_self`).
-/
import Mathlib.Data.List.Forall2
import ChainCompletion.Proofs.VariableReplacement

namespace ChainCompletion

set_option autoImplicit false

/-- The value under a key stands where the key is met first. -/
theorem lookup_zip_eq_some_iff {κ ν : Type} [BEq κ] [LawfulBEq κ] {keys : List κ}
    {values : List ν} {key : κ} {value : ν} :
    (keys.zip values).lookup key = some value ↔
      ∃ place : Nat, keys[place]? = some key ∧ (∀ earlier < place, keys[earlier]? ≠ some key) ∧
        values[place]? = some value := by
  induction keys generalizing values with
  | nil => simp
  | cons first keys ih =>
      cases values with
      | nil => simp
      | cons head values =>
          rw [List.zip_cons_cons, List.lookup_cons]
          by_cases same : key = first
          · subst same
            simp only [beq_self_eq_true, Option.some.injEq]
            constructor
            · rintro rfl
              exact ⟨0, rfl, by simp, rfl⟩
            · rintro ⟨place, -, isFirst, found⟩
              cases place with
              | zero => simpa using found
              | succ place => exact absurd rfl (isFirst 0 (Nat.succ_pos _))
          · rw [beq_eq_false_iff_ne.2 same]
            simp only [ih]
            constructor
            · rintro ⟨place, isKey, isFirst, found⟩
              refine ⟨place + 1, isKey, ?_, found⟩
              intro earlier before
              cases earlier with
              | zero =>
                  intro equal
                  exact same (Option.some.inj equal).symm
              | succ earlier => exact isFirst earlier (Nat.lt_of_succ_lt_succ before)
            · rintro ⟨place, isKey, isFirst, found⟩
              cases place with
              | zero => exact absurd (Option.some.inj isKey).symm same
              | succ place =>
                  refine ⟨place, isKey, ?_, found⟩
                  intro earlier before
                  exact isFirst (earlier + 1) (Nat.succ_lt_succ before)

namespace TypeTree

/-! ## Parts -/

mutual

/-- The type and all that it is made of. -/
def parts : TypeTree → List TypeTree
  | ⟨kind, name, args, dims⟩ => ⟨kind, name, args, dims⟩ :: partsOfAll args

/-- The parts of types. -/
def partsOfAll : List TypeTree → List TypeTree
  | [] => []
  | tree :: trees => parts tree ++ partsOfAll trees

end

theorem partsOfAll_eq_flatMap (trees : List TypeTree) : partsOfAll trees = trees.flatMap parts := by
  induction trees with
  | nil => rfl
  | cons tree trees ih => rw [partsOfAll, ih, List.flatMap_cons]

theorem self_mem_parts (tree : TypeTree) : tree ∈ tree.parts := by
  obtain ⟨kind, name, args, dims⟩ := tree
  rw [parts]
  exact List.mem_cons_self

theorem mem_parts_of_mem_args {tree arg part : TypeTree} (isArg : arg ∈ tree.args)
    (isPart : part ∈ arg.parts) : part ∈ tree.parts := by
  obtain ⟨kind, name, args, dims⟩ := tree
  rw [parts, partsOfAll_eq_flatMap]
  exact List.mem_cons_of_mem _ (List.mem_flatMap.2 ⟨arg, isArg, isPart⟩)

/-- Whether a part of the type is `param`, array dimensions aside. -/
def OccursIn (param tree : TypeTree) : Prop :=
  ∃ part ∈ tree.parts, part.element = param

instance (param tree : TypeTree) : Decidable (param.OccursIn tree) :=
  inferInstanceAs (Decidable (∃ part ∈ tree.parts, part.element = param))

/-! ## All at once -/

/-- Whether the second type comes of the first by putting arguments in place of
parameters. -/
inductive Replaced (params args : List TypeTree) : TypeTree → TypeTree → Prop
  | here {tree arg : TypeTree} {place : Nat} (isParam : params[place]? = some tree.element)
      (isFirst : ∀ earlier < place, params[earlier]? ≠ some tree.element)
      (isArg : args[place]? = some arg) : Replaced params args tree (arg.addDims tree.dims)
  | within {tree : TypeTree} {parts : List TypeTree} (isOther : tree.element ∉ params)
      (lengths : tree.args.length = parts.length)
      (each : ∀ pair ∈ tree.args.zip parts, Replaced params args pair.1 pair.2) :
      Replaced params args tree { tree with args := parts }

section Outcome

variable {params args : List TypeTree}

theorem lookup_of_not_mem {tree : TypeTree} (isOther : tree ∉ params) :
    (params.zip args).lookup tree = none := by
  cases found : (params.zip args).lookup tree with
  | none => rfl
  | some arg => exact absurd (List.of_mem_zip (mem_of_lookup found)).1 isOther

/-- One pass from the outside in has the outcome. -/
theorem replaced_replace (lengths : params.length = args.length) (tree : TypeTree) :
    Replaced params args tree (tree.replace (params.zip args)) := by
  induction tree using by_args with
  | step tree ih =>
      by_cases isParam : tree.element ∈ params
      · obtain ⟨arg, found⟩ := lookup_zip_of_mem lengths isParam
        obtain ⟨place, isHere, isFirst, isArg⟩ := lookup_zip_eq_some_iff.1 found
        rw [replace_of_lookup found]
        exact .here isHere isFirst isArg
      · rw [replace_of_not_found (lookup_of_not_mem isParam)]
        refine .within isParam (List.length_map _).symm ?_
        intro pair isPair
        rw [← List.map_prod_left_eq_zip] at isPair
        obtain ⟨arg, isArg, rfl⟩ := List.mem_map.1 isPair
        exact ih arg isArg

/-- There is no other outcome. -/
theorem Replaced.eq_replace {tree result : TypeTree} (replaced : Replaced params args tree result) :
    tree.replace (params.zip args) = result := by
  induction replaced with
  | here isParam isFirst isArg =>
      exact replace_of_lookup (lookup_zip_eq_some_iff.2 ⟨_, isParam, isFirst, isArg⟩)
  | @within tree parts isOther lengths each ih =>
      have same : tree.args.map (replace (params.zip args)) = parts := by
        rw [← List.forall₂_eq_eq_eq, List.forall₂_map_left_iff, List.forall₂_iff_zip]
        exact ⟨lengths, fun isPair => ih _ isPair⟩
      rw [replace_of_not_found (lookup_of_not_mem isOther), same]

theorem replaced_iff (lengths : params.length = args.length) {tree result : TypeTree} :
    Replaced params args tree result ↔ tree.replace (params.zip args) = result := by
  constructor
  · exact Replaced.eq_replace
  · rintro rfl
    exact replaced_replace lengths tree

end Outcome

/-! ## Where nothing changes -/

/-- A type stays as it is if its element is not replaced by another and its arguments stay as
they are. -/
theorem replace_eq_self {table : List (TypeTree × TypeTree)} {tree : TypeTree}
    (element : ∀ arg, table.lookup tree.element = some arg → arg = tree.element)
    (args : ∀ arg ∈ tree.args, arg.replace table = arg) : tree.replace table = tree := by
  cases found : table.lookup tree.element with
  | some arg =>
      rw [replace_of_lookup found, element arg found]
      cases tree
      simp [TypeTree.element, addDims]
  | none =>
      rw [replace_of_not_found found, List.map_congr_left args, List.map_id']
      cases tree
      rfl

theorem replace_of_not_occursIn {params : List TypeTree} (args : List TypeTree) {tree : TypeTree}
    (absent : ∀ param ∈ params, ¬ param.OccursIn tree) :
    tree.replace (params.zip args) = tree := by
  induction tree using by_args with
  | step tree ih =>
      refine replace_eq_self ?_ ?_
      · intro arg found
        have isParam := (List.of_mem_zip (mem_of_lookup found)).1
        exact absurd ⟨tree, tree.self_mem_parts, rfl⟩ (absent _ isParam)
      · intro arg isArg
        refine ih arg isArg ?_
        rintro param isParam ⟨part, isPart, same⟩
        exact absent param isParam ⟨part, mem_parts_of_mem_args isArg isPart, same⟩

theorem replace_zip_self (params : List TypeTree) (tree : TypeTree) :
    tree.replace (params.zip params) = tree := by
  induction tree using by_args with
  | step tree ih =>
      refine replace_eq_self ?_ ih
      intro arg found
      obtain ⟨place, isParam, -, isArg⟩ := lookup_zip_eq_some_iff.1 found
      exact Option.some.inj (isArg.symm.trans isParam)

end TypeTree

namespace TypeArena

/-- **Arguments take the place of parameters all at once.**  In an arena in order, for known
types, the tree of an instantiated type is the one outcome of putting the trees of the
arguments in place of those of the parameters; without parameters, or with another number
of arguments, the type is handed back and nothing is stored.  All types that were there keep
their shapes, and the type itself is handed back also if no parameter occurs in it and if
the parameters are their own arguments. -/
theorem instantiate_at_once {arena : TypeArena} (ordered : arena.Ordered) {type : TypeId}
    (known : arena.Knows type) {params args : List TypeId}
    (knownParams : ∀ param ∈ params, arena.Knows param)
    (knownArgs : ∀ arg ∈ args, arena.Knows arg) :
    let result := arena.instantiate params args type
    result.2.Ordered ∧ result.2.Knows result.1 ∧
    (params = [] ∨ params.length ≠ args.length → result = (type, arena)) ∧
    (params ≠ [] → params.length = args.length → ∀ tree,
      TypeTree.Replaced (params.map arena.tree) (args.map arena.tree) (arena.tree type) tree ↔
        result.2.tree result.1 = tree) ∧
    (∀ other shape, arena.shape? other = some shape → result.2.shape? other = some shape) ∧
    ((∀ param ∈ params, ¬ (arena.tree param).OccursIn (arena.tree type)) ∨ args = params →
      result.1 = type) := by
  intro result
  have asked := instantiate_yields ordered knownParams knownArgs known
  have raw : params = [] ∨ params.length ≠ args.length → result = (type, arena) := by
    intro unfit
    have guard : (params.isEmpty || decide (params.length ≠ args.length)) = true := by
      simpa using unfit
    exact if_pos guard
  have replaced : params ≠ [] → params.length = args.length →
      result.2.tree result.1 =
        (arena.tree type).replace ((params.map arena.tree).zip (args.map arena.tree)) := by
    intro notEmpty lengths
    refine Eq.trans asked.means (TypeTree.instantiate_of_length_eq ?_ ?_ _)
    · exact fun empty => notEmpty (List.map_eq_nil_iff.1 empty)
    · exact ((List.length_map _).trans lengths).trans (List.length_map _).symm
  refine ⟨asked.ordered, asked.known, raw, ?_, ?_, ?_⟩
  · intro notEmpty lengths tree
    rw [replaced notEmpty lengths]
    exact TypeTree.replaced_iff (by simpa using lengths)
  · intro other shape found
    exact shape?_of_growsTo asked.grows found
  · intro unchanging
    by_cases unfit : params = [] ∨ params.length ≠ args.length
    · rw [raw unfit]
    · rw [not_or, not_not] at unfit
      -- a type with the same tree is the same type
      refine tree_inj asked.ordered asked.known (asked.grows.knows known) ?_
      refine (replaced unfit.1 unfit.2).trans (Eq.trans ?_ (tree_of_growsTo ordered asked.grows known).symm)
      rcases unchanging with absent | rfl
      · refine TypeTree.replace_of_not_occursIn _ ?_
        intro param isParam
        obtain ⟨part, isPart, rfl⟩ := List.mem_map.1 isParam
        exact absent part isPart
      · exact TypeTree.replace_zip_self _ _

/-- `T`, `U`, `T[]`, `List<T[]>` and `Pair<U, List<T[]>>`. -/
def pairArena : TypeArena :=
  ⟨⟨[⟨.typeVariable, "T", [], 0⟩, ⟨.typeVariable, "U", [], 0⟩, ⟨.typeVariable, "T", [], 1⟩,
    ⟨.classType, "List", [⟨2⟩], 0⟩, ⟨.classType, "Pair", [⟨1⟩, ⟨3⟩], 0⟩]⟩⟩

/-- `T[]` for `T` and `T` for `U`, at once: the `T` that takes the place of `U` stays, and `T[]`
becomes `T[][]`. -/
theorem instantiate_at_once_pair :
    let result := pairArena.instantiate [⟨0⟩, ⟨1⟩] [⟨2⟩, ⟨0⟩] ⟨4⟩
    let outcome : TypeTree := ⟨.classType, "Pair", [⟨.typeVariable, "T", [], 0⟩,
      ⟨.classType, "List", [⟨.typeVariable, "T", [], 2⟩], 0⟩], 0⟩
    pairArena.Ordered ∧ result.2.tree result.1 = outcome ∧
    TypeTree.Replaced ([⟨0⟩, ⟨1⟩].map pairArena.tree) ([⟨2⟩, ⟨0⟩].map pairArena.tree)
      (pairArena.tree ⟨4⟩) outcome ∧
    (pairArena.instantiate [⟨0⟩, ⟨1⟩] [⟨0⟩, ⟨1⟩] ⟨4⟩).1 = ⟨4⟩ := by
  intro result outcome
  have ordered : pairArena.Ordered := by decide
  have tree : result.2.tree result.1 = outcome := by decide
  obtain ⟨-, -, -, replaced, -, -⟩ := @instantiate_at_once pairArena ordered ⟨4⟩ (by decide)
    [⟨0⟩, ⟨1⟩] [⟨2⟩, ⟨0⟩] (by decide) (by decide)
  obtain ⟨-, -, -, -, -, unchanged⟩ := @instantiate_at_once pairArena ordered ⟨4⟩ (by decide)
    [⟨0⟩, ⟨1⟩] [⟨0⟩, ⟨1⟩] (by decide) (by decide)
  exact ⟨ordered, tree, (replaced (by decide) rfl outcome).2 tree, unchanged (Or.inr rfl)⟩

end TypeArena

end ChainCompletion
