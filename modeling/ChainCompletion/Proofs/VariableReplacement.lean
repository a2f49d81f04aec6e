/-
# Proofs.VariableReplacement -- replacing type variables, twice and at once

The parameters of a declaration are type variables.  Replacing type variables leaves
everything else of a type in place (`replace_of_not_variable`): what is not a variable keeps
its sort and its name, and its arguments are replaced one by one.  Array dimensions are added
before or after (`replace_addDims`).

A type may be replaced in twice, first the parameters of one declaration by types that
mention those of another, and then these.  If the type mentions no other variables than the
first parameters, this is one replacement, by what the second makes of the first arguments
(`replace_replace`, `instantiate_replace`).  The parameters are all replaced at once, so it
does not matter whether the two declarations name their parameters alike.
-/
import ChainCompletion.Proofs.TreeInstantiation

namespace ChainCompletion

set_option autoImplicit false

/-! ## Tables of parameters and arguments -/

section Tables

variable {κ ν : Type} [BEq κ]

theorem lookup_zip_map {ν' : Type} (keys : List κ) (values : List ν) (make : ν → ν') (key : κ) :
    (keys.zip (values.map make)).lookup key = ((keys.zip values).lookup key).map make := by
  induction keys generalizing values with
  | nil => rfl
  | cons first keys ih =>
      cases values with
      | nil => rfl
      | cons value values =>
          rw [List.map_cons, List.zip_cons_cons, List.zip_cons_cons, List.lookup_cons,
            List.lookup_cons, ih]
          cases key == first <;> rfl

variable [LawfulBEq κ] {keys : List κ}

theorem lookup_zip_of_mem {values : List ν} (lengths : keys.length = values.length) {key : κ}
    (isKey : key ∈ keys) : ∃ value, (keys.zip values).lookup key = some value := by
  induction keys generalizing values with
  | nil => cases isKey
  | cons first keys ih =>
      cases values with
      | nil => cases lengths
      | cons value values =>
          rw [List.zip_cons_cons, List.lookup_cons]
          by_cases same : key = first
          · exact ⟨value, by simp [same]⟩
          · obtain ⟨later, found⟩ := ih (Nat.succ.inj lengths) (List.mem_of_ne_of_mem same isKey)
            exact ⟨later, by simp [beq_eq_false_iff_ne.2 same, found]⟩

/-- Each of different keys has the value at its place. -/
theorem map_lookup_zip {values : List ν} (distinct : keys.Nodup)
    (lengths : keys.length = values.length) :
    (keys.map fun key => (keys.zip values).lookup key) = values.map some := by
  induction keys generalizing values with
  | nil => cases values with
    | nil => rfl
    | cons value values => cases lengths
  | cons first keys ih =>
      cases values with
      | nil => cases lengths
      | cons value values =>
          obtain ⟨isNew, distinctRest⟩ := List.nodup_cons.1 distinct
          have rest : (keys.map fun key => ((first :: keys).zip (value :: values)).lookup key) =
              keys.map fun key => (keys.zip values).lookup key := by
            refine List.map_congr_left ?_
            intro key isKey
            have differ : key ≠ first := fun same => isNew (same ▸ isKey)
            simp [List.lookup_cons, beq_eq_false_iff_ne.2 differ]
          rw [List.map_cons, rest, ih distinctRest (Nat.succ.inj lengths)]
          simp

end Tables

namespace TypeTree

/-- What holds of a type whenever it holds of its arguments holds of every type. -/
theorem by_args {motive : TypeTree → Prop}
    (step : ∀ tree : TypeTree, (∀ arg ∈ tree.args, motive arg) → motive tree) :
    ∀ tree, motive tree
  | ⟨kind, name, args, dims⟩ => step ⟨kind, name, args, dims⟩ fun arg _ => by_args step arg
termination_by tree => tree
decreasing_by
  have smaller := List.sizeOf_lt_of_mem ‹arg ∈ args›
  simp only [mk.sizeOf_spec]
  omega

mutual

/-- The type variables that a type mentions, without array dimensions. -/
def typeVariables : TypeTree → List TypeTree
  | ⟨kind, name, args, _⟩ =>
      if kind = .typeVariable then ⟨kind, name, args, 0⟩ :: typeVariablesOfAll args
      else typeVariablesOfAll args

/-- The type variables that types mention. -/
def typeVariablesOfAll : List TypeTree → List TypeTree
  | [] => []
  | tree :: trees => typeVariables tree ++ typeVariablesOfAll trees

end

theorem typeVariablesOfAll_eq_flatMap (trees : List TypeTree) :
    typeVariablesOfAll trees = trees.flatMap typeVariables := by
  induction trees with
  | nil => rfl
  | cons tree trees ih => rw [typeVariablesOfAll, ih, List.flatMap_cons]

theorem element_mem_typeVariables {tree : TypeTree} (isVariable : tree.kind = .typeVariable) :
    tree.element ∈ tree.typeVariables := by
  obtain ⟨kind, name, args, dims⟩ := tree
  subst isVariable
  rw [typeVariables]
  simp [element]

theorem mem_typeVariables_of_mem_args {tree arg other : TypeTree} (isArg : arg ∈ tree.args)
    (mentioned : other ∈ arg.typeVariables) : other ∈ tree.typeVariables := by
  obtain ⟨kind, name, args, dims⟩ := tree
  have inArgs : other ∈ typeVariablesOfAll args := by
    rw [typeVariablesOfAll_eq_flatMap]
    exact List.mem_flatMap.2 ⟨arg, isArg, mentioned⟩
  rw [typeVariables]
  split
  · exact List.mem_cons_of_mem _ inArgs
  · exact inArgs

/-! ## One replacement -/

theorem replace_nil (tree : TypeTree) : tree.replace [] = tree := by
  induction tree using by_args with
  | step tree ih =>
      rw [replace_of_not_found rfl, List.map_congr_left ih, List.map_id']
      cases tree
      rfl

/-- An argument for each parameter is put in its place. -/
theorem instantiate_of_length_eq {params args : List TypeTree} (notEmpty : params ≠ [])
    (lengths : params.length = args.length) (tree : TypeTree) :
    tree.instantiate params args = tree.replace (params.zip args) := by
  simp [instantiate, notEmpty, lengths]

/-- Array dimensions stay outside. -/
theorem replace_addDims (table : List (TypeTree × TypeTree)) (tree : TypeTree) (dims : Nat) :
    (tree.addDims dims).replace table = (tree.replace table).addDims dims := by
  cases found : table.lookup tree.element with
  | some arg =>
      rw [replace_of_lookup found, @replace_of_lookup table (tree.addDims dims) arg found]
      simp only [addDims, Nat.add_assoc]
  | none =>
      rw [replace_of_not_found found, @replace_of_not_found table (tree.addDims dims) found]
      rfl

/-- Parameters without array dimensions are replaced by their arguments. -/
theorem map_replace_params {params args : List TypeTree} (flat : ∀ param ∈ params, param.dims = 0)
    (distinct : params.Nodup) (lengths : params.length = args.length) :
    params.map (replace (params.zip args)) = args := by
  have looked := map_lookup_zip distinct lengths
  have each : ∀ param ∈ params, some (param.replace (params.zip args)) =
      (params.zip args).lookup param := by
    intro param isParam
    obtain ⟨arg, found⟩ := lookup_zip_of_mem lengths isParam
    have bare : param.element = param := by
      have dims := flat param isParam
      cases param
      simp only at dims
      rw [dims, element]
    have replaced := @replace_of_lookup (params.zip args) param arg (by rw [bare, found])
    rw [replaced, flat param isParam, addDims_zero, found]
  have both : (params.map (replace (params.zip args))).map some = args.map some := by
    rw [← looked, List.map_map]
    exact List.map_congr_left each
  exact map_inj_of_forall_mem (fun _ _ _ _ same => Option.some.inj same) both

section Variables

variable {params : List TypeTree} (areVariables : ∀ param ∈ params, param.kind = .typeVariable)

include areVariables

/-- Only variables are replaced. -/
theorem lookup_of_not_variable {tree : TypeTree} (isOther : tree.kind ≠ .typeVariable)
    (args : List TypeTree) : (params.zip args).lookup tree.element = none := by
  cases found : (params.zip args).lookup tree.element with
  | none => rfl
  | some arg =>
      have isParam := (List.of_mem_zip (mem_of_lookup found)).1
      exact absurd (areVariables tree.element isParam) isOther

theorem replace_of_not_variable {tree : TypeTree} (isOther : tree.kind ≠ .typeVariable)
    (args : List TypeTree) :
    tree.replace (params.zip args) =
      { tree with args := tree.args.map (replace (params.zip args)) } :=
  replace_of_not_found (lookup_of_not_variable areVariables isOther args)

/-- What is not a variable keeps its sort, its name and the number of its arguments. -/
theorem instantiate_keeps {tree : TypeTree} (isOther : tree.kind ≠ .typeVariable)
    (args : List TypeTree) :
    (tree.instantiate params args).kind = tree.kind ∧
      (tree.instantiate params args).name = tree.name ∧
      (tree.instantiate params args).args.length = tree.args.length := by
  rw [instantiate]
  split
  · exact ⟨rfl, rfl, rfl⟩
  · rw [replace_of_not_variable areVariables isOther]
    exact ⟨rfl, rfl, List.length_map _⟩

/-! ## Two replacements -/

/-- Two replacements of variables, of which a type mentions only the first, are one. -/
theorem replace_replace {params' : List TypeTree}
    (areVariables' : ∀ param ∈ params', param.kind = .typeVariable) {args : List TypeTree}
    (args' : List TypeTree) (lengths : params.length = args.length) (tree : TypeTree)
    (mentions : ∀ other ∈ tree.typeVariables, other ∈ params) :
    (tree.replace (params.zip args)).replace (params'.zip args') =
      tree.replace (params.zip (args.map (replace (params'.zip args')))) := by
  induction tree using by_args with
  | step tree ih =>
      have looked := lookup_zip_map params args (replace (params'.zip args')) tree.element
      by_cases isVariable : tree.kind = .typeVariable
      · obtain ⟨arg, found⟩ :=
          lookup_zip_of_mem lengths (mentions _ (element_mem_typeVariables isVariable))
        rw [found] at looked
        rw [replace_of_lookup found, replace_of_lookup looked, replace_addDims]
      · have each : ∀ arg ∈ tree.args,
            (arg.replace (params.zip args)).replace (params'.zip args') =
              arg.replace (params.zip (args.map (replace (params'.zip args')))) := by
          intro arg isArg
          exact ih arg isArg fun other mentioned =>
            mentions other (mem_typeVariables_of_mem_args isArg mentioned)
        rw [replace_of_not_variable areVariables isVariable,
          replace_of_not_variable areVariables isVariable,
          @replace_of_not_variable _ areVariables' { tree with args := _ } isVariable]
        simp only [List.map_map, mk.injEq, true_and, and_true]
        exact List.map_congr_left each

/-- An instantiation, seen through a replacement, is the instantiation with what the
replacement makes of the arguments. -/
theorem instantiate_replace {params' : List TypeTree}
    (areVariables' : ∀ param ∈ params', param.kind = .typeVariable) {args : List TypeTree}
    (args' : List TypeTree) (lengths : params.length = args.length) {tree : TypeTree}
    (mentions : ∀ other ∈ tree.typeVariables, other ∈ params) :
    (tree.instantiate params args).replace (params'.zip args') =
      tree.instantiate params (args.map (replace (params'.zip args'))) := by
  have composed := replace_replace areVariables areVariables' args' lengths tree mentions
  by_cases bare : params = []
  · subst bare
    simpa [instantiate, replace_nil] using composed
  · rw [instantiate_of_length_eq bare lengths,
      instantiate_of_length_eq bare (lengths.trans (List.length_map _).symm)]
    exact composed

end Variables

end TypeTree

end ChainCompletion
