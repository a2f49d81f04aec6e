/-
# Proofs.AssignabilityTrees -- which values fit where, on trees

Whether a value of one type can stand where another is expected follows from the two trees
and the declarations (`Declarations.acceptsTree`).  Type arguments are compared by number
first and part by part only where the numbers differ; since types with one tree have one
number, this is a comparison of trees (`TypeArena.argFits_eq`).

* `accepts_yields`: asked in any later arena, the question yields the answer on trees.
-/
import ChainCompletion.Declarations.Assignability
import ChainCompletion.Proofs.DeclarationTrees
import Mathlib.Data.List.Find

namespace ChainCompletion

open Denotes

set_option autoImplicit false

namespace TypeTree

/-- Whether the type accepts every reference. -/
def acceptsReferences (tree : TypeTree) : Bool :=
  tree.dims = 0 && (tree.isPlaceholder || (tree.kind = .classType && tree.name = objectName))

/-- Whether values of the type are references. -/
def isReference (tree : TypeTree) : Bool :=
  tree.kind ≠ .primitive || 0 < tree.dims

mutual

/-- Whether two type arguments fit. -/
def fits : TypeTree → TypeTree → Bool
  | ⟨kind, name, args, dims⟩, right =>
      TypeTree.mk kind name args dims = right ||
        (isPlaceholder ⟨kind, name, args, dims⟩ || right.isPlaceholder ||
          (kind = .classType && right.kind = .classType && name = right.name && dims = right.dims &&
            (args.isEmpty || right.args.isEmpty ||
              (args.length = right.args.length && fitAll args right.args))))

/-- Whether the arguments of two lists fit one by one, as far as both go. -/
def fitAll : List TypeTree → List TypeTree → Bool
  | left :: lefts, right :: rights => fits left right && fitAll lefts rights
  | _, _ => true

end

/-- Whether two argument lists agree. -/
def argsAgree (left right : List TypeTree) : Bool :=
  left.isEmpty || right.isEmpty || (left.length = right.length && fitAll left right)

theorem fits_eq (left right : TypeTree) :
    left.fits right =
      (left = right ||
        (left.isPlaceholder || right.isPlaceholder ||
          (left.kind = .classType && right.kind = .classType && left.name = right.name &&
            left.dims = right.dims && argsAgree left.args right.args))) := by
  obtain ⟨kind, name, args, dims⟩ := left
  rw [fits]
  rfl

theorem fitAll_eq (lefts rights : List TypeTree) :
    fitAll lefts rights = (lefts.zip rights).all fun pair => pair.1.fits pair.2 := by
  induction lefts generalizing rights with
  | nil => rfl
  | cons left lefts ih =>
      cases rights with
      | nil => rfl
      | cons right rights => rw [fitAll, ih, List.zip_cons_cons, List.all_cons]

end TypeTree

namespace TypeArena

variable {arena : TypeArena} {left right : TypeId}

/-- Argument lists agree as their trees do, if their arguments fit as theirs do. -/
theorem argsAgree_eq {fits : TypeId → TypeId → Bool} {lefts rights : List TypeId}
    (each : ∀ left ∈ lefts, ∀ right ∈ rights,
      fits left right = (arena.tree left).fits (arena.tree right)) :
    argsAgree fits lefts rights =
      TypeTree.argsAgree (meaning arena lefts) (meaning arena rights) := by
  have pairs : ((lefts.zip rights).all fun pair => fits pair.1 pair.2) =
      TypeTree.fitAll (meaning arena lefts) (meaning arena rights) := by
    rw [TypeTree.fitAll_eq]
    show _ = List.all ((lefts.map arena.tree).zip (rights.map arena.tree)) _
    rw [List.zip_map, List.all_map, Bool.eq_iff_iff, List.all_eq_true, List.all_eq_true]
    refine forall_congr' fun pair => forall_congr' fun isPair => ?_
    obtain ⟨isLeft, isRight⟩ := List.of_mem_zip isPair
    rw [each pair.1 isLeft pair.2 isRight]
    rfl
  have lengths : ∀ types : List TypeId, (meaning arena types).length = types.length :=
    fun types => List.length_map _
  have empties : ∀ types : List TypeId, (meaning arena types).isEmpty = types.isEmpty :=
    fun types => List.isEmpty_map
  rw [argsAgree, TypeTree.argsAgree, pairs, lengths, lengths, empties, empties]

/-- Compared deeper than their numbers, type arguments fit as their trees do. -/
theorem argFits_eq {depth : Nat} (ordered : arena.Ordered) (knownLeft : arena.Knows left)
    (knownRight : arena.Knows right) (deep : left.index < depth) :
    arena.argFits depth left right = (arena.tree left).fits (arena.tree right) := by
  induction depth generalizing left right with
  | zero => omega
  | succ depth ih =>
      obtain ⟨first, foundLeft, sameLeft⟩ := shape?_eq_some ordered knownLeft
      obtain ⟨second, foundRight, sameRight⟩ := shape?_eq_some ordered knownRight
      have equal : (left = right) ↔ (arena.tree left = arena.tree right) :=
        ⟨fun same => by rw [same], tree_inj ordered knownLeft knownRight⟩
      have args : argsAgree (arena.argFits depth) first.args second.args =
          TypeTree.argsAgree (meaning arena first.args) (meaning arena second.args) := by
        refine argsAgree_eq ?_
        intro arg isArg other isOther
        have smaller := ordered.arg_lt foundLeft isArg
        exact ih (ordered.knows_arg foundLeft isArg) (ordered.knows_arg foundRight isOther) (by omega)
      rw [argFits, TypeTree.fits_eq, foundLeft, foundRight]
      simp only [args, equal]
      rw [sameLeft, sameRight]
      rfl

theorem argsFit_eq (ordered : arena.Ordered) (knownLeft : arena.Knows left)
    (knownRight : arena.Knows right) :
    arena.argsFit left right =
      TypeTree.argsAgree (arena.tree left).args (arena.tree right).args := by
  obtain ⟨first, foundLeft, sameLeft⟩ := shape?_eq_some ordered knownLeft
  obtain ⟨second, foundRight, sameRight⟩ := shape?_eq_some ordered knownRight
  rw [argsFit, foundLeft, foundRight, sameLeft, sameRight]
  refine argsAgree_eq ?_
  intro arg isArg other isOther
  have known := ordered.knows_arg foundLeft isArg
  exact argFits_eq ordered known (ordered.knows_arg foundRight isOther) (Nat.lt_succ_of_lt known)

end TypeArena

namespace Declarations

section Trees

variable (decls : Declarations) (base : TypeArena)

/-- Whether a class fits where the class named `goalName` is expected; `goal` gives
the expected arguments. -/
def reachesTree (source goal : TypeTree) (goalName : String) : Except LookupError Bool :=
  (decls.lineageTrees base source).map fun trees =>
    match trees.find? fun above => above.name = goalName with
    | none => false
    | some above => TypeTree.argsAgree above.args goal.args

/-- Whether a value of type `source` can stand where `target` is expected, the two being
different types. -/
def acceptsTree (source target : TypeTree) : Except LookupError Bool :=
  if source.kind = .void || target.kind = .void then .ok false
  else if target.acceptsReferences then .ok source.isReference
  else if source.dims ≠ target.dims || source.kind ≠ .classType || target.kind ≠ .classType then
    .ok false
  else decls.reachesTree base source.element target.element target.name

end Trees

section Questions

variable {decls : Declarations} {base arena : TypeArena} {source target : TypeId}
  (declsKnown : decls.KnownIn base) (grown : base.GrowsTo arena) (ordered : arena.Ordered)

include declsKnown grown ordered

theorem reaches_yields (knownSource : arena.Knows source) (knownGoal : arena.Knows target)
    (goalName : String) :
    arena.Yields (decls.reaches arena source target goalName)
      (decls.reachesTree base (arena.tree source) (arena.tree target) goalName) := by
  have walked := lineage_yields declsKnown grown ordered knownSource
  rw [reaches, reachesTree]
  generalize decls.lineage arena source = result at walked ⊢
  obtain ⟨answer, after⟩ := result
  rcases walked.split with ⟨reason, rfl, failed⟩ | ⟨types, trees, rfl, succeeded, listed⟩
  · rw [failed]
    exact ⟨walked.grows, walked.ordered, by rintro answer ⟨⟩, rfl⟩
  · rw [succeeded, ← listed.means]
    have found : (types.find? fun above => after.qualifiedName above = goalName) =
        types.find? ((fun tree => decide (tree.name = goalName)) ∘ after.tree) := by
      refine List.find?_congr ?_
      intro above isAbove
      rw [TypeArena.qualifiedName_eq listed.ordered (listed.known above isAbove)]
      rfl
    have foundTree : (meaning after types).find? (fun tree => tree.name = goalName) =
        (types.find? fun above => after.qualifiedName above = goalName).map after.tree := by
      rw [found]
      exact List.find?_map
    simp only [Except.map, foundTree]
    cases hit : types.find? fun above => after.qualifiedName above = goalName with
    | none => exact ⟨listed.grows, listed.ordered, by rintro answer ⟨⟩; trivial, rfl⟩
    | some above =>
        have knownAbove : after.Knows above := listed.known above (List.mem_of_find?_eq_some hit)
        have agree := TypeArena.argsFit_eq listed.ordered knownAbove (listed.grows.knows knownGoal)
        rw [TypeArena.tree_of_growsTo ordered listed.grows knownGoal] at agree
        refine ⟨listed.grows, listed.ordered, by rintro answer ⟨⟩; trivial, ?_⟩
        exact congrArg Except.ok agree

theorem accepts_yields (knownSource : arena.Knows source) (knownTarget : arena.Knows target) :
    arena.Yields (decls.accepts arena source target)
      (decls.acceptsTree base (arena.tree source) (arena.tree target)) := by
  obtain ⟨given, foundSource, sameSource⟩ := TypeArena.shape?_eq_some ordered knownSource
  obtain ⟨wanted, foundTarget, sameTarget⟩ := TypeArena.shape?_eq_some ordered knownTarget
  have answered : ∀ answer : Bool, arena.Yields ((.ok answer : Except LookupError Bool), arena)
      (.ok answer : Except LookupError Bool) := fun answer =>
    (TypeArena.Yields.here ordered (show Known arena answer from trivial)).ok
  rw [accepts, acceptsTree, foundSource, foundTarget]
  have kindSource : (arena.tree source).kind = given.kind := by rw [sameSource, TypeArena.treeOf]
  have kindTarget : (arena.tree target).kind = wanted.kind := by rw [sameTarget, TypeArena.treeOf]
  have dimsSource : (arena.tree source).dims = given.dims := by rw [sameSource, TypeArena.treeOf]
  have dimsTarget : (arena.tree target).dims = wanted.dims := by rw [sameTarget, TypeArena.treeOf]
  have nameTarget : (arena.tree target).name = wanted.name := by rw [sameTarget, TypeArena.treeOf]
  have accepting : (arena.tree target).acceptsReferences = wanted.acceptsReferences := by
    rw [sameTarget]
    rfl
  have reference : (arena.tree source).isReference = given.isReference := by
    rw [sameSource]
    rfl
  rw [accepting, reference, kindSource, kindTarget, dimsSource, dimsTarget, nameTarget]
  simp only
  split
  · exact answered false
  · split
    · exact answered given.isReference
    · split
      · exact answered false
      · have goalAsked := TypeArena.elementType_yields ordered knownTarget
        generalize arena.elementType target = asked at goalAsked ⊢
        obtain ⟨goal, afterGoal⟩ := asked
        have startAsked := TypeArena.elementType_yields goalAsked.ordered
          (goalAsked.grows.knows knownSource)
        rw [TypeArena.tree_of_growsTo ordered goalAsked.grows knownSource] at startAsked
        simp only
        generalize afterGoal.elementType source = asked at startAsked ⊢
        obtain ⟨start, afterStart⟩ := asked
        have grows := goalAsked.grows.trans startAsked.grows
        have reached := reaches_yields declsKnown (grown.trans grows) startAsked.ordered
          startAsked.known (startAsked.grows.knows goalAsked.known) wanted.name
        have goalTree : afterStart.tree goal = (arena.tree target).element :=
          (startAsked.means_of goalAsked.ordered goalAsked.known).trans goalAsked.means
        have startTree : afterStart.tree start = (arena.tree source).element :=
          startAsked.means
        rw [goalTree, startTree] at reached
        exact reached.later grows

end Questions

end Declarations

end ChainCompletion
