/-
# Proofs.ArgumentTolerance -- type arguments that fit each other

Whether two type arguments fit is a tolerance: every type fits itself and the order of the
two does not matter (`TypeTree.fits_self`, `fits_comm`).  It is not transitive, since a type
variable, a wildcard or a class without its arguments fits many types that do not fit each
other.

Where none of these comes up there is no leniency left.  Types without variables and
wildcards (`IsGround`), in which every class has the number of arguments that goes with its
name (`HasArities`), fit only if they are the same (`fits_iff_eq`), and then they have one
number (`TypeArena.argFits_tolerance`).
-/
import ChainCompletion.Proofs.AssignabilityTrees
import ChainCompletion.Proofs.SimultaneousReplacement

namespace ChainCompletion

set_option autoImplicit false

namespace TypeTree

/-! ## A tolerance -/

theorem fits_self (tree : TypeTree) : tree.fits tree = true := by
  rw [fits_eq]
  simp

theorem fitAll_self (trees : List TypeTree) : fitAll trees trees = true := by
  induction trees with
  | nil => rfl
  | cons tree trees ih => rw [fitAll, fits_self, ih, Bool.and_self]

theorem argsAgree_self (trees : List TypeTree) : argsAgree trees trees = true := by
  simp [argsAgree, fitAll_self]

theorem fitAll_comm {lefts rights : List TypeTree}
    (each : ∀ left ∈ lefts, ∀ right, left.fits right = right.fits left) :
    fitAll lefts rights = fitAll rights lefts := by
  induction lefts generalizing rights with
  | nil => cases rights <;> rfl
  | cons left lefts ih =>
      cases rights with
      | nil => rfl
      | cons right rights =>
          obtain ⟨first, rest⟩ := List.forall_mem_cons.1 each
          rw [fitAll, fitAll, first right, ih rest]

theorem argsAgree_comm {lefts rights : List TypeTree}
    (each : ∀ left ∈ lefts, ∀ right, left.fits right = right.fits left) :
    argsAgree lefts rights = argsAgree rights lefts := by
  rw [argsAgree, argsAgree, fitAll_comm each, Bool.or_comm lefts.isEmpty]
  simp only [eq_comm]

theorem fits_comm (left right : TypeTree) : left.fits right = right.fits left := by
  induction left using by_args generalizing right with
  | step left ih =>
      rw [fits_eq, fits_eq, argsAgree_comm ih, Bool.or_comm left.isPlaceholder,
        Bool.and_comm (decide (left.kind = _))]
      simp only [eq_comm]

-- `List<Integer>` fits `List<T>`, which fits `List<String>`, but the first does not fit the last
example :
    let plain (kind : TypeKind) (name : String) : TypeTree := ⟨kind, name, [], 0⟩
    let listOf (arg : TypeTree) : TypeTree := ⟨.classType, "List", [arg], 0⟩
    let numbers := listOf (plain .classType "Integer")
    let openList := listOf (plain .typeVariable "T")
    let texts := listOf (plain .classType "String")
    numbers.fits openList = true ∧ openList.fits texts = true ∧ numbers.fits texts = false := by
  decide

/-! ## Types without leniency -/

/-- Whether a type mentions no type variable and no wildcard. -/
def IsGround (tree : TypeTree) : Prop :=
  ∀ part ∈ tree.parts, part.isPlaceholder = false

instance (tree : TypeTree) : Decidable tree.IsGround :=
  inferInstanceAs (Decidable (∀ part ∈ tree.parts, part.isPlaceholder = false))

/-- Whether every class in a type has the number of arguments that goes with its name. -/
def HasArities (arity : String → Nat) (tree : TypeTree) : Prop :=
  ∀ part ∈ tree.parts, part.kind = .classType → part.args.length = arity part.name

instance (arity : String → Nat) (tree : TypeTree) : Decidable (tree.HasArities arity) :=
  inferInstanceAs (Decidable
    (∀ part ∈ tree.parts, part.kind = .classType → part.args.length = arity part.name))

theorem IsGround.arg {tree arg : TypeTree} (ground : tree.IsGround) (isArg : arg ∈ tree.args) :
    arg.IsGround :=
  fun part isPart => ground part (mem_parts_of_mem_args isArg isPart)

theorem HasArities.arg {arity : String → Nat} {tree arg : TypeTree}
    (arities : tree.HasArities arity) (isArg : arg ∈ tree.args) : arg.HasArities arity :=
  fun part isPart => arities part (mem_parts_of_mem_args isArg isPart)

/-- Argument lists of one length agree only if they are equal, when arguments fit only if
they are. -/
theorem eq_of_argsAgree {lefts rights : List TypeTree} (lengths : lefts.length = rights.length)
    (each : ∀ left ∈ lefts, ∀ right ∈ rights, left.fits right = true → left = right)
    (agree : argsAgree lefts rights = true) : lefts = rights := by
  rw [← List.forall₂_eq_eq_eq, List.forall₂_iff_zip]
  refine ⟨lengths, ?_⟩
  intro left right isPair
  obtain ⟨isLeft, isRight⟩ := List.of_mem_zip isPair
  have notEmpty : lefts ≠ [] := List.ne_nil_of_mem isLeft
  have notEmpty' : rights ≠ [] := List.ne_nil_of_mem isRight
  have all : fitAll lefts rights = true := by
    simpa [argsAgree, notEmpty, notEmpty', lengths] using agree
  rw [fitAll_eq, List.all_eq_true] at all
  exact each left isLeft right isRight (all _ isPair)

theorem fits_iff_eq {arity : String → Nat} {left right : TypeTree} (ground : left.IsGround)
    (ground' : right.IsGround) (arities : left.HasArities arity)
    (arities' : right.HasArities arity) : left.fits right = true ↔ left = right := by
  constructor
  · intro fit
    induction left using by_args generalizing right with
    | step left ih =>
        have notOpen := ground left left.self_mem_parts
        have notOpen' := ground' right right.self_mem_parts
        rw [fits_eq, notOpen, notOpen'] at fit
        simp only [Bool.or_eq_true, Bool.and_eq_true, decide_eq_true_eq, Bool.false_eq_true,
          false_or] at fit
        rcases fit with same | ⟨⟨⟨⟨isClass, isClass'⟩, name⟩, dims⟩, agree⟩
        · exact same
        · have lengths : left.args.length = right.args.length := by
            rw [arities left left.self_mem_parts isClass,
              arities' right right.self_mem_parts isClass', name]
          have args := eq_of_argsAgree lengths (fun arg isArg other isOther fit =>
            ih arg isArg (ground.arg isArg) (ground'.arg isOther) (arities.arg isArg)
              (arities'.arg isOther) fit) agree
          cases left
          cases right
          simp_all
  · rintro rfl
    exact fits_self left

end TypeTree

namespace TypeArena

/-- **Fitting is a tolerance, and equality where nothing is left open.**  In an arena in order,
compared as deep as there are types, every known type argument fits itself, and two fit in
one order if they fit in the other.  If the two mention no type variables and wildcards, and
every class in them has the number of arguments that goes with its name, then they fit only
if they are the same type. -/
theorem argFits_tolerance {arena : TypeArena} (ordered : arena.Ordered) {depth : Nat}
    (deep : arena.size ≤ depth) {left right : TypeId} (knownLeft : arena.Knows left)
    (knownRight : arena.Knows right) :
    arena.argFits depth left left = true ∧
    arena.argFits depth left right = arena.argFits depth right left ∧
    ∀ arity : String → Nat, (arena.tree left).IsGround → (arena.tree right).IsGround →
      (arena.tree left).HasArities arity → (arena.tree right).HasArities arity →
      (arena.argFits depth left right = true ↔ left = right) := by
  have fits : ∀ first second, arena.Knows first → arena.Knows second →
      arena.argFits depth first second = (arena.tree first).fits (arena.tree second) :=
    fun first second known known' => argFits_eq ordered known known' (Nat.lt_of_lt_of_le known deep)
  rw [fits left left knownLeft knownLeft, fits left right knownLeft knownRight,
    fits right left knownRight knownLeft]
  refine ⟨TypeTree.fits_self _, TypeTree.fits_comm _ _, ?_⟩
  intro arity ground ground' arities arities'
  rw [TypeTree.fits_iff_eq ground ground' arities arities']
  constructor
  · exact tree_inj ordered knownLeft knownRight
  · rintro rfl
    rfl

/-- `String`, `Integer`, `List<Integer>`, `List<Integer>[]`, `Map<String, List<Integer>[]>`,
`List<String>`, `List<String>[]` and `Map<String, List<String>[]>`. -/
def mapArena : TypeArena :=
  ⟨⟨[⟨.classType, "String", [], 0⟩, ⟨.classType, "Integer", [], 0⟩, ⟨.classType, "List", [⟨1⟩], 0⟩,
    ⟨.classType, "List", [⟨1⟩], 1⟩, ⟨.classType, "Map", [⟨0⟩, ⟨3⟩], 0⟩,
    ⟨.classType, "List", [⟨0⟩], 0⟩, ⟨.classType, "List", [⟨0⟩], 1⟩,
    ⟨.classType, "Map", [⟨0⟩, ⟨6⟩], 0⟩]⟩⟩

/-- The numbers of arguments in it. -/
def mapArity (name : String) : Nat :=
  if name = "Map" then 2 else if name = "List" then 1 else 0

/-- Two maps that differ deep down do not fit, in either order. -/
theorem argFits_tolerance_map :
    mapArena.Ordered ∧ (mapArena.tree ⟨4⟩).IsGround ∧ (mapArena.tree ⟨7⟩).IsGround ∧
    (mapArena.tree ⟨4⟩).HasArities mapArity ∧ (mapArena.tree ⟨7⟩).HasArities mapArity ∧
    mapArena.argFits (mapArena.size + 1) ⟨4⟩ ⟨7⟩ ≠ true ∧
    mapArena.argFits (mapArena.size + 1) ⟨4⟩ ⟨7⟩ = mapArena.argFits (mapArena.size + 1) ⟨7⟩ ⟨4⟩ := by
  have ordered : mapArena.Ordered := by decide
  have ground : (mapArena.tree ⟨4⟩).IsGround := by decide
  have ground' : (mapArena.tree ⟨7⟩).IsGround := by decide
  have arities : (mapArena.tree ⟨4⟩).HasArities mapArity := by decide
  have arities' : (mapArena.tree ⟨7⟩).HasArities mapArity := by decide
  obtain ⟨-, symmetric, exact'⟩ := @argFits_tolerance mapArena ordered (mapArena.size + 1)
    (Nat.le_succ _) ⟨4⟩ ⟨7⟩ (by decide) (by decide)
  refine ⟨ordered, ground, ground', arities, arities', ?_, symmetric⟩
  intro fit
  exact absurd ((exact' mapArity ground ground' arities arities').1 fit) (by decide)

end TypeArena

end ChainCompletion
