/-
# Proofs.TypeTrees -- types without numbers

The number of a type says when it came up.  What the type is follows from its shape, the
shapes of its arguments, and so on: a tree (`TypeTree`).  In an arena in order
(`TypeArena.Ordered`) every shape is stored once and its arguments came up before it, so
every known type has a tree (`tree_of_shape?`).  The tree stays the same whatever comes up
later (`tree_of_growsTo`), and two types with one tree are one type (`tree_inj`).

What an arena tells about a type it tells about its tree: its names, whether it is void,
built in or an array, and how it is written (`written_eq`).
-/
import ChainCompletion.Proofs.ArenaGrowth
import ChainCompletion.Rendering.ParameterName
import ChainCompletion.TypeArena.Written

namespace ChainCompletion

set_option autoImplicit false

/-- A type as a tree: what it is made of, with its arguments in full. -/
structure TypeTree where
  kind : TypeKind
  name : String
  args : List TypeTree
  dims : Nat

namespace TypeTree

mutual

/-- Whether two trees are equal. -/
def decEq : (first second : TypeTree) → Decidable (first = second)
  | ⟨kind, name, args, dims⟩, ⟨kind', name', args', dims'⟩ =>
      match decEqAll args args' with
      | isTrue same =>
          decidable_of_iff (kind = kind' ∧ name = name' ∧ dims = dims') (by simp [same])
      | isFalse differ => isFalse (by simp [differ])

/-- Whether two lists of trees are equal. -/
def decEqAll : (first second : List TypeTree) → Decidable (first = second)
  | [], [] => isTrue rfl
  | [], _ :: _ => isFalse (by simp)
  | _ :: _, [] => isFalse (by simp)
  | tree :: trees, tree' :: trees' =>
      match decEq tree tree', decEqAll trees trees' with
      | isTrue same, isTrue sames => isTrue (by rw [same, sames])
      | isFalse differ, _ => isFalse (by simp [differ])
      | _, isFalse differ => isFalse (by simp [differ])

end

instance : DecidableEq TypeTree := decEq

/-- The tree that stands for types that are not known. -/
def missing : TypeTree := ⟨.void, "", [], 0⟩

/-- The type with more array dimensions. -/
def addDims (tree : TypeTree) (dims : Nat) : TypeTree :=
  { tree with dims := tree.dims + dims }

theorem addDims_zero (tree : TypeTree) : tree.addDims 0 = tree := by
  cases tree
  rfl

/-- The type without its array dimensions. -/
def element (tree : TypeTree) : TypeTree :=
  { tree with dims := 0 }

/-- The type of an array's entries, if it is an array. -/
def component? (tree : TypeTree) : Option TypeTree :=
  match tree.dims with
  | 0 => none
  | dims + 1 => some { tree with dims := dims }

/-- Whether the type is not known, and so fits any type argument. -/
def isPlaceholder (tree : TypeTree) : Bool :=
  tree.kind = .typeVariable || tree.kind = .wildcard

/-- The last segment of the name. -/
def simpleName (tree : TypeTree) : String :=
  QualifiedName.simple tree.name

/-- The name in a style. -/
def nameIn (tree : TypeTree) : NameStyle → String
  | .simple => tree.simpleName
  | .qualified => tree.name

mutual

/-- The type as text. -/
def written (style : NameStyle) : TypeTree → String
  | ⟨kind, name, args, dims⟩ =>
      let tail := if args.isEmpty then "" else "<" ++ String.intercalate "," (writtenAll style args) ++ ">"
      nameIn ⟨kind, name, args, dims⟩ style ++ tail ++ String.join (List.replicate dims "[]")

/-- Types as texts. -/
def writtenAll (style : NameStyle) : List TypeTree → List String
  | [] => []
  | tree :: trees => written style tree :: writtenAll style trees

end

theorem writtenAll_eq_map (style : NameStyle) (trees : List TypeTree) :
    writtenAll style trees = trees.map (written style) := by
  induction trees with
  | nil => rfl
  | cons tree trees ih => rw [writtenAll, ih, List.map_cons]

/-- The name that the type suggests for an argument. -/
def suggestedName (tree : TypeTree) : List Char :=
  match tree.kind with
  | .primitive => tree.name.toList.take 1
  | _ => lowerFirst tree.simpleName.toList

end TypeTree

/-- Lists on which a function is injective are equal when their images are. -/
theorem map_inj_of_forall_mem {α β : Type} {f : α → β} {first second : List α}
    (inj : ∀ x ∈ first, ∀ y ∈ second, f x = f y → x = y)
    (same : first.map f = second.map f) : first = second := by
  induction first generalizing second with
  | nil => simpa using same.symm
  | cons x xs ih =>
      cases second with
      | nil => simp at same
      | cons y ys =>
          simp only [List.map_cons, List.cons.injEq] at same
          rw [inj x (by simp) y (by simp) same.1,
            ih (fun x' isThere y' isThere' => inj x' (by simp [isThere]) y' (by simp [isThere']))
              same.2]

namespace TypeArena

/-- Whether every shape is stored once, with arguments that came up before it. -/
structure Ordered (arena : TypeArena) : Prop where
  distinct : arena.shapes.values.Nodup
  older : ∀ entry ∈ arena.shapes.values.zipIdx, ∀ arg ∈ entry.1.args, arg.index < entry.2

instance (arena : TypeArena) : Decidable arena.Ordered :=
  decidable_of_iff (arena.shapes.values.Nodup ∧
      ∀ entry ∈ arena.shapes.values.zipIdx, ∀ arg ∈ entry.1.args, arg.index < entry.2)
    ⟨fun both => ⟨both.1, both.2⟩, fun ordered => ⟨ordered.distinct, ordered.older⟩⟩

variable {arena before after : TypeArena} {type other : TypeId} {shape : TypeShape}

theorem Ordered.arg_lt (ordered : arena.Ordered) (found : arena.shape? type = some shape)
    {arg : TypeId} (isArg : arg ∈ shape.args) : arg.index < type.index :=
  ordered.older (shape, type.index) (List.mem_zipIdx_iff_getElem?.2 found) arg isArg

theorem Ordered.knows_arg (ordered : arena.Ordered) (found : arena.shape? type = some shape)
    {arg : TypeId} (isArg : arg ∈ shape.args) : arena.Knows arg :=
  Nat.lt_trans (ordered.arg_lt found isArg) (knows_of_shape? found)

/-- Where every shape is stored once, no two types have the same shape. -/
theorem eq_of_shape? (once : arena.shapes.values.Nodup) (found : arena.shape? type = some shape)
    (found' : arena.shape? other = some shape) : type = other := by
  have bound := (List.getElem?_eq_some_iff.1 found).1
  have same : arena.shapes.values[type.index]? = arena.shapes.values[other.index]? := by
    show arena.shape? type = arena.shape? other
    rw [found, found']
  have number := (List.getElem?_inj bound once).1 same
  cases type
  cases other
  simpa using number

/-! ## Trees -/

/-- The tree of a type, followed at most `depth` deep. -/
def treeWithin (arena : TypeArena) : Nat → TypeId → TypeTree
  | 0, _ => .missing
  | depth + 1, type =>
      match arena.shape? type with
      | none => .missing
      | some shape =>
          ⟨shape.kind, shape.name, shape.args.map (treeWithin arena depth), shape.dims⟩

/-- The tree of a type. -/
def tree (arena : TypeArena) (type : TypeId) : TypeTree :=
  arena.treeWithin (type.index + 1) type

/-- The tree of a shape. -/
def treeOf (arena : TypeArena) (shape : TypeShape) : TypeTree :=
  ⟨shape.kind, shape.name, shape.args.map arena.tree, shape.dims⟩

/-- Deeper than its number a type is not nested. -/
theorem treeWithin_eq_tree (ordered : arena.Ordered) {depth : Nat}
    (deep : type.index < depth) : arena.treeWithin depth type = arena.tree type := by
  -- on the number of the type; its arguments have smaller ones
  suffices all : ∀ bound (type : TypeId), type.index < bound → ∀ depth depth', type.index < depth →
      type.index < depth' → arena.treeWithin depth type = arena.treeWithin depth' type from
    all depth type deep depth (type.index + 1) deep (Nat.lt_succ_self _)
  intro bound
  induction bound with
  | zero => intro type none; omega
  | succ bound ih =>
      intro type bounded depth depth' deep deep'
      obtain ⟨depth, rfl⟩ := Nat.exists_eq_add_of_lt deep
      obtain ⟨depth', rfl⟩ := Nat.exists_eq_add_of_lt deep'
      rw [treeWithin, treeWithin]
      cases found : arena.shape? type with
      | none => rfl
      | some shape =>
          simp only [TypeTree.mk.injEq, true_and, and_true]
          refine List.map_congr_left ?_
          intro arg isArg
          have smaller := ordered.arg_lt found isArg
          exact ih arg (by omega) _ _ (by omega) (by omega)

/-- The tree of a type is that of its shape. -/
theorem tree_of_shape? (ordered : arena.Ordered) (found : arena.shape? type = some shape) :
    arena.tree type = arena.treeOf shape := by
  rw [tree, treeWithin, found]
  simp only [treeOf, TypeTree.mk.injEq, true_and, and_true]
  refine List.map_congr_left ?_
  intro arg isArg
  exact treeWithin_eq_tree ordered (ordered.arg_lt found isArg)

/-- An arena that an ordered one continues is ordered. -/
theorem Ordered.of_growsTo (ordered : after.Ordered) (grows : before.GrowsTo after) :
    before.Ordered where
  distinct := ordered.distinct.sublist grows.sublist
  older entry isThere arg isArg := by
    have found : before.shape? ⟨entry.2⟩ = some entry.1 := List.mem_zipIdx_iff_getElem?.1 isThere
    exact ordered.arg_lt (shape?_of_growsTo grows found) isArg

/-- A known type keeps its tree. -/
theorem tree_of_growsTo (ordered : before.Ordered) (grows : before.GrowsTo after)
    (known : before.Knows type) : after.tree type = before.tree type := by
  suffices all : ∀ depth (type : TypeId), before.Knows type →
      after.treeWithin depth type = before.treeWithin depth type from all _ type known
  intro depth
  induction depth with
  | zero => intro type _; rfl
  | succ depth ih =>
      intro type known
      obtain ⟨shape, found⟩ := knows_iff.1 known
      rw [treeWithin, treeWithin, found, shape?_of_growsTo grows found]
      simp only [TypeTree.mk.injEq, true_and, and_true]
      refine List.map_congr_left ?_
      intro arg isArg
      exact ih arg (ordered.knows_arg found isArg)

/-- Types with one tree are one type. -/
theorem tree_inj (ordered : arena.Ordered) (known : arena.Knows type) (known' : arena.Knows other)
    (same : arena.tree type = arena.tree other) : type = other := by
  suffices all : ∀ bound (type other : TypeId), type.index < bound → arena.Knows type →
      arena.Knows other → arena.tree type = arena.tree other → type = other from
    all _ type other (Nat.lt_succ_self _) known known' same
  intro bound
  induction bound with
  | zero => intro type _ none; omega
  | succ bound ih =>
      intro type other bounded known known' same
      obtain ⟨shape, found⟩ := knows_iff.1 known
      obtain ⟨shape', found'⟩ := knows_iff.1 known'
      rw [tree_of_shape? ordered found, tree_of_shape? ordered found'] at same
      simp only [treeOf, TypeTree.mk.injEq] at same
      obtain ⟨sameKind, sameName, sameArgs, sameDims⟩ := same
      have args : shape.args = shape'.args := by
        refine map_inj_of_forall_mem ?_ sameArgs
        intro arg isArg arg' isArg'
        have smaller := ordered.arg_lt found isArg
        exact ih arg arg' (by omega) (ordered.knows_arg found isArg)
          (ordered.knows_arg found' isArg')
      have shapes : shape = shape' := by
        cases shape
        cases shape'
        simp_all
      exact eq_of_shape? ordered.distinct found (shapes ▸ found')

/-! ## What an arena tells about a type -/

section Questions

variable (ordered : arena.Ordered) (known : arena.Knows type)

include ordered known

theorem shape?_eq_some : ∃ shape, arena.shape? type = some shape ∧
    arena.tree type = arena.treeOf shape := by
  obtain ⟨shape, found⟩ := knows_iff.1 known
  exact ⟨shape, found, tree_of_shape? ordered found⟩

theorem qualifiedName_eq : arena.qualifiedName type = (arena.tree type).name := by
  obtain ⟨shape, found, same⟩ := shape?_eq_some ordered known
  rw [same, qualifiedName, found]
  rfl

theorem simpleName_eq_tree : arena.simpleName type = (arena.tree type).simpleName := by
  obtain ⟨shape, found, same⟩ := shape?_eq_some ordered known
  rw [same, simpleName, found]
  rfl

theorem isVoid_eq : arena.isVoid type = decide ((arena.tree type).kind = .void) := by
  obtain ⟨shape, found, same⟩ := shape?_eq_some ordered known
  rw [same, isVoid, found]
  rfl

theorem isPrimitive_eq : arena.isPrimitive type =
    (decide ((arena.tree type).kind = .primitive) && decide ((arena.tree type).dims = 0)) := by
  obtain ⟨shape, found, same⟩ := shape?_eq_some ordered known
  rw [same, isPrimitive, found]
  rfl

omit known in
/-- Deeper than its number a type is not written. -/
theorem writtenWithin_eq (style : NameStyle) {depth : Nat} {type : TypeId}
    (known : arena.Knows type) (deep : type.index < depth) :
    arena.writtenWithin style depth type = (arena.tree type).written style := by
  induction depth generalizing type with
  | zero => omega
  | succ depth ih =>
      obtain ⟨shape, found, same⟩ := shape?_eq_some ordered known
      have args : shape.args.map (arena.writtenWithin style depth) =
          (shape.args.map arena.tree).map (TypeTree.written style) := by
        rw [List.map_map]
        refine List.map_congr_left ?_
        intro arg isArg
        have smaller := ordered.arg_lt found isArg
        exact ih (ordered.knows_arg found isArg) (by omega)
      rw [same, writtenWithin, found, treeOf, TypeTree.written, TypeTree.writtenAll_eq_map]
      simp only [args, List.isEmpty_map]
      cases style <;> rfl

theorem written_eq (style : NameStyle) :
    arena.written style type = (arena.tree type).written style :=
  writtenWithin_eq ordered style known (Nat.lt_succ_of_lt known)

end Questions

end TypeArena

end ChainCompletion
