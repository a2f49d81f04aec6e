/-
# Proofs.AssignabilityLaws -- what fits where, in terms of lineages

Three laws of assignability, for every catalog of a session:

* a class fits wherever a class of its lineage is expected (`acceptsTree_of_mem_lineage`): no
  name is listed twice, so the entry that is found by its name is that class, and arguments
  agree with themselves;
* arrays of classes fit as the classes do (`acceptsTree_addDims`), `java.lang.Object` apart,
  which takes every reference only where it has no dimensions;
* a built-in value fits nothing but its own type (`accepts_ne_true_of_isPrimitive`).

They are stated of declarations alone.  A catalog answers from its memory too, after any
queries, and the types that are asked about may come up only on the way.  Its answers are
those of its declarations on trees all along, and so the laws are laws of the catalog
(`Catalog.assignable_follows_lineage`).
-/
import ChainCompletion.Proofs.ArgumentTolerance
import ChainCompletion.Proofs.LineageWalks
import ChainCompletion.Proofs.Sessions

namespace ChainCompletion

open Denotes

set_option autoImplicit false

namespace TypeArena

/-- Whether a type is a class without array dimensions. -/
def isPlainClass (arena : TypeArena) (type : TypeId) : Bool :=
  (arena.shape? type).any fun shape => shape.kind = .classType && shape.dims = 0

/-- A class without array dimensions is known, and so is its tree. -/
theorem plainClass_tree {arena : TypeArena} (ordered : arena.Ordered) {type : TypeId}
    (isPlain : arena.isPlainClass type = true) :
    arena.Knows type ∧ (arena.tree type).kind = .classType ∧ (arena.tree type).dims = 0 := by
  rw [isPlainClass, Option.any_eq_true] at isPlain
  obtain ⟨shape, found, sort⟩ := isPlain
  rw [Bool.and_eq_true, decide_eq_true_eq, decide_eq_true_eq] at sort
  rw [tree_of_shape? ordered found]
  exact ⟨knows_of_shape? found, sort⟩

end TypeArena

namespace TypeTree

theorem element_of_dims_eq_zero {tree : TypeTree} (flat : tree.dims = 0) : tree.element = tree := by
  cases tree
  simp only at flat
  rw [flat, element]

theorem addDims_injective (dims : Nat) : Function.Injective (addDims · dims) := by
  intro tree other same
  cases tree
  cases other
  simpa [addDims] using same

end TypeTree

namespace Declarations

section Trees

variable {decls : Declarations} {base : TypeArena} {source target : TypeTree}

/-- Between classes with as many dimensions only the lineage counts. -/
theorem acceptsTree_of_classes (isClass : source.kind = .classType)
    (isClass' : target.kind = .classType) (dims : source.dims = target.dims)
    (notAll : target.acceptsReferences = false) :
    decls.acceptsTree base source target =
      decls.reachesTree base source.element target.element target.name := by
  simp [acceptsTree, isClass, isClass', dims, notAll]

/-- A class fits wherever a class of its lineage is expected. -/
theorem acceptsTree_of_mem_lineage {trees : List TypeTree}
    (walked : decls.lineageTrees base source = .ok trees)
    (distinct : (trees.map (·.name)).Nodup) (isThere : target ∈ trees)
    (isClass : source.kind = .classType) (isClass' : target.kind = .classType)
    (flat : source.dims = 0) (flat' : target.dims = 0) :
    decls.acceptsTree base source target = .ok true := by
  by_cases takesAll : target.acceptsReferences = true
  · have reference : source.isReference = true := by simp [TypeTree.isReference, isClass]
    simp [acceptsTree, isClass, isClass', takesAll, reference]
  · rw [Bool.not_eq_true] at takesAll
    rw [acceptsTree_of_classes isClass isClass' (flat.trans flat'.symm) takesAll,
      TypeTree.element_of_dims_eq_zero flat, TypeTree.element_of_dims_eq_zero flat', reachesTree,
      walked]
    -- what is found under the name is the type itself, since names are listed once
    have found : trees.find? (fun above => above.name = target.name) = some target := by
      cases search : trees.find? fun above => above.name = target.name with
      | none => exact absurd (List.find?_eq_none.1 search target isThere) (by simp)
      | some above =>
          have name : above.name = target.name := by simpa using List.find?_some search
          have isAbove := List.mem_of_find?_eq_some search
          exact congrArg some (List.inj_on_of_nodup_map distinct isAbove isThere name)
    simp [Except.map, found, TypeTree.argsAgree_self]

/-- Arrays of classes fit as the classes do. -/
theorem acceptsTree_addDims (isClass : source.kind = .classType)
    (isClass' : target.kind = .classType) (flat : source.dims = 0) (flat' : target.dims = 0)
    (notObject : target.name ≠ objectName) (dims : Nat) :
    decls.acceptsTree base (source.addDims dims) (target.addDims dims) =
      decls.acceptsTree base source target := by
  have notAll : ∀ tree : TypeTree, tree.kind = .classType → tree.name ≠ objectName →
      tree.acceptsReferences = false := by
    intro tree sort name
    simp [TypeTree.acceptsReferences, TypeTree.isPlaceholder, sort, name]
  rw [acceptsTree_of_classes isClass isClass' (flat.trans flat'.symm)
    (notAll target isClass' notObject)]
  refine acceptsTree_of_classes isClass isClass' ?_ (notAll _ isClass' notObject)
  simp [TypeTree.addDims, flat, flat']

end Trees

/-- A lineage that is found is one of trees, and lists no name twice. -/
theorem lineageTrees_of_lineage {decls : Declarations} {arena : TypeArena}
    (declsKnown : decls.KnownIn arena) (ordered : arena.Ordered) {type : TypeId}
    (known : arena.Knows type) {types : List TypeId}
    (succeeded : (decls.lineage arena type).1 = .ok types) :
    decls.lineageTrees arena (arena.tree type) = .ok (meaning (decls.lineage arena type).2 types) ∧
    ((meaning (decls.lineage arena type).2 types).map (·.name)).Nodup := by
  have walk := lineage_yields declsKnown (TypeArena.GrowsTo.refl _) ordered known
  have lists := lineage_lists declsKnown walk.ordered known succeeded (TypeArena.GrowsTo.refl _)
  have knownTypes : Known (decls.lineage arena type).2 types := walk.known types succeeded
  constructor
  · rw [← walk.means, succeeded]
    rfl
  · have names := map_eq_map_meaning fun entry isThere =>
      TypeArena.qualifiedName_eq walk.ordered (knownTypes entry isThere)
    rw [← names]
    exact lists.nodup

/-- A built-in value fits nothing, and nothing fits a built-in type. -/
theorem accepts_ne_true_of_isPrimitive {decls : Declarations} {arena : TypeArena}
    {source target : TypeId}
    (isPrimitive : arena.isPrimitive source = true ∨ arena.isPrimitive target = true) :
    (decls.accepts arena source target).1 ≠ .ok true := by
  rw [accepts]
  cases foundSource : arena.shape? source with
  | none => simp
  | some given =>
      cases foundTarget : arena.shape? target with
      | none => simp
      | some wanted =>
          simp only [TypeArena.isPrimitive, foundSource, foundTarget, Option.any_some,
            Bool.and_eq_true, decide_eq_true_eq] at isPrimitive
          simp only
          rcases isPrimitive with ⟨kind, dims⟩ | ⟨kind, dims⟩
          · have notReference : given.isReference = false := by
              simp [TypeShape.isReference, kind, dims]
            split
            · simp
            · split
              · simp [notReference]
              · simp [kind]
          · have notAll : wanted.acceptsReferences = false := by
              simp [TypeShape.acceptsReferences, TypeShape.isPlaceholder, kind]
            split
            · simp
            · simp [notAll, kind]

end Declarations

namespace Catalog

/-! ## Catalogs -/

/-- What a later state answers about known types. -/
theorem Continues.assignable_eq_tree {base later : Catalog} (continues : base.Continues later)
    (wellScoped : base.WellScoped) {source target : TypeId}
    (knownSource : later.arena.Knows source) (knownTarget : later.arena.Knows target) :
    (later.assignable source target).1 =
      base.assignableTree (later.arena.tree source) (later.arena.tree target) := by
  have answered := (assignable_yields continues wellScoped knownSource knownTarget).means
  rwa [meaning_answer] at answered

/-- With nothing remembered, all but that a type fits itself is found out. -/
theorem assignableTree_forgetful (catalog : Catalog) (source target : TypeTree) :
    catalog.forgetful.assignableTree source target =
      if source = target then .ok true
      else catalog.decls.acceptsTree catalog.arena source target := by
  rfl

namespace Informed

variable {catalog : Catalog} (informed : catalog.Informed)

include informed

/-- A catalog that has stored types and been asked since is a later state, and has them
still. -/
theorem continues_afterAll {arena : TypeArena} (grows : catalog.arena.GrowsTo arena)
    (ordered : arena.Ordered) {queries : List Query}
    (inScope : InScopeAll { catalog with arena := arena } queries) :
    catalog.forgetful.Continues (afterAll { catalog with arena := arena } queries) ∧
      arena.GrowsTo (afterAll { catalog with arena := arena } queries).arena := by
  have moved := informed.continues.withArena grows ordered
  have informed' := moved.informed informed.wellScoped rfl
  exact ⟨moved.afterAll informed.wellScoped inScope,
    (informed'.continues.afterAll informed'.wellScoped inScope).grows⟩

/-- A class fits wherever a class that its lineage lists is expected. -/
theorem assignable_of_mem_lineage {source entry : TypeId} {types : List TypeId}
    (isPlain : catalog.arena.isPlainClass source = true)
    (succeeded : (catalog.decls.lineage catalog.arena source).1 = .ok types)
    (isThere : entry ∈ types)
    (isPlain' : (catalog.decls.lineage catalog.arena source).2.isPlainClass entry = true)
    {queries : List Query}
    (inScope : InScopeAll
      { catalog with arena := (catalog.decls.lineage catalog.arena source).2 } queries) :
    ((afterAll { catalog with arena := (catalog.decls.lineage catalog.arena source).2 }
      queries).assignable source entry).1 = .ok true := by
  have ordered : catalog.arena.Ordered := informed.wellScoped.ordered
  have declsKnown : catalog.decls.KnownIn catalog.arena := informed.wellScoped.decls
  obtain ⟨known, isClass, flat⟩ := TypeArena.plainClass_tree ordered isPlain
  have walk := Declarations.lineage_yields declsKnown (TypeArena.GrowsTo.refl _) ordered known
  obtain ⟨trees, distinct⟩ := Declarations.lineageTrees_of_lineage declsKnown ordered known succeeded
  obtain ⟨knownEntry, isClass', flat'⟩ := TypeArena.plainClass_tree walk.ordered isPlain'
  obtain ⟨continues, grows⟩ := informed.continues_afterAll walk.grows walk.ordered inScope
  rw [continues.assignable_eq_tree informed.wellScoped ((walk.grows.trans grows).knows known)
    (grows.knows knownEntry), TypeArena.tree_of_growsTo ordered (walk.grows.trans grows) known,
    TypeArena.tree_of_growsTo walk.ordered grows knownEntry, assignableTree_forgetful]
  split
  · rfl
  · exact Declarations.acceptsTree_of_mem_lineage trees distinct (List.mem_map_of_mem isThere)
      isClass isClass' flat flat'

/-- Arrays of classes fit as the classes do. -/
theorem assignable_addDims {source target : TypeId} (dims : Nat)
    (isPlain : catalog.arena.isPlainClass source = true)
    (isPlain' : catalog.arena.isPlainClass target = true)
    (notObject : catalog.arena.qualifiedName target ≠ objectName) {first second : TypeId × TypeArena}
    (isFirst : catalog.arena.addDims source dims = first)
    (isSecond : first.2.addDims target dims = second) {queries : List Query}
    (inScope : InScopeAll { catalog with arena := second.2 } queries) :
    ((afterAll { catalog with arena := second.2 } queries).assignable first.1 second.1).1 =
        (catalog.assignable source target).1 ∧
      ((afterAll { catalog with arena := second.2 } queries).assignable source target).1 =
        (catalog.assignable source target).1 := by
  have ordered : catalog.arena.Ordered := informed.wellScoped.ordered
  obtain ⟨known, isClass, flat⟩ := TypeArena.plainClass_tree ordered isPlain
  obtain ⟨known', isClass', flat'⟩ := TypeArena.plainClass_tree ordered isPlain'
  rw [TypeArena.qualifiedName_eq ordered known'] at notObject
  have asked := TypeArena.addDims_yields ordered known dims
  rw [isFirst] at asked
  have asked' := TypeArena.addDims_yields asked.ordered (asked.grows.knows known') dims
  rw [isSecond, TypeArena.tree_of_growsTo ordered asked.grows known'] at asked'
  have stored := asked.grows.trans asked'.grows
  obtain ⟨continues, grows⟩ := informed.continues_afterAll stored asked'.ordered inScope
  generalize afterAll { catalog with arena := second.2 } queries = later at continues grows ⊢
  have since := stored.trans grows
  have tree : later.arena.tree first.1 = (catalog.arena.tree source).addDims dims :=
    (meaning_of_growsTo asked.ordered (asked'.grows.trans grows) asked.known).trans asked.means
  have tree' : later.arena.tree second.1 = (catalog.arena.tree target).addDims dims :=
    (meaning_of_growsTo asked'.ordered grows asked'.known).trans asked'.means
  rw [continues.assignable_eq_tree informed.wellScoped
      (known_of_growsTo (asked'.grows.trans grows) asked.known) (known_of_growsTo grows asked'.known),
    continues.assignable_eq_tree informed.wellScoped (since.knows known) (since.knows known'),
    informed.continues.assignable_eq_tree informed.wellScoped known known', tree, tree',
    TypeArena.tree_of_growsTo ordered since known, TypeArena.tree_of_growsTo ordered since known']
  refine ⟨?_, rfl⟩
  rw [assignableTree_forgetful, assignableTree_forgetful,
    Declarations.acceptsTree_addDims isClass isClass' flat flat' notObject]
  simp only [(TypeTree.addDims_injective dims).eq_iff]

/-- A built-in type fits itself alone. -/
theorem assignable_isPrimitive {source target : TypeId}
    (isPrimitive : catalog.arena.isPrimitive source = true ∨
      catalog.arena.isPrimitive target = true) :
    (catalog.assignable source target).1 = .ok true ↔ source = target := by
  rw [informed.assignable_eq]
  split
  · next same => simp [same]
  · next differ =>
      simp [differ, Declarations.accepts_ne_true_of_isPrimitive isPrimitive]

end Informed

/-- **Assignability follows lineages and lifts to arrays.**  In every catalog of a session:
(1) if the lineage of a class is found, the class fits wherever a class that it lists is
expected; (2) arrays of one class fit where arrays of another are expected, with as many
dimensions, as the first class fits where the second is expected, unless that is
`java.lang.Object`, and they fail alike; (3) if one of two types is built in, the first fits
where the second is expected exactly if they are the same.  The lineage and the arrays may
have to be stored first, and (1) and (2) hold then and after any further queries. -/
theorem assignable_follows_lineage {catalog : Catalog} (session : catalog.Session) :
    (∀ source types, catalog.arena.isPlainClass source = true →
      (catalog.decls.lineage catalog.arena source).1 = .ok types →
      let walked : Catalog :=
        { catalog with arena := (catalog.decls.lineage catalog.arena source).2 }
      ∀ entry ∈ types, walked.arena.isPlainClass entry = true →
      ∀ queries, walked.InScopeAll queries →
        ((walked.afterAll queries).assignable source entry).1 = .ok true) ∧
    (∀ source target dims, catalog.arena.isPlainClass source = true →
      catalog.arena.isPlainClass target = true →
      catalog.arena.qualifiedName target ≠ objectName →
      let first := catalog.arena.addDims source dims
      let second := first.2.addDims target dims
      let dimmed : Catalog := { catalog with arena := second.2 }
      ∀ queries, dimmed.InScopeAll queries →
        ((dimmed.afterAll queries).assignable first.1 second.1).1 =
            (catalog.assignable source target).1 ∧
          ((dimmed.afterAll queries).assignable source target).1 =
            (catalog.assignable source target).1) ∧
    ∀ source target,
      catalog.arena.isPrimitive source = true ∨ catalog.arena.isPrimitive target = true →
      ((catalog.assignable source target).1 = .ok true ↔ source = target) := by
  have informed := session.informed
  refine ⟨?_, ?_, ?_⟩
  · intro source types isPlain succeeded walked entry isThere isPlain' queries inScope
    exact informed.assignable_of_mem_lineage isPlain succeeded isThere isPlain' inScope
  · intro source target dims isPlain isPlain' notObject first second dimmed queries inScope
    exact informed.assignable_addDims dims isPlain isPlain' notObject rfl rfl inScope
  · intro source target isPrimitive
    exact informed.assignable_isPrimitive isPrimitive

/-! ## A stack -/

/-- Types: `T`, `List<T>`, `String`, `Stack<String>` and `int`, with `Stack<T> extends List<T>`.
A stack of texts is found not to be a text, which brings up `List<String>`. -/
def stackCatalog : Catalog :=
  ((((((Catalog.empty.after (.store ⟨.typeVariable, "T", [], 0⟩)).after
    (.store ⟨.classType, "List", [⟨0⟩], 0⟩)).after (.store ⟨.classType, "String", [], 0⟩)).after
    (.store ⟨.classType, "Stack", [⟨2⟩], 0⟩)).after (.store ⟨.primitive, "int", [], 0⟩)).declare
      "Stack" (some [⟨0⟩]) [⟨1⟩] []).after (.assignable ⟨3⟩ ⟨2⟩)

theorem stackCatalog_session : stackCatalog.Session := by
  have param := Session.start.after (.store ⟨.typeVariable, "T", [], 0⟩) known_nil
  have list := param.after (.store ⟨.classType, "List", [⟨0⟩], 0⟩)
    (known_singleton.2 (by decide : TypeArena.Knows _ _))
  have text := list.after (.store ⟨.classType, "String", [], 0⟩) known_nil
  have stack := text.after (.store ⟨.classType, "Stack", [⟨2⟩], 0⟩)
    (known_singleton.2 (by decide : TypeArena.Knows _ _))
  have number := stack.after (.store ⟨.primitive, "int", [], 0⟩) known_nil
  exact (number.declare "Stack" (some [⟨0⟩]) [⟨1⟩] [] (by decide)).after (.assignable ⟨3⟩ ⟨2⟩) trivial

/-- A stack of texts fits as a list of texts, also once the reverse has been asked, grids of
stacks fit as grids of lists, and an `int` is no stack. -/
theorem assignable_follows_lineage_stack :
    stackCatalog.Session ∧
    (stackCatalog.decls.lineage stackCatalog.arena ⟨3⟩).1 = .ok [⟨3⟩, ⟨5⟩] ∧
    ((afterAll { stackCatalog with
      arena := (stackCatalog.decls.lineage stackCatalog.arena ⟨3⟩).2 }
        [.assignable ⟨5⟩ ⟨3⟩]).assignable ⟨3⟩ ⟨5⟩).1 = .ok true ∧
    (let first := stackCatalog.arena.addDims ⟨3⟩ 2
    let second := first.2.addDims ⟨5⟩ 2
    (assignable { stackCatalog with arena := second.2 } first.1 second.1).1 =
      (stackCatalog.assignable ⟨3⟩ ⟨5⟩).1) ∧
    (stackCatalog.assignable ⟨4⟩ ⟨3⟩).1 ≠ .ok true := by
  obtain ⟨listed, dimmed, builtIn⟩ := assignable_follows_lineage stackCatalog_session
  have walked : (stackCatalog.decls.lineage stackCatalog.arena ⟨3⟩).1 = .ok [⟨3⟩, ⟨5⟩] := by decide
  refine ⟨stackCatalog_session, walked, ?_, ?_, ?_⟩
  · exact listed ⟨3⟩ [⟨3⟩, ⟨5⟩] (by decide) walked ⟨5⟩ (by simp) (by decide)
      [.assignable ⟨5⟩ ⟨3⟩] ⟨trivial, trivial⟩
  · exact (dimmed ⟨3⟩ ⟨5⟩ 2 (by decide) (by decide) (by decide) [] trivial).1
  · intro fits
    exact absurd ((builtIn ⟨4⟩ ⟨3⟩ (Or.inl (by decide))).1 fits) (by decide)

end Catalog

end ChainCompletion
