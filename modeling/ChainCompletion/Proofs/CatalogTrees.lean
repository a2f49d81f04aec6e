/-
# Proofs.CatalogTrees -- a catalog that has been asked before

A catalog in which every number is known (`Catalog.WellScoped`) can be asked questions in
any order.  They let its arena grow and its memory fill, but it still is a later state of
the same catalog (`Catalog.Continues`): the declarations and sites are the old ones, and
what it has learned to remember are answers that the first catalog gives as well.

Questions to a later state are answered as trees say, in terms of the first catalog alone
(`members_yields`, `assignable_yields`, `lookup_yields`), so the answers do not depend on
what was asked before.  A question about types that are not known changes nothing.
-/
import ChainCompletion.Catalog
import ChainCompletion.Proofs.AssignabilityTrees

namespace ChainCompletion

open Denotes

set_option autoImplicit false

/-- Whether all types that are mentioned at a cursor are known. -/
structure CursorSite.KnownIn (site : CursorSite) (arena : TypeArena) : Prop where
  expected : Known arena site.expected
  bindings : Known arena site.bindings

namespace Catalog

/-- Whether every number in the catalog is known to its arena, and arguments are older than
the types that use them. -/
structure WellScoped (catalog : Catalog) : Prop where
  ordered : catalog.arena.Ordered
  decls : catalog.decls.KnownIn catalog.arena
  sites : ∀ entry ∈ catalog.sites, entry.2.KnownIn catalog.arena
  remembered : Known catalog.arena catalog.known

/-- Whether a value of the first type can stand where the second is expected, as the catalog
remembers it or else finds out. -/
def assignableTree (catalog : Catalog) (source target : TypeTree) : Except LookupError Bool :=
  if source = target then .ok true
  else
    match (meaning catalog.arena catalog.known).lookup (source, target) with
    | some answer => .ok answer
    | none => catalog.decls.acceptsTree catalog.arena source target

/-- Whether an entry of a memory is right: what the catalog `base` would answer. -/
def IsRight (base : Catalog) (arena : TypeArena) (entry : (TypeId × TypeId) × Bool) : Prop :=
  Known arena entry ∧
    base.assignableTree (arena.tree entry.1.1) (arena.tree entry.1.2) = .ok entry.2

/-- Whether a catalog is a later state of `base`. -/
structure Continues (base later : Catalog) : Prop where
  decls_eq : later.decls = base.decls
  sites_eq : later.sites = base.sites
  grows : base.arena.GrowsTo later.arena
  ordered : later.arena.Ordered
  learned : ∃ new, later.known = new ++ base.known ∧
    ∀ entry ∈ new, base.IsRight later.arena entry

/-- Whether a question to the later state `before`, with this result, is answered with this
meaning and leads to a later state again. -/
structure Yields {α β : Type} [Denotes α β] (base before : Catalog) (result : α × Catalog)
    (value : β) : Prop
    extends TypeArena.Yields before.arena (result.1, result.2.arena) value where
  continues : base.Continues result.2

theorem Continues.refl {catalog : Catalog} (ordered : catalog.arena.Ordered) :
    catalog.Continues catalog :=
  ⟨rfl, rfl, TypeArena.GrowsTo.refl _, ordered, [], rfl, by simp⟩

theorem IsRight.of_growsTo {base : Catalog} {before after : TypeArena}
    {entry : (TypeId × TypeId) × Bool} (right : base.IsRight before entry)
    (ordered : before.Ordered) (grows : before.GrowsTo after) : base.IsRight after entry := by
  obtain ⟨known, same⟩ := right
  refine ⟨known_of_growsTo grows known, ?_⟩
  rwa [TypeArena.tree_of_growsTo ordered grows known.1.1,
    TypeArena.tree_of_growsTo ordered grows known.1.2]

/-- Questions asked one after the other yield the list of their answers. -/
theorem threadMap_yields {α β ι : Type} [Denotes α β] {base : Catalog}
    {ask : Catalog → ι → α × Catalog} {value : ι → β} {items : List ι}
    (each : ∀ item ∈ items, ∀ later, base.Continues later →
      base.Yields later (ask later item) (value item))
    {start : Catalog} (continues : base.Continues start) :
    base.Yields start (threadMap ask start items) (items.map value) := by
  induction items generalizing start with
  | nil => exact ⟨TypeArena.Yields.nil continues.ordered, continues⟩
  | cons item items ih =>
      have first := each item (by simp) start continues
      have rest := ih (fun other isThere => each other (by simp [isThere])) first.continues
      have both := (rest.toYields.cons first.ordered first.known).later first.grows
      rw [first.means] at both
      exact ⟨both, rest.continues⟩

section Later

variable {base later : Catalog} (continues : base.Continues later)

include continues

/-- A later state with more types. -/
theorem Continues.withArena {arena : TypeArena} (grows : later.arena.GrowsTo arena)
    (ordered : arena.Ordered) : base.Continues { later with arena := arena } := by
  obtain ⟨new, split, right⟩ := continues.learned
  refine ⟨continues.decls_eq, continues.sites_eq, continues.grows.trans grows, ordered, new, split,
    ?_⟩
  intro entry isNew
  exact (right entry isNew).of_growsTo continues.ordered grows

/-- A later state with another right answer in its memory. -/
theorem Continues.learn {entry : (TypeId × TypeId) × Bool}
    (right : base.IsRight later.arena entry) :
    base.Continues { later with known := entry :: later.known } := by
  obtain ⟨new, split, rights⟩ := continues.learned
  refine ⟨continues.decls_eq, continues.sites_eq, continues.grows, continues.ordered, entry :: new,
    by simp [split], ?_⟩
  intro other isNew
  rcases List.mem_cons.1 isNew with rfl | isOld
  · exact right
  · exact rights other isOld

/-! ## What a later state remembers -/

variable (wellScoped : base.WellScoped) {source target : TypeId}

include wellScoped

theorem Continues.lookup_base (knownSource : later.arena.Knows source)
    (knownTarget : later.arena.Knows target) :
    (meaning base.arena base.known).lookup (later.arena.tree source, later.arena.tree target) =
      base.known.lookup (source, target) := by
  have grows := continues.grows
  have same := lookup_meaning continues.ordered (known_of_growsTo grows wellScoped.remembered)
    (show Known later.arena (source, target) from ⟨knownSource, knownTarget⟩)
  rw [meaning_of_growsTo wellScoped.ordered grows wellScoped.remembered] at same
  refine same.trans ?_
  cases base.known.lookup (source, target) with
  | none => rfl
  | some answer => rfl

/-- What is remembered is right. -/
theorem Continues.assignableTree_of_lookup {answer : Bool} (differ : source ≠ target)
    (knownSource : later.arena.Knows source) (knownTarget : later.arena.Knows target)
    (hit : later.known.lookup (source, target) = some answer) :
    base.assignableTree (later.arena.tree source) (later.arena.tree target) = .ok answer := by
  obtain ⟨new, split, right⟩ := continues.learned
  rw [split, List.lookup_append] at hit
  cases isNew : new.lookup (source, target) with
  | some learned =>
      rw [isNew, Option.some_or] at hit
      obtain ⟨-, same⟩ := right _ (mem_of_lookup isNew)
      rw [← Option.some.inj hit]
      exact same
  | none =>
      rw [isNew, Option.none_or] at hit
      have trees : later.arena.tree source ≠ later.arena.tree target := fun same =>
        differ (TypeArena.tree_inj continues.ordered knownSource knownTarget same)
      rw [assignableTree, if_neg trees, continues.lookup_base wellScoped knownSource knownTarget, hit]

/-- What is not remembered has to be found out. -/
theorem Continues.assignableTree_of_not_found (differ : source ≠ target)
    (knownSource : later.arena.Knows source) (knownTarget : later.arena.Knows target)
    (miss : later.known.lookup (source, target) = none) :
    base.assignableTree (later.arena.tree source) (later.arena.tree target) =
      base.decls.acceptsTree base.arena (later.arena.tree source) (later.arena.tree target) := by
  obtain ⟨new, split, right⟩ := continues.learned
  rw [split, List.lookup_append, Option.or_eq_none_iff] at miss
  have trees : later.arena.tree source ≠ later.arena.tree target := fun same =>
    differ (TypeArena.tree_inj continues.ordered knownSource knownTarget same)
  rw [assignableTree, if_neg trees, continues.lookup_base wellScoped knownSource knownTarget, miss.2]

/-! ## Questions -/

/-- A question of assignability about known types is answered as trees say. -/
theorem assignable_yields (knownSource : later.arena.Knows source)
    (knownTarget : later.arena.Knows target) :
    base.Yields later (later.assignable source target)
      (base.assignableTree (later.arena.tree source) (later.arena.tree target)) := by
  have unchanged : ∀ answer : Bool, base.assignableTree (later.arena.tree source)
      (later.arena.tree target) = .ok answer →
        base.Yields later ((.ok answer : Except LookupError Bool), later)
          (base.assignableTree (later.arena.tree source) (later.arena.tree target)) := by
    intro answer same
    rw [same]
    exact ⟨(TypeArena.Yields.here continues.ordered
      (show Known later.arena answer from trivial)).ok, continues⟩
  rw [assignable]
  by_cases same : source = target
  · subst same
    simp only [if_true]
    exact unchanged true (by simp [assignableTree])
  · rw [if_neg same]
    cases remembered : later.known.lookup (source, target) with
    | some answer =>
        exact unchanged answer (continues.assignableTree_of_lookup wellScoped same knownSource
          knownTarget remembered)
    | none =>
        have finds := continues.assignableTree_of_not_found wellScoped same knownSource knownTarget
          remembered
        have asked := Declarations.accepts_yields wellScoped.decls continues.grows
          continues.ordered knownSource knownTarget
        rw [← finds, ← continues.decls_eq] at asked
        generalize later.decls.accepts later.arena source target = result at asked ⊢
        obtain ⟨answer, after⟩ := result
        have moved := continues.withArena asked.grows asked.ordered
        rcases asked.split with ⟨reason, rfl, failed⟩ | ⟨answer, _, rfl, succeeded, -, -, -, rfl⟩
        · exact ⟨asked, moved⟩
        · refine ⟨asked, moved.learn ⟨?_, ?_⟩⟩
          · exact ⟨⟨asked.grows.knows knownSource, asked.grows.knows knownTarget⟩, trivial⟩
          · rw [TypeArena.tree_of_growsTo continues.ordered asked.grows knownSource,
              TypeArena.tree_of_growsTo continues.ordered asked.grows knownTarget]
            exact succeeded

/-- A question for the members of a known type is answered as trees say. -/
theorem members_yields {type : TypeId} (known : later.arena.Knows type) (site : CallSite) :
    base.Yields later (later.members type site)
      (base.decls.memberTrees base.arena (later.arena.tree type) site) := by
  have asked := Declarations.members_yields wellScoped.decls continues.grows continues.ordered
    known site
  rw [← continues.decls_eq] at asked ⊢
  exact ⟨asked, continues.withArena asked.grows asked.ordered⟩

omit wellScoped in
/-- A question for the type of a name is answered by the declarations. -/
theorem lookup_yields (name : String) :
    base.Yields later (later.lookup name)
      ((base.decls.find? name).map fun _ => (⟨.classType, name, [], 0⟩ : TypeTree)) := by
  rw [lookup, ← continues.decls_eq]
  cases later.decls.find? name with
  | none => exact ⟨TypeArena.Yields.none continues.ordered, continues⟩
  | some decl =>
      have asked := TypeArena.classType_yields continues.ordered name
      exact ⟨asked.some, continues.withArena asked.grows asked.ordered⟩

/-! ## Questions about any type -/

theorem Continues.assignable (source target : TypeId) :
    base.Continues (later.assignable source target).2 := by
  by_cases both : later.arena.Knows source ∧ later.arena.Knows target
  · exact (assignable_yields continues wellScoped both.1 both.2).continues
  · have failed : ∃ reason, later.decls.accepts later.arena source target =
        (.error reason, later.arena) := by
      rw [Declarations.accepts]
      by_cases knownSource : later.arena.Knows source
      · have unknown := TypeArena.shape?_of_not_knows fun known => both ⟨knownSource, known⟩
        obtain ⟨shape, found⟩ := TypeArena.knows_iff.1 knownSource
        rw [found, unknown]
        exact ⟨_, rfl⟩
      · rw [TypeArena.shape?_of_not_knows knownSource]
        exact ⟨_, rfl⟩
    obtain ⟨reason, failed⟩ := failed
    rw [Catalog.assignable, failed]
    split
    · exact continues
    · split
      · exact continues
      · exact continues

theorem Continues.members (type : TypeId) (site : CallSite) :
    base.Continues (later.members type site).2 := by
  by_cases known : later.arena.Knows type
  · exact (members_yields continues wellScoped known site).continues
  · rw [Catalog.members, Declarations.members, TypeArena.shape?_of_not_knows known]
    exact continues

omit wellScoped in
theorem Continues.lookup (name : String) : base.Continues (later.lookup name).2 :=
  (lookup_yields continues name).continues

omit wellScoped in
theorem Continues.component? (type : TypeId) :
    base.Continues { later with arena := (later.arena.component? type).2 } := by
  by_cases known : later.arena.Knows type
  · have asked := TypeArena.component?_yields continues.ordered known
    exact continues.withArena asked.grows asked.ordered
  · rw [TypeArena.component?, TypeArena.shape?_of_not_knows known]
    exact continues

end Later

end Catalog

end ChainCompletion
