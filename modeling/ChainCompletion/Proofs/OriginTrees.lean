/-
# Proofs.OriginTrees -- roots on trees

Which target and roots a cursor has follows from what is registered there, the settings and
the declarations (`Catalog.originsTree`).  A later state of a catalog collects the same
(`collect_yields`): the bindings at the cursor are the ones of the first state, and a named
root that has to be stored first has the tree of its name.
-/
import ChainCompletion.Origins
import ChainCompletion.Proofs.SearchTrees

namespace ChainCompletion

open Denotes

set_option autoImplicit false

/-- What a search starts from. -/
structure TreeOrigins where
  target : TypeTree
  roots : List TreeBinding
  companions : List TreeBinding

instance : Denotes Origins TreeOrigins where
  Known arena set := arena.Knows set.target ∧ Known arena set.roots ∧ Known arena set.companions
  meaning arena set :=
    ⟨arena.tree set.target, meaning arena set.roots, meaning arena set.companions⟩
  known_of_growsTo grows known :=
    ⟨grows.knows known.1, known_of_growsTo grows known.2.1, known_of_growsTo grows known.2.2⟩
  meaning_of_growsTo ordered grows known := by
    rw [TypeArena.tree_of_growsTo ordered grows known.1, meaning_of_growsTo ordered grows known.2.1,
      meaning_of_growsTo ordered grows known.2.2]
  meaning_inj {arena set other} ordered known known' same := by
    obtain ⟨target, roots, companions⟩ := set
    obtain ⟨target', roots', companions'⟩ := other
    simp only [TreeOrigins.mk.injEq] at same
    obtain ⟨sameTarget, sameRoots, sameCompanions⟩ := same
    obtain rfl : target = target' := TypeArena.tree_inj ordered known.1 known'.1 sameTarget
    obtain rfl : roots = roots' := meaning_inj ordered known.2.1 known'.2.1 sameRoots
    obtain rfl : companions = companions' := meaning_inj ordered known.2.2 known'.2.2 sameCompanions
    rfl

/-! ## Lists without repetition -/

section Distinct

variable {α β : Type} [Denotes α β] [DecidableEq α] {arena : TypeArena}

theorem known_distinct {things : List α} (known : Known arena things) :
    Known arena (distinct things) :=
  fun thing isThere => known thing (mem_distinct.1 isThere)

variable [DecidableEq β]

theorem meaning_foldl_addNew (ordered : arena.Ordered) {things seen : List α}
    (known : Known arena things) (knownSeen : Known arena seen) :
    meaning arena (things.foldl addNew seen) =
      (meaning arena things).foldl addNew (meaning arena seen) := by
  induction things generalizing seen with
  | nil => rfl
  | cons thing things ih =>
      obtain ⟨knownThing, knownRest⟩ := known_cons.1 known
      have isThere := mem_meaning_iff ordered knownSeen knownThing
      have added : meaning arena (addNew seen thing) =
          addNew (meaning arena seen) (meaning arena thing) := by
        rw [addNew, addNew, apply_ite (meaning arena), meaning_append]
        simp only [isThere]
        rfl
      have knownAdded : Known arena (addNew seen thing) := by
        intro other isOther
        rcases mem_addNew.1 isOther with old | rfl
        · exact knownSeen other old
        · exact knownThing
      rw [List.foldl_cons, meaning_cons, List.foldl_cons, ih knownRest knownAdded, added]

/-- The first occurrences of things mean the first occurrences of their meanings. -/
theorem meaning_distinct (ordered : arena.Ordered) {things : List α}
    (known : Known arena things) :
    meaning arena (distinct things) = distinct (meaning arena things) :=
  meaning_foldl_addNew ordered known known_nil

end Distinct

/-! ## Roots on trees -/

namespace Settings

variable (settings : Settings)

/-- Whether a type is not searched for. -/
def excludesTargetTree (tree : TypeTree) : Bool :=
  if 0 < tree.dims then false
  else
    match tree.kind with
    | .primitive => true
    | .void => true
    | .typeVariable => false
    | .wildcard => false
    | .classType => settings.excludesName tree.name

/-- Whether a binding is a static root of an excluded type. -/
def excludesRootTree (binding : TreeBinding) : Bool :=
  binding.isStatic && settings.excludesName binding.type.name

end Settings

/-- The names of the factories of a type. -/
def TypeTree.factories (tree : TypeTree) : List String :=
  if 0 < tree.dims then []
  else (ChainCompletion.factories.filter fun entry => entry.1 = tree.name).map (·.2)

namespace Catalog

variable (base : Catalog) (settings : Settings)

/-- The static root of a qualified name, if a type of that name is declared and not
excluded. -/
def staticRootTree (name : String) : Option TreeBinding :=
  match base.decls.find? name with
  | none => none
  | some _ =>
      let binding : TreeBinding :=
        ⟨QualifiedName.simple name, ⟨.classType, name, [], 0⟩, .staticType, false⟩
      if settings.excludesRootTree binding then none else some binding

/-- The roots for a target at a cursor. -/
def originsForTree (cursor : Text.Cursor) (target : TypeTree) : TreeOrigins :=
  let visible := (meaning base.arena (base.siteOf cursor).bindings).filter fun binding =>
    !settings.excludesRootTree binding
  let roots := distinct (visible ++ settings.staticRoots.filterMap (base.staticRootTree settings))
  let makers := target.factories.filterMap (base.staticRootTree settings)
  ⟨target, roots, distinct (makers.filter fun binding => binding ∉ roots)⟩

/-- The target and the roots at a cursor. -/
def originsTree (cursor : Text.Cursor) (typed : String) : Option TreeOrigins :=
  if typed = creationWord || (base.siteOf cursor).namesNewType then none
  else
    match (base.siteOf cursor).expected with
    | none => none
    | some type =>
        if (base.arena.tree type).kind = .void || settings.excludesTargetTree (base.arena.tree type)
        then none
        else some (base.originsForTree settings cursor (base.arena.tree type))

end Catalog

/-! ## Questions about one type -/

namespace TypeArena

variable {arena : TypeArena} (ordered : arena.Ordered) (settings : Settings)

include ordered

theorem excludesRoot_eq {binding : Binding} (known : Known arena binding) :
    settings.excludesRoot arena binding = settings.excludesRootTree (meaning arena binding) := by
  rw [Settings.excludesRoot, Settings.excludesRootTree, qualifiedName_eq ordered known]
  rfl

theorem excludesTarget_eq {type : TypeId} (known : arena.Knows type) :
    settings.excludesTarget arena type = settings.excludesTargetTree (arena.tree type) := by
  obtain ⟨shape, found, same⟩ := shape?_eq_some ordered known
  rw [same, Settings.excludesTarget, found]
  rfl

theorem factoriesOf_eq {type : TypeId} (known : arena.Knows type) :
    Origins.factoriesOf arena type = (arena.tree type).factories := by
  obtain ⟨shape, found, same⟩ := shape?_eq_some ordered known
  rw [same, Origins.factoriesOf, found]
  rfl

end TypeArena

namespace Catalog

variable {base later : Catalog}

theorem WellScoped.siteOf (wellScoped : base.WellScoped) (cursor : Text.Cursor) :
    (base.siteOf cursor).KnownIn base.arena := by
  rw [Catalog.siteOf]
  cases found : base.sites.lookup cursor with
  | none => exact ⟨by rintro type ⟨⟩, known_nil⟩
  | some site => exact wellScoped.sites _ (mem_of_lookup found)

variable (continues : base.Continues later) (settings : Settings)

include continues

theorem Continues.siteOf_eq (cursor : Text.Cursor) : later.siteOf cursor = base.siteOf cursor := by
  rw [Catalog.siteOf, Catalog.siteOf, continues.sites_eq]

/-! ## Static roots -/

theorem staticRoot_yields (name : String) :
    base.Yields later (Origins.staticRoot view settings later name)
      (base.staticRootTree settings name) := by
  have asked := lookup_yields continues name
  rw [Origins.staticRoot, staticRootTree, show view.lookup later name = later.lookup name from rfl]
  generalize later.lookup name = result at asked ⊢
  obtain ⟨type?, after⟩ := result
  have answered := asked.means
  cases type? with
  | none =>
      cases found : base.decls.find? name with
      | some decl => simp [found, meaning] at answered
      | none => exact ⟨⟨asked.grows, asked.ordered, by rintro root ⟨⟩, rfl⟩, asked.continues⟩
  | some type =>
      cases found : base.decls.find? name with
      | none => simp [found, meaning] at answered
      | some decl =>
          rw [found] at answered
          have known : after.arena.Knows type := asked.known type rfl
          have tree : after.arena.tree type = ⟨.classType, name, [], 0⟩ := Option.some.inj answered
          have root : meaning after.arena
              (Binding.ofStaticType (after.arena.simpleName type) type) =
                ⟨QualifiedName.simple name, ⟨.classType, name, [], 0⟩, .staticType, false⟩ := by
            rw [TypeArena.simpleName_eq_tree asked.ordered known, tree]
            show TreeBinding.mk _ (after.arena.tree type) _ _ = _
            rw [tree]
            rfl
          have kept := TypeArena.excludesRoot_eq asked.ordered settings
            (show Known after.arena (Binding.ofStaticType (after.arena.simpleName type) type) from
              known)
          rw [root] at kept
          refine ⟨⟨asked.grows, asked.ordered, ?_, ?_⟩, asked.continues⟩
          · intro binding isRoot
            simp only [Option.mem_def, Option.ite_none_left_eq_some, Option.some.injEq] at isRoot
            rw [← isRoot.2]
            exact known
          · show Option.map (meaning after.arena) (if settings.excludesRoot after.arena _ then _
              else _) = _
            rw [show view.arena after = after.arena from rfl, kept, apply_ite (Option.map _)]
            simp only [Option.map_none, Option.map_some, root]

theorem staticRoots_yields (names : List String) :
    base.Yields later (Origins.staticRoots view settings later names)
      (names.filterMap (base.staticRootTree settings)) := by
  have each : ∀ name ∈ names, ∀ state, base.Continues state →
      base.Yields state (Origins.staticRoot view settings state name)
        (base.staticRootTree settings name) :=
    fun name _ state continues => staticRoot_yields continues settings name
  have asked := threadMap_yields each continues
  have present := asked.toYields.present
  rw [List.filterMap_map] at present
  exact ⟨present, asked.continues⟩

/-! ## All roots -/

variable (wellScoped : base.WellScoped)

include wellScoped

theorem forTarget_yields (cursor : Text.Cursor) {target : TypeId}
    (knownTarget : later.arena.Knows target) :
    base.Yields later (Origins.forTarget view settings later cursor target)
      (base.originsForTree settings cursor (later.arena.tree target)) := by
  have knownSite : Known later.arena (base.siteOf cursor).bindings :=
    known_of_growsTo continues.grows (wellScoped.siteOf cursor).bindings
  have sameSite := meaning_of_growsTo wellScoped.ordered continues.grows
    (wellScoped.siteOf cursor).bindings
  -- what is in reach
  have knownVisible := known_filter knownSite fun binding =>
    !settings.excludesRoot later.arena binding
  have sameVisible : meaning later.arena ((base.siteOf cursor).bindings.filter fun binding =>
        !settings.excludesRoot later.arena binding) =
      (meaning base.arena (base.siteOf cursor).bindings).filter fun binding =>
        !settings.excludesRootTree binding := by
    rw [← sameSite]
    refine meaning_filter ?_
    intro binding isThere
    rw [TypeArena.excludesRoot_eq continues.ordered settings (knownSite binding isThere)]
  have named := staticRoots_yields continues settings settings.staticRoots
  rw [Origins.forTarget, originsForTree, ← sameVisible,
    ← TypeArena.factoriesOf_eq continues.ordered knownTarget,
    show view.bindings later cursor = (base.siteOf cursor).bindings from
      congrArg CursorSite.bindings (continues.siteOf_eq cursor),
    show view.arena later = later.arena from rfl]
  generalize ((base.siteOf cursor).bindings.filter fun binding =>
    !settings.excludesRoot later.arena binding) = visible at knownVisible ⊢
  generalize Origins.staticRoots view settings later settings.staticRoots = result at named ⊢
  obtain ⟨roots, middle⟩ := result
  have all := named.toYields.prepend continues.ordered knownVisible
  simp only at all ⊢
  have makers := staticRoots_yields named.continues settings
    (Origins.factoriesOf later.arena target)
  generalize Origins.staticRoots view settings middle (Origins.factoriesOf later.arena target) =
    result at makers ⊢
  obtain ⟨makers', after⟩ := result
  have knownRoots : Known middle.arena (distinct (visible ++ roots)) := known_distinct all.known
  have sameRoots : meaning middle.arena (distinct (visible ++ roots)) =
      distinct (meaning later.arena visible ++
        settings.staticRoots.filterMap (base.staticRootTree settings)) := by
    rw [meaning_distinct all.ordered all.known]
    exact congrArg distinct all.means
  rw [← sameRoots]
  generalize distinct (visible ++ roots) = roots' at knownRoots ⊢
  have knownNow := known_of_growsTo makers.grows knownRoots
  have rootsNow := meaning_of_growsTo all.ordered makers.grows knownRoots
  have others : meaning after.arena (makers'.filter fun binding => binding ∉ roots') =
      ((Origins.factoriesOf later.arena target).filterMap (base.staticRootTree settings)).filter
        fun binding => binding ∉ meaning middle.arena roots' := by
    rw [← makers.means, ← rootsNow]
    refine meaning_filter ?_
    intro binding isThere
    rw [decide_eq_decide, mem_meaning_iff makers.ordered knownNow (makers.known binding isThere)]
  have knownOthers := known_filter makers.known fun binding => decide (binding ∉ roots')
  have grown := named.grows.trans makers.grows
  refine ⟨⟨grown, makers.ordered, ⟨grown.knows knownTarget, knownNow, known_distinct knownOthers⟩,
    ?_⟩, makers.continues⟩
  show TreeOrigins.mk _ _ _ = TreeOrigins.mk _ _ _
  rw [TypeArena.tree_of_growsTo continues.ordered grown knownTarget, rootsNow,
    meaning_distinct makers.ordered knownOthers, others]

/-- **A later state of a catalog collects the same origins** as trees say. -/
theorem collect_yields (cursor : Text.Cursor) (typed : String) :
    base.Yields later (Origins.collect view settings later cursor typed)
      (base.originsTree settings cursor typed) := by
  have none : base.Yields later ((none : Option Origins), later) none :=
    ⟨TypeArena.Yields.none continues.ordered, continues⟩
  rw [Origins.collect, originsTree,
    show view.namesNewType later cursor = (base.siteOf cursor).namesNewType from
      congrArg CursorSite.namesNewType (continues.siteOf_eq cursor),
    show view.expected later cursor = (base.siteOf cursor).expected from
      congrArg CursorSite.expected (continues.siteOf_eq cursor)]
  split
  · exact none
  · cases expected : (base.siteOf cursor).expected with
    | none => exact none
    | some type =>
        have known : base.arena.Knows type := (wellScoped.siteOf cursor).expected type expected
        have knownNow := continues.grows.knows known
        have tree := TypeArena.tree_of_growsTo wellScoped.ordered continues.grows known
        have excluded := TypeArena.excludesTarget_eq continues.ordered settings knownNow
        have isVoid := TypeArena.isVoid_eq continues.ordered knownNow
        simp only [show view.arena later = later.arena from rfl, isVoid, excluded, ← tree]
        split
        · exact none
        · have asked := forTarget_yields continues settings wellScoped cursor knownNow
          exact ⟨asked.toYields.some, asked.continues⟩

end Catalog

end ChainCompletion
