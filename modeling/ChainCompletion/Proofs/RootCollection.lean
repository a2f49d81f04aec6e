/-
# Proofs.RootCollection -- what a search starts from

Whether there is a search, and from where, is decided before it by names: the name of the target
and those of the types that would be static roots.  A view may answer as it likes and change with
every answer, so a root that comes from a name is kept together with the arena in which it was
found (`Origins.Resolves`), and it is passed over if that arena gives its type an excluded name.

Roots come from two sources, what is in reach and what the settings name, and companions from a
third, the factories of the target.  Of all of them each binding is used once, where it comes
first, so a factory that is a root already is no companion (`Origins.collect_clean`).
-/
import ChainCompletion.Catalog
import ChainCompletion.Origins

namespace ChainCompletion

open Text

set_option autoImplicit false

/-! ## First occurrences -/

/-- Adding things one by one keeps the first occurrence of each. -/
theorem foldl_addNew_eq {α : Type} [DecidableEq α] (items seen : List α) :
    items.foldl addNew seen = seen ++ (items.removeAll seen).eraseDups := by
  induction items generalizing seen with
  | nil => simp [List.removeAll]
  | cons item items ih =>
      rw [List.foldl_cons, ih, addNew]
      by_cases present : item ∈ seen
      · simp [present, List.removeAll]
      · simp only [present, if_false, List.removeAll, List.append_assoc, List.singleton_append,
          List.filter_cons, List.elem_eq_mem, decide_false, Bool.not_false, if_true,
          List.eraseDups_cons, List.filter_filter]
        congr 3
        apply List.filter_congr
        intro other _
        by_cases same : other = item <;> simp [same]

theorem distinct_eq_eraseDups {α : Type} [DecidableEq α] (items : List α) :
    distinct items = items.eraseDups := by
  have all : items.removeAll [] = items := List.filter_eq_self.2 (by simp)
  rw [distinct, foldl_addNew_eq, all, List.nil_append]

/-! ## Names that are passed over -/

namespace Settings

variable {settings : Settings} {arena : TypeArena}

/-- A target that is not searched for: one that the arena does not know, one without values, a
built-in value, or a class that is excluded by name. -/
def Unsearched (settings : Settings) (arena : TypeArena) (target : TypeId) : Prop :=
  arena.shape? target = none ∨
    ∃ shape, arena.shape? target = some shape ∧
      (shape.kind = .void ∨
        shape.dims = 0 ∧ (shape.kind = .primitive ∨
          shape.kind = .classType ∧
            (shape.name ∈ trivialNames ∨ shape.name ∈ settings.excludedTypes)))

/-- A binding that starts no chain: a type that is excluded by name. -/
def PassesOver (settings : Settings) (arena : TypeArena) (binding : Binding) : Prop :=
  binding.kind = .staticType ∧
    (arena.qualifiedName binding.type ∈ trivialNames ∨
      arena.qualifiedName binding.type ∈ settings.excludedTypes)

instance (binding : Binding) : Decidable (settings.PassesOver arena binding) :=
  inferInstanceAs (Decidable (_ ∧ (_ ∨ _)))

theorem excludesRoot_iff {binding : Binding} :
    settings.excludesRoot arena binding = true ↔ settings.PassesOver arena binding := by
  simp [excludesRoot, excludesName, PassesOver, Binding.isStatic]

theorem unsearched_iff {target : TypeId} :
    (arena.isVoid target || settings.excludesTarget arena target) = true ↔
      settings.Unsearched arena target := by
  rw [TypeArena.isVoid, excludesTarget, Unsearched]
  cases arena.shape? target with
  | none => simp
  | some shape =>
      obtain ⟨kind, name, args, dims⟩ := shape
      cases dims with
      | zero => cases kind <;> simp [excludesName]
      | succ dims => cases kind <;> simp

end Settings

/-! ## Types by name -/

namespace Origins

variable {σ : Type} {view : ProgramView σ} {settings : Settings}

/-- What a view answers when it is asked for the types of names, one after the other: for each
name that it knows the static members of the type, with the arena in which they were found. -/
inductive Resolves (view : ProgramView σ) : σ → List String → List (TypeArena × Binding) → σ → Prop
  | nil (state : σ) : Resolves view state [] [] state
  | unknown {state next last : σ} {name : String} {names : List String}
      {found : List (TypeArena × Binding)} (asked : view.lookup state name = (none, next))
      (later : Resolves view next names found last) : Resolves view state (name :: names) found last
  | known {state next last : σ} {name : String} {names : List String}
      {found : List (TypeArena × Binding)} {type : TypeId}
      (asked : view.lookup state name = (some type, next))
      (later : Resolves view next names found last) :
      Resolves view state (name :: names)
        ((view.arena next, .ofStaticType ((view.arena next).simpleName type) type) :: found) last

/-- Those of the bindings that may start a chain. -/
def kept (settings : Settings) (read : List (TypeArena × Binding)) : List Binding :=
  (read.filter fun entry => ¬ settings.PassesOver entry.1 entry.2).map (·.2)

theorem kept_cons (settings : Settings) (entry : TypeArena × Binding)
    (read : List (TypeArena × Binding)) :
    kept settings (entry :: read) =
      (if settings.PassesOver entry.1 entry.2 then none else some entry.2).toList ++
        kept settings read := by
  by_cases passed : settings.PassesOver entry.1 entry.2 <;> simp [kept, passed]

theorem kept_append (settings : Settings) (read more : List (TypeArena × Binding)) :
    kept settings (read ++ more) = kept settings read ++ kept settings more := by
  simp [kept]

theorem staticRoot_unknown {state next : σ} {name : String}
    (asked : view.lookup state name = (none, next)) :
    staticRoot view settings state name = (none, next) := by
  rw [staticRoot, asked]

theorem staticRoot_known {state next : σ} {name : String} {type : TypeId}
    (asked : view.lookup state name = (some type, next)) :
    staticRoot view settings state name =
      (if settings.PassesOver (view.arena next)
          (.ofStaticType ((view.arena next).simpleName type) type) then none
        else some (.ofStaticType ((view.arena next).simpleName type) type), next) := by
  rw [staticRoot, asked]
  simp only [Settings.excludesRoot_iff]

theorem staticRoots_cons (view : ProgramView σ) (settings : Settings) (state : σ) (name : String)
    (names : List String) :
    staticRoots view settings state (name :: names) =
      ((staticRoot view settings state name).1.toList ++
          (staticRoots view settings (staticRoot view settings state name).2 names).1,
        (staticRoots view settings (staticRoot view settings state name).2 names).2) := by
  rw [staticRoots, threadMap_cons]
  cases (staticRoot view settings state name).1 <;> rfl

/-- The static roots of names are what the view answers, without what is passed over. -/
theorem staticRoots_resolves (view : ProgramView σ) (settings : Settings) (state : σ)
    (names : List String) :
    ∃ found after, Resolves view state names found after ∧
      staticRoots view settings state names = (kept settings found, after) := by
  induction names generalizing state with
  | nil => exact ⟨[], state, .nil state, rfl⟩
  | cons name names ih =>
      rw [staticRoots_cons]
      cases asked : view.lookup state name with
      | mk type? next =>
          obtain ⟨found, after, later, roots⟩ := ih next
          cases type? with
          | none =>
              rw [staticRoot_unknown asked, roots]
              exact ⟨found, after, .unknown asked later, rfl⟩
          | some type =>
              rw [staticRoot_known asked, roots]
              refine ⟨_, after, .known asked later, ?_⟩
              rw [kept_cons]

theorem staticRoots_singleton (state : σ) (name : String) :
    staticRoots view settings state [name] =
      ((staticRoot view settings state name).1.toList, (staticRoot view settings state name).2) := by
  rw [staticRoots_cons]
  exact congrArg (·, _) (List.append_nil _)

/-- A name has a static root exactly if the view knows its type and it is not passed over. -/
theorem staticRoot_eq_some_iff {state : σ} {name : String} {binding : Binding} :
    (staticRoot view settings state name).1 = some binding ↔
      ∃ type,
        view.lookup state name = (some type, (staticRoot view settings state name).2) ∧
        binding = .ofStaticType
          ((view.arena (staticRoot view settings state name).2).simpleName type) type ∧
        ¬ settings.PassesOver (view.arena (staticRoot view settings state name).2) binding := by
  cases asked : view.lookup state name with
  | mk type? next =>
      cases type? with
      | none => simp [staticRoot_unknown asked]
      | some type =>
          rw [staticRoot_known asked]
          simp only [Option.ite_none_left_eq_some, Option.some.injEq, Prod.mk.injEq, and_true]
          constructor
          · rintro ⟨isKept, rfl⟩
            exact ⟨type, rfl, rfl, isKept⟩
          · rintro ⟨type', rfl, rfl, isKept⟩
            exact ⟨isKept, rfl⟩

/-! ## Factories -/

/-- No type has two factories. -/
theorem factories_single : ∀ entry ∈ factories,
    (factories.filter fun other => other.1 = entry.1).map (·.2) = [entry.2] := by
  decide

theorem factoriesOf_of_mem {arena : TypeArena} {target : TypeId} {shape : TypeShape}
    (isShape : arena.shape? target = some shape) (flat : shape.dims = 0) {factory : String}
    (isEntry : (shape.name, factory) ∈ factories) : factoriesOf arena target = [factory] := by
  rw [factoriesOf, isShape]
  simpa [flat] using factories_single _ isEntry

theorem factoriesOf_cases {arena : TypeArena} {target : TypeId} {shape : TypeShape}
    (isShape : arena.shape? target = some shape) :
    factoriesOf arena target = [] ∨
      ∃ factory, shape.dims = 0 ∧ (shape.name, factory) ∈ factories ∧
        factoriesOf arena target = [factory] := by
  by_cases none : factoriesOf arena target = []
  · exact Or.inl none
  · obtain ⟨factory, isThere⟩ := List.exists_mem_of_ne_nil _ none
    have names : shape.dims = 0 ∧ (shape.name, factory) ∈ factories := by
      rw [factoriesOf, isShape] at isThere
      by_cases deep : 0 < shape.dims
      · simp [deep] at isThere
      · simp only [deep, if_false, List.mem_map, List.mem_filter, decide_eq_true_eq] at isThere
        obtain ⟨⟨product, maker⟩, ⟨isEntry, rfl⟩, rfl⟩ := isThere
        exact ⟨Nat.eq_zero_of_not_pos deep, isEntry⟩
    exact Or.inr ⟨factory, names.1, names.2, factoriesOf_of_mem isShape names.1 names.2⟩

/-! ## Roots and companions -/

/-- What is in reach of a cursor, with the arena in which it is read. -/
def inReach (view : ProgramView σ) (state : σ) (cursor : Cursor) : List (TypeArena × Binding) :=
  (view.bindings state cursor).map (view.arena state, ·)

theorem kept_inReach (state : σ) (cursor : Cursor) :
    kept settings (inReach view state cursor) =
      (view.bindings state cursor).filter fun binding =>
        !settings.excludesRoot (view.arena state) binding := by
  rw [kept, inReach, List.filter_map, List.map_map]
  simp [Function.comp_def, ← Settings.excludesRoot_iff]

theorem forTarget_eq (state : σ) (cursor : Cursor) (target : TypeId)
    {found : List (TypeArena × Binding)} {middle : σ}
    (asked : staticRoots view settings state settings.staticRoots = (kept settings found, middle)) :
    let roots := distinct (kept settings (inReach view state cursor ++ found))
    let makers := staticRoots view settings middle (factoriesOf (view.arena state) target)
    forTarget view settings state cursor target =
      (⟨target, roots, distinct (makers.1.filter fun maker => maker ∉ roots)⟩, makers.2) := by
  rw [kept_append, kept_inReach, forTarget, asked]

/-- A binding is a companion exactly if it is the static root of the target's factory and not a
root already. -/
theorem mem_companions_iff {state middle : σ} {target : TypeId} {shape : TypeShape}
    (isShape : (view.arena state).shape? target = some shape) {roots : List Binding}
    {binding : Binding} :
    let makers := staticRoots view settings middle (factoriesOf (view.arena state) target)
    binding ∈ distinct (makers.1.filter fun maker => maker ∉ roots) ↔
      ∃ product factory type, (product, factory) ∈ factories ∧
        shape.dims = 0 ∧ shape.name = product ∧
        view.lookup middle factory = (some type, makers.2) ∧
        binding = .ofStaticType ((view.arena makers.2).simpleName type) type ∧
        ¬ settings.PassesOver (view.arena makers.2) binding ∧ binding ∉ roots := by
  intro makers
  rw [mem_distinct, List.mem_filter, decide_eq_true_eq]
  rcases factoriesOf_cases isShape with none | ⟨factory, flat, isEntry, only⟩
  · have nothing : makers = ([], middle) := by
      show staticRoots view settings middle (factoriesOf (view.arena state) target) = _
      rw [none]
      rfl
    rw [nothing]
    constructor
    · rintro ⟨isThere, -⟩
      cases isThere
    · rintro ⟨product, factory, type, isEntry, flat, rfl, -⟩
      rw [factoriesOf_of_mem isShape flat isEntry] at none
      cases none
  · have single : makers = ((staticRoot view settings middle factory).1.toList,
        (staticRoot view settings middle factory).2) := by
      show staticRoots view settings middle (factoriesOf (view.arena state) target) = _
      rw [only, staticRoots_singleton]
    rw [single, Option.mem_toList, staticRoot_eq_some_iff]
    constructor
    · rintro ⟨⟨type, asked, isRoot, isKept⟩, isNew⟩
      exact ⟨shape.name, factory, type, isEntry, flat, rfl, asked, isRoot, isKept, isNew⟩
    · rintro ⟨product, maker, type, isEntry', -, rfl, asked, isRoot, isKept, isNew⟩
      -- the target has one factory only
      have same := factoriesOf_of_mem isShape flat isEntry'
      rw [only, List.singleton_inj] at same
      subst same
      exact ⟨⟨type, asked, isRoot, isKept⟩, isNew⟩

/-! ## At a cursor -/

variable (view settings) (state : σ) (cursor : Cursor) (typed : String)

/-- Whether there is nothing to search for at a cursor. -/
def Idle : Prop :=
  typed = "new" ∨ view.namesNewType state cursor = true ∨ view.expected state cursor = none ∨
    ∃ target, view.expected state cursor = some target ∧
      settings.Unsearched (view.arena state) target

variable {view settings state cursor typed}

theorem collect_of_idle (idle : Idle view settings state cursor typed) :
    collect view settings state cursor typed = (none, state) := by
  rw [collect]
  by_cases naming : (typed = creationWord || view.namesNewType state cursor) = true
  · rw [if_pos naming]
  · rw [if_neg naming]
    simp only [Bool.or_eq_true, decide_eq_true_eq, not_or] at naming
    rcases idle with isNew | isName | none | ⟨target, expected, unsearched⟩
    · exact absurd isNew naming.1
    · exact absurd isName naming.2
    · rw [none]
    · rw [expected]
      simp only [Settings.unsearched_iff.2 unsearched, if_true]

theorem collect_of_not_idle (busy : ¬ Idle view settings state cursor typed) :
    ∃ target shape, view.expected state cursor = some target ∧
      (view.arena state).shape? target = some shape ∧
      collect view settings state cursor typed =
        (some (forTarget view settings state cursor target).1,
          (forTarget view settings state cursor target).2) := by
  simp only [Idle, not_or, not_exists, not_and] at busy
  obtain ⟨notNew, notName, some, searched⟩ := busy
  obtain ⟨target, expected⟩ := Option.ne_none_iff_exists'.1 some
  have isSearched := searched target expected
  have shape : ∃ shape, (view.arena state).shape? target = Option.some shape :=
    Option.ne_none_iff_exists'.1 fun none => isSearched (Or.inl none)
  obtain ⟨shape, isShape⟩ := shape
  refine ⟨target, shape, expected, isShape, ?_⟩
  have notNaming : ¬ (typed = creationWord || view.namesNewType state cursor) = true := by
    simp only [Bool.or_eq_true, decide_eq_true_eq, not_or]
    exact ⟨notNew, notName⟩
  rw [collect, if_neg notNaming, expected]
  simp only [mt Settings.unsearched_iff.1 isSearched]
  rfl

/-- **A search starts from a clean set of roots.**  There is none exactly if nothing is to be
searched for: the word `new` has been typed, a new type is being named, nothing is expected, or the
expected type is unknown, without values, a built-in value, or a class excluded by name.

Otherwise the target is the expected type.  The roots are the first occurrences of what is in
reach, followed by the types that the settings name, as far as the view knows them, without the
types excluded by name.  A companion is the target's factory, as far as the view knows it, if the
target is no array, the factory is not excluded by name and is not among the roots.  No binding
occurs twice among roots and companions. -/
theorem collect_clean (view : ProgramView σ) (settings : Settings) (state : σ) (cursor : Cursor)
    (typed : String) :
    let answer := collect view settings state cursor typed
    (answer.1 = none ↔
      typed = "new" ∨ view.namesNewType state cursor = true ∨ view.expected state cursor = none ∨
        ∃ target, view.expected state cursor = some target ∧
          settings.Unsearched (view.arena state) target) ∧
    ∀ origins, answer.1 = some origins →
      view.expected state cursor = some origins.target ∧
      ∃ shape found middle,
        (view.arena state).shape? origins.target = some shape ∧
        Resolves view state settings.staticRoots found middle ∧
        origins.roots =
          (kept settings (inReach view state cursor ++ found)).eraseDups ∧
        (∀ binding, binding ∈ origins.companions ↔
          ∃ product factory type, (product, factory) ∈ factories ∧
            shape.dims = 0 ∧ shape.name = product ∧
            view.lookup middle factory = (some type, answer.2) ∧
            binding = .ofStaticType ((view.arena answer.2).simpleName type) type ∧
            ¬ settings.PassesOver (view.arena answer.2) binding ∧ binding ∉ origins.roots) ∧
        (origins.roots ++ origins.companions).Nodup := by
  intro answer
  by_cases idle : Idle view settings state cursor typed
  · have nothing : answer = (none, state) := collect_of_idle idle
    rw [nothing]
    exact ⟨iff_of_true rfl idle, by rintro origins ⟨⟩⟩
  · obtain ⟨target, shape, expected, isShape, collected⟩ := collect_of_not_idle idle
    obtain ⟨found, middle, resolved, named⟩ :=
      staticRoots_resolves view settings state settings.staticRoots
    rw [forTarget_eq state cursor target named] at collected
    have isAnswer : answer = _ := collected
    rw [isAnswer]
    refine ⟨iff_of_false (by simp) idle, ?_⟩
    rintro origins ⟨⟩
    refine ⟨expected, shape, found, middle, isShape, resolved, distinct_eq_eraseDups _, ?_, ?_⟩
    · intro binding
      exact mem_companions_iff isShape
    · rw [List.nodup_append]
      refine ⟨nodup_distinct _, nodup_distinct _, ?_⟩
      rintro root isRoot companion isCompanion rfl
      simp only [mem_distinct, List.mem_filter, decide_eq_true_eq] at isCompanion
      exact isCompanion.2 (mem_distinct.1 isRoot)

/-- A local list, and the static members of texts. -/
def listSite : CursorSite :=
  { CursorSite.unknown with
    expected := some ⟨0⟩
    bindings := [⟨"names", ⟨0⟩, .localVariable, false⟩, .ofStaticType "String" ⟨1⟩,
      ⟨"names", ⟨0⟩, .localVariable, false⟩] }

/-- A program with lists, their factory and texts, and a cursor where a list is expected. -/
def listCatalog : Catalog :=
  let named := ["java.util.List", "java.lang.String", "java.util.Collections"].foldl
    (fun catalog name => catalog.declare name none [] []) Catalog.empty
  ((named.lookup "java.util.List").2.lookup "java.lang.String").2.register ⟨⟨0⟩, 0⟩ listSite

/-- The list is a root once, texts are passed over, and the factory of lists is a companion. -/
theorem collect_clean_list :
    (collect Catalog.view Settings.standard listCatalog ⟨⟨0⟩, 0⟩ "na").1 =
      some ⟨⟨0⟩, [⟨"names", ⟨0⟩, .localVariable, false⟩], [.ofStaticType "Collections" ⟨2⟩]⟩ ∧
    [⟨"names", ⟨0⟩, .localVariable, false⟩, Binding.ofStaticType "Collections" ⟨2⟩].Nodup := by
  have collected : (collect Catalog.view Settings.standard listCatalog ⟨⟨0⟩, 0⟩ "na").1 =
      some ⟨⟨0⟩, [⟨"names", ⟨0⟩, .localVariable, false⟩], [.ofStaticType "Collections" ⟨2⟩]⟩ := by
    decide
  obtain ⟨-, shape, found, middle, -, -, -, -, clean⟩ :=
    (collect_clean Catalog.view Settings.standard listCatalog ⟨⟨0⟩, 0⟩ "na").2 _ collected
  exact ⟨collected, clean⟩

end Origins

end ChainCompletion
