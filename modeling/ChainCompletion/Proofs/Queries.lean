/-
# Proofs.Queries -- what a catalog goes through

A catalog starts empty.  It is told things (types are declared, names marked, cursors
registered), and in between it is asked things, which declare nothing (`Query`) but may
store types and fill its memory.  `Catalog.Reachable` are the catalogs that come about so,
whatever the numbers that were passed in.

What every question of a view keeps, a search, a collection of roots and a completion keep
(`run_keeps`, `collect_keeps`, `complete_keeps`).  A catalog that is asked only ever stores types
and remembers answers that it has found out (`view_keepsAll_of`, `after_keeps`).  So every
reachable catalog is intact (`Reachable.intact`): no shape is stored twice, and what is remembered
is about known types.
-/
import ChainCompletion.Completion
import ChainCompletion.Proofs.Denotation
import ChainCompletion.Proofs.SearchSteps
import ChainCompletion.Proofs.Storing

namespace ChainCompletion

open Denotes Text

set_option autoImplicit false

variable {σ : Type}

/-! ## What questions keep -/

/-- Whether all questions of a view keep a property of its states. -/
structure ProgramView.KeepsAll (view : ProgramView σ) (keep : σ → Prop) : Prop
    extends view.Keeps keep where
  lookup : ∀ state name, keep state → keep (view.lookup state name).2

section Search

variable {view : ProgramView σ} {keep : σ → Prop} (keeps : view.Keeps keep)

include keeps

theorem Search.runRounds_keeps (signals : Signals) (limits : Limits) (request : Request)
    (rounds : Nat) (progress : Progress σ) (nodes : List Node) (start : keep progress.state) :
    keep (runRounds view signals limits request rounds progress nodes).1.state := by
  refine @runRounds_invariant _ view signals limits request (fun progress => keep progress.state)
    ?_ (fun _ kept => kept) rounds nodes progress start
  intro node before kept
  exact (visitNode_step view signals limits request before node).keeps keeps kept

/-- What every question keeps, a search keeps. -/
theorem Search.run_keeps (signals : Signals) (limits : Limits) (request : Request) {state : σ}
    (start : keep state) : keep (run view signals limits request state).2 :=
  runRounds_keeps keeps signals limits request limits.rounds
    ⟨state, #[], #[], (request.firstNodes limits).length, 0, 0, 0⟩ (request.firstNodes limits) start

end Search

section Completion

variable {view : ProgramView σ} {keep : σ → Prop} (keeps : view.KeepsAll keep)

include keeps

theorem Origins.staticRoots_keeps (settings : Settings) (names : List String) {state : σ}
    (start : keep state) : keep (staticRoots view settings state names).2 := by
  have each : ∀ name ∈ names, ∀ state, keep state →
      keep (staticRoot view settings state name).2 := by
    intro name _ state kept
    have asks := keeps.lookup state name kept
    rw [staticRoot]
    split <;> next asked => rwa [asked] at asks
  exact threadMap_keeps each start

/-- What every question keeps, collecting the roots keeps. -/
theorem Origins.collect_keeps (settings : Settings) (cursor : Cursor) (typed : String) {state : σ}
    (start : keep state) : keep (collect view settings state cursor typed).2 := by
  rw [collect]
  split
  · exact start
  · split
    · exact start
    · simp only
      split
      · exact start
      · exact staticRoots_keeps keeps _ _ (staticRoots_keeps keeps _ _ start)

/-- What every question keeps, a completion keeps. -/
theorem complete_keeps (settings : Settings) (signals : Search.Signals)
    (request : CompletionRequest) {state : σ} (start : keep state) :
    keep (complete view settings signals request state).2 := by
  have collected := Origins.collect_keeps keeps settings request.cursor request.typed start
  rw [complete]
  split
  · split
    · exact start
    · next limits _ =>
        split
        · next nothing => rwa [nothing] at collected
        · next found =>
            rw [found] at collected
            rw [completeFrom]
            simp only
            split <;> exact Search.run_keeps keeps.toKeeps signals limits _ collected
  · exact start

end Completion

/-! ## Queries -/

/-- What a catalog can be asked for without declaring anything. -/
inductive Query where
  | store (shape : TypeShape)
  | addDims (type : TypeId) (dims : Nat)
  | component (type : TypeId)
  | element (type : TypeId)
  | instantiate (params args : List TypeId) (type : TypeId)
  | members (type : TypeId) (site : CallSite)
  | assignable (source target : TypeId)
  | lookup (name : String)
  | collect (settings : Settings) (cursor : Cursor) (typed : String)
  | search (signals : Search.Signals) (limits : Search.Limits) (request : Search.Request)
  | complete (settings : Settings) (signals : Search.Signals) (request : CompletionRequest)

namespace Catalog

/-- The catalog once a query has been answered. -/
def after (catalog : Catalog) : Query → Catalog
  | .store shape => { catalog with arena := (catalog.arena.store shape).2 }
  | .addDims type dims => { catalog with arena := (catalog.arena.addDims type dims).2 }
  | .component type => { catalog with arena := (catalog.arena.component? type).2 }
  | .element type => { catalog with arena := (catalog.arena.elementType type).2 }
  | .instantiate params args type =>
      { catalog with arena := (catalog.arena.instantiate params args type).2 }
  | .members type site => (catalog.members type site).2
  | .assignable source target => (catalog.assignable source target).2
  | .lookup name => (catalog.lookup name).2
  | .collect settings cursor typed => (Origins.collect view settings catalog cursor typed).2
  | .search signals limits request => (Search.run view signals limits request catalog).2
  | .complete settings signals request =>
      (ChainCompletion.complete view settings signals request catalog).2

/-- The catalog once queries have been answered, one after the other. -/
def afterAll (catalog : Catalog) (queries : List Query) : Catalog :=
  queries.foldl after catalog

/-- The catalogs that come about by being told and asked things. -/
inductive Reachable : Catalog → Prop
  | empty : Reachable .empty
  | declare {catalog : Catalog} (earlier : Reachable catalog) (name : String)
      (params : Option (List TypeId)) (supertypes : List TypeId) (members : List MemberDecl) :
      Reachable (catalog.declare name params supertypes members)
  | withUnresolved {catalog : Catalog} (earlier : Reachable catalog) (name : String) :
      Reachable (catalog.withUnresolved name)
  | register {catalog : Catalog} (earlier : Reachable catalog) (cursor : Cursor)
      (site : CursorSite) : Reachable (catalog.register cursor site)
  | after {catalog : Catalog} (earlier : Reachable catalog) (query : Query) :
      Reachable (catalog.after query)

theorem Reachable.afterAll {catalog : Catalog} (reachable : catalog.Reachable)
    (queries : List Query) : (catalog.afterAll queries).Reachable := by
  induction queries generalizing catalog with
  | nil => exact reachable
  | cons query queries ih => exact ih (reachable.after query)

/-- Asked whether a type fits, a catalog sees that it is the type itself, has the answer in
memory, fails, or finds the answer out and remembers it. -/
theorem assignable_cases (catalog : Catalog) (source target : TypeId) :
    (source = target ∧ catalog.assignable source target = (.ok true, catalog)) ∨
    (∃ answer, ((source, target), answer) ∈ catalog.known ∧
      catalog.assignable source target = (.ok answer, catalog)) ∨
    (∃ error, catalog.assignable source target =
      (.error error,
        { catalog with arena := (catalog.decls.accepts catalog.arena source target).2 })) ∨
    ∃ answer, (catalog.decls.accepts catalog.arena source target).1 = .ok answer ∧
      catalog.assignable source target =
        (.ok answer,
          { catalog with
            arena := (catalog.decls.accepts catalog.arena source target).2
            known := ((source, target), answer) :: catalog.known }) := by
  rw [assignable]
  split
  · next same => exact Or.inl ⟨same, rfl⟩
  · split
    · next answer remembered => exact Or.inr (Or.inl ⟨answer, mem_of_lookup remembered, rfl⟩)
    · split
      · next error arena asked =>
          rw [asked]
          exact Or.inr (Or.inr (Or.inl ⟨error, rfl⟩))
      · next answer arena asked =>
          rw [asked]
          exact Or.inr (Or.inr (Or.inr ⟨answer, rfl, rfl⟩))

/-- What storing types keeps, and remembering an answer that was found out, every question
keeps. -/
theorem view_keepsAll_of {keep : Catalog → Prop}
    (storing : ∀ (catalog : Catalog) (arena : TypeArena), catalog.arena.StoresTo arena →
      keep catalog → keep { catalog with arena := arena })
    (learning : ∀ (catalog : Catalog) (source target : TypeId) (answer : Bool),
      (catalog.decls.accepts catalog.arena source target).1 = .ok answer → keep catalog →
      keep { catalog with known := ((source, target), answer) :: catalog.known }) :
    view.KeepsAll keep where
  members catalog type site kept :=
    storing _ _ (catalog.decls.members_storesTo catalog.arena type site) kept
  assignable catalog source target kept := by
    have stores := catalog.decls.accepts_storesTo catalog.arena source target
    show keep (catalog.assignable source target).2
    obtain ⟨-, asked⟩ | ⟨answer, -, asked⟩ | ⟨error, asked⟩ | ⟨answer, found, asked⟩ :=
      catalog.assignable_cases source target
    · rwa [asked]
    · rwa [asked]
    · rw [asked]
      exact storing _ _ stores kept
    · rw [asked]
      exact storing { catalog with known := ((source, target), answer) :: catalog.known } _ stores
        (learning catalog source target answer found kept)
  lookup catalog name kept := by
    show keep (catalog.lookup name).2
    rw [lookup]
    split
    · exact kept
    · exact storing _ _ (TypeArena.store_storesTo _ _) kept
  component catalog type kept := storing _ _ (TypeArena.component?_storesTo _ type) kept

/-- What storing types keeps and every question keeps, a query keeps. -/
theorem after_keeps {keep : Catalog → Prop} (keeps : view.KeepsAll keep)
    (storing : ∀ (catalog : Catalog) (arena : TypeArena), catalog.arena.StoresTo arena →
      keep catalog → keep { catalog with arena := arena })
    (query : Query) {catalog : Catalog} (start : keep catalog) : keep (catalog.after query) := by
  cases query with
  | store shape => exact storing _ _ (TypeArena.store_storesTo _ shape) start
  | addDims type dims => exact storing _ _ (TypeArena.addDims_storesTo _ type dims) start
  | component type => exact storing _ _ (TypeArena.component?_storesTo _ type) start
  | element type => exact storing _ _ (TypeArena.elementType_storesTo _ type) start
  | instantiate params args type =>
      exact storing _ _ (TypeArena.instantiate_storesTo params args _ type) start
  | members type site => exact keeps.members catalog type site start
  | assignable source target => exact keeps.assignable catalog source target start
  | lookup name => exact keeps.lookup catalog name start
  | collect settings cursor typed =>
      exact Origins.collect_keeps keeps settings cursor typed start
  | search signals limits request =>
      exact Search.run_keeps keeps.toKeeps signals limits request start
  | complete settings signals request =>
      exact complete_keeps keeps settings signals request start

/-! ## Intact catalogs -/

/-- Whether no shape is stored twice, and what is remembered is about known types. -/
structure Intact (catalog : Catalog) : Prop where
  distinct : catalog.arena.shapes.values.Nodup
  remembered : Known catalog.arena catalog.known

namespace Intact

variable {catalog : Catalog}

theorem withArena (intact : catalog.Intact) {arena : TypeArena}
    (stores : catalog.arena.StoresTo arena) : Intact { catalog with arena := arena } :=
  ⟨stores.nodup intact.distinct, known_of_growsTo stores.growsTo intact.remembered⟩

/-- Only answers about known types are remembered. -/
theorem learn (intact : catalog.Intact) {source target : TypeId} {answer : Bool}
    (found : (catalog.decls.accepts catalog.arena source target).1 = .ok answer) :
    Intact { catalog with known := ((source, target), answer) :: catalog.known } := by
  obtain ⟨knowsSource, knowsTarget⟩ := catalog.decls.knows_of_accepts found
  exact ⟨intact.distinct,
    known_cons.2 ⟨⟨⟨knowsSource, knowsTarget⟩, trivial⟩, intact.remembered⟩⟩

end Intact

theorem view_keepsAll_intact : view.KeepsAll Intact :=
  view_keepsAll_of (fun _ _ stores intact => intact.withArena stores)
    (fun _ _ _ _ found intact => intact.learn found)

theorem Intact.after {catalog : Catalog} (intact : catalog.Intact) (query : Query) :
    (catalog.after query).Intact :=
  after_keeps view_keepsAll_intact (fun _ _ stores intact => intact.withArena stores) query intact

/-- Whatever a catalog is told and asked, it stays intact. -/
theorem Reachable.intact {catalog : Catalog} (reachable : catalog.Reachable) : catalog.Intact := by
  induction reachable with
  | empty => exact ⟨List.nodup_nil, known_nil⟩
  | declare _ name params supertypes members ih => exact ⟨ih.distinct, known_nil⟩
  | withUnresolved _ name ih => exact ⟨ih.distinct, known_nil⟩
  | register _ cursor site ih => exact ⟨ih.distinct, ih.remembered⟩
  | after _ query ih => exact ih.after query

end Catalog

end ChainCompletion
