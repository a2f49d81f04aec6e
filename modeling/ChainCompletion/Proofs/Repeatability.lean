/-
# Proofs.Repeatability -- completion does not depend on what was asked before

Queries let the arena grow, change the numbers of types that come up later, and fill the
memory of a catalog.  None of this shows in what is proposed (`complete_repeatable`): each
query leads to a later state of the same catalog (`Continues.after`), and a completion in a
later state is that of the search on trees, whose origins and answers are those of the
first state (`complete_of_origins`).

The catalog is closed: all types that it mentions are known.  Queries must not break that
by storing a type with arguments that nobody has handed out (`Query.InScope`).  Where one
does, a number that is handed out later changes what the type is, and a remembered answer
about it may be wrong by then (`complete_not_repeatable`).
-/
import ChainCompletion.Proofs.CompletionReach
import ChainCompletion.Proofs.OriginTrees
import ChainCompletion.Proofs.ProposalTrees
import ChainCompletion.Proofs.Queries

namespace ChainCompletion

open Denotes Search

set_option autoImplicit false

/-! ## Completion in a later state -/

/-- What is searched for on behalf of a request, on trees. -/
def CompletionRequest.goalTree (request : CompletionRequest) (base : Catalog)
    (set : TreeOrigins) : TreeRequest where
  target := set.target
  roots := set.roots
  companions := set.companions
  callSite := (base.siteOf request.cursor).callSite
  typed := request.typed

section Later

variable {base later : Catalog} (continues : base.Continues later) (wellScoped : base.WellScoped)
  {settings : Settings} {signals : Signals} {request : CompletionRequest}

include continues wellScoped

theorem complete_of_no_origins
    (nothing : base.originsTree settings request.cursor request.typed = none) :
    (complete Catalog.view settings signals request later).1 = [] := by
  have collected := Catalog.collect_yields continues settings wellScoped request.cursor
    request.typed
  refine complete_of_not_collected ?_
  have same := collected.means
  rw [nothing] at same
  exact Option.map_eq_none_iff.1 same

/-- Undisturbed, a later state proposes the chains of the search on trees. -/
theorem complete_of_origins (enabled : settings.enabled = true) (valid : settings.fault? = none)
    (undisturbed : signals.Undisturbed settings.timeoutMs) {set : TreeOrigins}
    (origins : base.originsTree settings request.cursor request.typed = some set) :
    ∃ (arena : TypeArena) (chains : List Chain), arena.Ordered ∧
      arena.Means chains
        (runTree base (fun _ => none) settings.limits (request.goalTree base set)).1 ∧
      (complete Catalog.view settings signals request later).1 =
        settings.propose arena request.scope chains := by
  have collected := Catalog.collect_yields continues settings wellScoped request.cursor
    request.typed
  rw [origins] at collected
  generalize asked : Origins.collect Catalog.view settings later request.cursor request.typed =
    result at collected
  obtain ⟨set?, started⟩ := result
  obtain ⟨⟨-, -, known, means⟩, continues'⟩ := collected
  obtain ⟨set', rfl, sameSet⟩ := Option.map_eq_some_iff.1 means
  have knownSet : Known started.arena set' := known set' rfl
  have goal : meaning started.arena (request.goal Catalog.view started set') =
      request.goalTree base set := by
    rw [← sameSet]
    show TreeRequest.mk _ _ _ (started.siteOf request.cursor).callSite _ = _
    rw [continues'.siteOf_eq]
    rfl
  obtain ⟨final, chains, -⟩ := @run_means base settings.limits
    (request.goal Catalog.view started set') wellScoped signals started continues' knownSet
  rw [goal, show signals.interruption? settings.limits = fun _ => none from
    funext (@Signals.Undisturbed.interruption? signals settings.limits undisturbed)] at chains
  refine ⟨_, _, final.ordered, chains, ?_⟩
  rw [complete_eq_propose enabled valid undisturbed asked]
  rfl

end Later

/-! ## Queries in scope -/

/-- Whether a query passes known types only where they become arguments of types that are
stored.  Types that it asks about may be any. -/
def Query.InScope (catalog : Catalog) : Query → Prop
  | .store shape => Known catalog.arena shape.args
  | .instantiate _ args _ => Known catalog.arena args
  | _ => True

namespace Catalog

/-- Whether queries are in scope, each as the catalog stands when it is its turn. -/
def InScopeAll (catalog : Catalog) : List Query → Prop
  | [] => True
  | query :: queries => query.InScope catalog ∧ (catalog.after query).InScopeAll queries

/-- Whether all types that the catalog mentions in declarations, at cursors and as arguments
are known, arguments being older than what they are arguments of. -/
structure Closed (catalog : Catalog) : Prop where
  older : ∀ entry ∈ catalog.arena.shapes.values.zipIdx, ∀ arg ∈ entry.1.args, arg.index < entry.2
  decls : catalog.decls.KnownIn catalog.arena
  sites : ∀ entry ∈ catalog.sites, entry.2.KnownIn catalog.arena

theorem Closed.wellScoped {catalog : Catalog} (closed : catalog.Closed)
    (reachable : catalog.Reachable) : catalog.WellScoped where
  ordered := ⟨reachable.intact.distinct, closed.older⟩
  decls := closed.decls
  sites := closed.sites
  remembered := reachable.intact.remembered

section Later

variable {base later : Catalog} (wellScoped : base.WellScoped)

include wellScoped

theorem view_keepsAll_continues : view.KeepsAll base.Continues where
  toKeeps := view_keeps_continues wellScoped
  lookup _ name continues := continues.lookup name

/-- A query in scope leads to a later state. -/
theorem Continues.after (continues : base.Continues later) {query : Query}
    (inScope : query.InScope later) : base.Continues (later.after query) := by
  have keeps := view_keepsAll_continues wellScoped
  cases query with
  | store shape =>
      have stored := TypeArena.store_yields continues.ordered inScope
      exact continues.withArena stored.grows stored.ordered
  | addDims type dims =>
      by_cases known : later.arena.Knows type
      · have asked := TypeArena.addDims_yields continues.ordered known dims
        exact continues.withArena asked.grows asked.ordered
      · rw [Catalog.after, TypeArena.addDims, TypeArena.shape?_of_not_knows known]
        exact continues
  | component type => exact continues.component? type
  | element type =>
      by_cases known : later.arena.Knows type
      · have asked := TypeArena.elementType_yields continues.ordered known
        exact continues.withArena asked.grows asked.ordered
      · rw [Catalog.after, TypeArena.elementType, TypeArena.shape?_of_not_knows known]
        exact continues
  | instantiate params args type =>
      exact continues.withArena (TypeArena.instantiate_storesTo params args _ type).growsTo
        (TypeArena.instantiate_ordered continues.ordered inScope params type)
  | members type site => exact continues.members wellScoped type site
  | assignable source target => exact continues.assignable wellScoped source target
  | lookup name => exact continues.lookup name
  | collect settings cursor typed =>
      exact Origins.collect_keeps keeps settings cursor typed continues
  | search signals limits request => exact run_keeps keeps.toKeeps signals limits request continues
  | complete settings signals request =>
      exact complete_keeps keeps settings signals request continues

theorem Continues.afterAll (continues : base.Continues later) {queries : List Query}
    (inScope : later.InScopeAll queries) : base.Continues (later.afterAll queries) := by
  induction queries generalizing later with
  | nil => exact continues
  | cons query queries ih => exact ih (continues.after wellScoped inScope.1) inScope.2

end Later

end Catalog

/-! ## Repeatability -/

/-- **Completion does not depend on what was asked before.**  Take a reachable catalog that
is closed, and queries of any kind and number that are in scope.  Undisturbed, a request
under any settings is answered after them as it is without them. -/
theorem complete_repeatable {catalog : Catalog} (reachable : catalog.Reachable)
    (closed : catalog.Closed) (queries : List Query) (inScope : catalog.InScopeAll queries)
    (settings : Settings) (request : CompletionRequest) (signals signals' : Signals)
    (undisturbed : signals.Undisturbed settings.timeoutMs)
    (undisturbed' : signals'.Undisturbed settings.timeoutMs) :
    (complete Catalog.view settings signals' request (catalog.afterAll queries)).1 =
      (complete Catalog.view settings signals request catalog).1 := by
  have wellScoped := closed.wellScoped reachable
  have now : catalog.Continues catalog := Catalog.Continues.refl wellScoped.ordered
  have later := now.afterAll wellScoped inScope
  by_cases on : settings.enabled = true ∧ settings.fault? = none
  · obtain ⟨enabled, valid⟩ := on
    cases origins : catalog.originsTree settings request.cursor request.typed with
    | none =>
        rw [complete_of_no_origins later wellScoped origins,
          complete_of_no_origins now wellScoped origins]
    | some set =>
        obtain ⟨arena, chains, ordered, means, answered⟩ :=
          complete_of_origins now wellScoped enabled valid undisturbed origins
        obtain ⟨arena', chains', ordered', means', answered'⟩ :=
          complete_of_origins later wellScoped enabled valid undisturbed' origins
        rw [answered, answered']
        exact propose_of_alike ordered' ordered settings request.scope
          ⟨means'.known, means.known, means'.eq.trans means.eq.symm⟩
  · rw [complete_of_no_limits _ _ _ _ on, complete_of_no_limits _ _ _ _ on]

/-! ## A holder of goals

A holder has a goal for boxes of its parameter; a goal for any box is expected. -/

/-- Types: `T`, `Box<T>`, `Goal<Box<T>>`, `?`, `Box<?>`, `Goal<Box<?>>`, `String` and
`Holder<String>`. -/
def holderTypes : List Query :=
  [.store ⟨.typeVariable, "T", [], 0⟩, .store ⟨.classType, "Box", [⟨0⟩], 0⟩,
   .store ⟨.classType, "Goal", [⟨1⟩], 0⟩, .store ⟨.wildcard, "?", [], 0⟩,
   .store ⟨.classType, "Box", [⟨3⟩], 0⟩, .store ⟨.classType, "Goal", [⟨4⟩], 0⟩,
   .store ⟨.classType, "String", [], 0⟩, .store ⟨.classType, "Holder", [⟨6⟩], 0⟩]

def holderSite : CursorSite :=
  { CursorSite.unknown with
    expected := some ⟨5⟩
    bindings := [⟨"holder", ⟨7⟩, .localVariable, false⟩] }

def holderCatalog : Catalog :=
  ((Catalog.empty.afterAll holderTypes).declare "Holder" (some [⟨0⟩]) []
    [⟨"goal", .field, [], ⟨2⟩, false, .everywhere⟩]).register ⟨⟨0⟩, 0⟩ holderSite

def holderCompletion : CompletionRequest := ⟨⟨⟨0⟩, 0⟩, "", ImportScope.empty⟩

theorem holderCatalog_reachable : holderCatalog.Reachable :=
  ((Catalog.Reachable.empty.afterAll holderTypes).declare _ _ _ _).register _ _

theorem holderCatalog_closed : holderCatalog.Closed := by
  have size : holderCatalog.arena.size = 8 := by decide
  have knows : ∀ number < 8, holderCatalog.arena.Knows ⟨number⟩ := fun number small => by
    rwa [TypeArena.Knows, size]
  refine ⟨by decide, ?_, ?_⟩
  · intro entry isThere
    obtain rfl : entry = ("Holder", ⟨[⟨0⟩], [], [⟨"goal", .field, [], ⟨2⟩, false, .everywhere⟩]⟩) :=
      List.mem_singleton.1 isThere
    refine ⟨known_singleton.2 (knows 0 (by decide)), known_nil, ?_⟩
    intro member isMember
    rw [List.mem_singleton.1 isMember]
    exact ⟨known_nil, knows 2 (by decide)⟩
  · intro entry isThere
    obtain rfl : entry = (⟨⟨0⟩, 0⟩, holderSite) := List.mem_singleton.1 isThere
    refine ⟨?_, known_singleton.2 (knows 7 (by decide))⟩
    rintro type ⟨⟩
    exact knows 5 (by decide)

theorem quiet_undisturbed : Signals.quiet.Undisturbed Settings.standard.timeoutMs :=
  ⟨rfl, fun _ => show 0 < 3000 by decide⟩

/-- A goal for strings comes up and is remembered not to fit; the goal of the holder is
proposed as before. -/
theorem complete_repeatable_holder :
    holderCatalog.Reachable ∧ holderCatalog.Closed ∧
    holderCatalog.InScopeAll
      [.store ⟨.classType, "Goal", [⟨6⟩], 0⟩, .assignable ⟨8⟩ ⟨5⟩] ∧
    (complete Catalog.view Settings.standard Signals.quiet holderCompletion holderCatalog).1.map
      (·.texts.insertText) = ["holder.goal"] ∧
    (complete Catalog.view Settings.standard Signals.quiet holderCompletion
      (holderCatalog.afterAll
        [.store ⟨.classType, "Goal", [⟨6⟩], 0⟩, .assignable ⟨8⟩ ⟨5⟩])).1 =
      (complete Catalog.view Settings.standard Signals.quiet holderCompletion holderCatalog).1 := by
  have inScope : holderCatalog.InScopeAll
      [.store ⟨.classType, "Goal", [⟨6⟩], 0⟩, .assignable ⟨8⟩ ⟨5⟩] :=
    ⟨known_singleton.2 (show 6 < holderCatalog.arena.size by decide), trivial, trivial⟩
  exact ⟨holderCatalog_reachable, holderCatalog_closed, inScope, by decide,
    complete_repeatable holderCatalog_reachable holderCatalog_closed _ inScope Settings.standard
      holderCompletion Signals.quiet Signals.quiet quiet_undisturbed quiet_undisturbed⟩

/-- A goal for type 9 comes up before type 9, and is remembered not to fit.  While the holder
is looked at, `Box<String>` becomes type 9 and the goal the type of its field: nothing is
proposed any more. -/
theorem complete_not_repeatable :
    holderCatalog.Reachable ∧ holderCatalog.Closed ∧
    Signals.quiet.Undisturbed Settings.standard.timeoutMs ∧
    (complete Catalog.view Settings.standard Signals.quiet holderCompletion
      (holderCatalog.afterAll
        [.store ⟨.classType, "Goal", [⟨9⟩], 0⟩, .assignable ⟨8⟩ ⟨5⟩])).1 ≠
      (complete Catalog.view Settings.standard Signals.quiet holderCompletion holderCatalog).1 :=
  ⟨holderCatalog_reachable, holderCatalog_closed, quiet_undisturbed, by decide⟩

end ChainCompletion
