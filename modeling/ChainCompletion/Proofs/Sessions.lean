/-
# Proofs.Sessions -- what a catalog remembers is what it would find out

In a session a catalog starts empty and is told and asked things in any order, always
with types that are known by then (`Catalog.Session`): types are declared and declared
again, names marked, cursors registered, and queries of all kinds asked in between.

Everything that a catalog remembers has been found out since it was last told something
about types, when it forgot all that it had remembered (`Catalog.Informed`).  Since then the
arena has grown, but what is above a type and which arguments it has are the same on
trees.  So a remembered answer is the one that would be found out now, and whoever asks
cannot tell whether it was remembered (`assignable_eq_found`).
-/
import ChainCompletion.Proofs.Repeatability

namespace ChainCompletion

open Denotes Text

set_option autoImplicit false

/-! ## Known types stay known -/

section Known

variable {before after : TypeArena} (grows : before.GrowsTo after)

include grows

theorem ClassDecl.KnownIn.of_growsTo {decl : ClassDecl} (known : decl.KnownIn before) :
    decl.KnownIn after where
  params := known_of_growsTo grows known.params
  supertypes := known_of_growsTo grows known.supertypes
  members member isMember :=
    ⟨known_of_growsTo grows (known.members member isMember).1,
      grows.knows (known.members member isMember).2⟩

theorem CursorSite.KnownIn.of_growsTo {site : CursorSite} (known : site.KnownIn before) :
    site.KnownIn after where
  expected := known_of_growsTo grows known.expected
  bindings := known_of_growsTo grows known.bindings

end Known

/-- An answer that mentions no type means itself. -/
theorem meaning_answer (arena : TypeArena) (answer : Except LookupError Bool) :
    meaning arena answer = answer := by
  cases answer <;> rfl

/-- A declaration stays known when known types are added to it. -/
theorem ClassDecl.KnownIn.amend {decl : ClassDecl} {arena : TypeArena} (known : decl.KnownIn arena)
    {params : Option (List TypeId)} {supertypes : List TypeId} {members : List MemberDecl}
    (added : (ClassDecl.mk (params.getD []) supertypes members).KnownIn arena) :
    (ClassDecl.mk (params.getD decl.params) (decl.supertypes ++ supertypes)
      (decl.members ++ members)).KnownIn arena := by
  refine ⟨?_, known_append.2 ⟨known.supertypes, added.supertypes⟩, ?_⟩
  · cases params with
    | none => exact known.params
    | some params => exact added.params
  · intro member isMember
    rcases List.mem_append.1 isMember with isOld | isNew
    · exact known.members member isOld
    · exact added.members member isNew

theorem Declarations.KnownIn.amendIn {arena : TypeArena} {name : String}
    {change : ClassDecl → ClassDecl}
    (keeps : ∀ decl : ClassDecl, decl.KnownIn arena → (change decl).KnownIn arena)
    {entries : List (String × ClassDecl)} (known : ∀ entry ∈ entries, entry.2.KnownIn arena) :
    ∀ entry ∈ amendIn name change entries, entry.2.KnownIn arena := by
  induction entries with
  | nil =>
      have blank : ClassDecl.blank.KnownIn arena :=
        ⟨known_nil, known_nil, fun member isMember => by cases isMember⟩
      intro entry isThere
      rw [List.mem_singleton.1 isThere]
      exact keeps _ blank
  | cons head entries ih =>
      obtain ⟨first, rest⟩ := List.forall_mem_cons.1 known
      obtain ⟨other, decl⟩ := head
      rw [Declarations.amendIn]
      split
      · exact List.forall_mem_cons.2 ⟨keeps decl first, rest⟩
      · exact List.forall_mem_cons.2 ⟨first, ih rest⟩

theorem Declarations.KnownIn.declare {decls : Declarations} {arena : TypeArena}
    (known : decls.KnownIn arena) (name : String) {params : Option (List TypeId)}
    {supertypes : List TypeId} {members : List MemberDecl}
    (added : (ClassDecl.mk (params.getD []) supertypes members).KnownIn arena) :
    (decls.declare name params supertypes members).KnownIn arena :=
  KnownIn.amendIn (fun _ knownDecl => knownDecl.amend added) known

namespace Catalog

/-! ## Sessions -/

/-- The catalogs that come about by being told and asked things, with types that are known
at the time.  Types that are only asked about may be any. -/
inductive Session : Catalog → Prop
  | start : Session .empty
  | declare {catalog : Catalog} (earlier : Session catalog) (name : String)
      (params : Option (List TypeId)) (supertypes : List TypeId) (members : List MemberDecl)
      (known : (ClassDecl.mk (params.getD []) supertypes members).KnownIn catalog.arena) :
      Session (catalog.declare name params supertypes members)
  | withUnresolved {catalog : Catalog} (earlier : Session catalog) (name : String) :
      Session (catalog.withUnresolved name)
  | register {catalog : Catalog} (earlier : Session catalog) (cursor : Cursor) (site : CursorSite)
      (known : site.KnownIn catalog.arena) : Session (catalog.register cursor site)
  | after {catalog : Catalog} (earlier : Session catalog) (query : Query)
      (inScope : query.InScope catalog) : Session (catalog.after query)

/-- The catalog with nothing remembered. -/
def forgetful (catalog : Catalog) : Catalog :=
  { catalog with known := [] }

/-- Whether all types that a catalog mentions are known, and what it remembers can be found
out from the rest of it. -/
structure Informed (catalog : Catalog) : Prop where
  wellScoped : catalog.forgetful.WellScoped
  continues : catalog.forgetful.Continues catalog

theorem WellScoped.informed {catalog : Catalog} (wellScoped : catalog.WellScoped)
    (blank : catalog.known = []) : catalog.Informed := by
  obtain ⟨arena, decls, sites, known⟩ := catalog
  obtain rfl : known = [] := blank
  exact ⟨wellScoped, Continues.refl wellScoped.ordered⟩

section Later

variable {base later : Catalog} (continues : base.Continues later) (wellScoped : base.WellScoped)
  (blank : base.known = [])

include continues wellScoped

/-- A later state that has forgotten everything mentions known types only. -/
theorem Continues.forgetful_wellScoped : later.forgetful.WellScoped where
  ordered := continues.ordered
  decls := by
    show later.decls.KnownIn later.arena
    rw [continues.decls_eq]
    exact fun entry isThere => (wellScoped.decls entry isThere).of_growsTo continues.grows
  sites := by
    show ∀ entry ∈ later.sites, entry.2.KnownIn later.arena
    rw [continues.sites_eq]
    exact fun entry isThere => (wellScoped.sites entry isThere).of_growsTo continues.grows
  remembered := known_nil

/-- What can be found out does not change while the arena grows. -/
theorem Continues.acceptsTree_eq {source target : TypeId} (knownSource : later.arena.Knows source)
    (knownTarget : later.arena.Knows target) :
    base.decls.acceptsTree base.arena (later.arena.tree source) (later.arena.tree target) =
      later.decls.acceptsTree later.arena (later.arena.tree source) (later.arena.tree target) := by
  have early := Declarations.accepts_yields wellScoped.decls continues.grows continues.ordered
    knownSource knownTarget
  have late := Declarations.accepts_yields (continues.forgetful_wellScoped wellScoped).decls
    (TypeArena.GrowsTo.refl _) continues.ordered knownSource knownTarget
  rw [← continues.decls_eq] at early ⊢
  exact early.means.symm.trans late.means

include blank

/-- What was learned since nothing was remembered can be found out. -/
theorem Continues.informed : later.Informed := by
  refine ⟨continues.forgetful_wellScoped wellScoped, rfl, rfl, TypeArena.GrowsTo.refl _,
    continues.ordered, later.known, (List.append_nil _).symm, ?_⟩
  obtain ⟨new, split, right⟩ := continues.learned
  rw [split, blank, List.append_nil]
  rintro ⟨⟨source, target⟩, answer⟩ isNew
  obtain ⟨known, found⟩ := right _ isNew
  obtain ⟨⟨knownSource, knownTarget⟩, -⟩ := known
  refine ⟨⟨⟨knownSource, knownTarget⟩, trivial⟩, ?_⟩
  rw [assignableTree, blank] at found
  rw [assignableTree]
  split
  · next same => rwa [if_pos same] at found
  · next differ =>
      rw [if_neg differ] at found
      exact (continues.acceptsTree_eq wellScoped knownSource knownTarget).symm.trans found

end Later

namespace Informed

variable {catalog : Catalog} (informed : catalog.Informed)

include informed

theorem declare (name : String) {params : Option (List TypeId)} {supertypes : List TypeId}
    {members : List MemberDecl}
    (known : (ClassDecl.mk (params.getD []) supertypes members).KnownIn catalog.arena) :
    (catalog.declare name params supertypes members).Informed := by
  have before := informed.wellScoped
  have declared : (catalog.declare name params supertypes members).WellScoped :=
    ⟨before.ordered, before.decls.declare name known, before.sites, known_nil⟩
  exact declared.informed rfl

theorem withUnresolved (name : String) : (catalog.withUnresolved name).Informed := by
  have before := informed.wellScoped
  have marked : (catalog.withUnresolved name).WellScoped :=
    ⟨before.ordered, before.decls, before.sites, known_nil⟩
  exact marked.informed rfl

/-- No answer depends on what is known at cursors. -/
theorem register (cursor : Cursor) {site : CursorSite} (known : site.KnownIn catalog.arena) :
    (catalog.register cursor site).Informed := by
  obtain ⟨before, continues⟩ := informed
  have sites : ∀ entry ∈ (catalog.register cursor site).sites, entry.2.KnownIn catalog.arena :=
    List.forall_mem_cons.2 ⟨known, before.sites⟩
  exact ⟨⟨before.ordered, before.decls, sites, known_nil⟩,
    ⟨rfl, rfl, continues.grows, continues.ordered, continues.learned⟩⟩

theorem after {query : Query} (inScope : query.InScope catalog) :
    (catalog.after query).Informed :=
  (informed.continues.after informed.wellScoped inScope).informed informed.wellScoped rfl

/-- Whether an answer is remembered or found out, it is the same. -/
theorem assignable_eq (source target : TypeId) :
    (catalog.assignable source target).1 =
      if source = target then .ok true
      else (catalog.decls.accepts catalog.arena source target).1 := by
  obtain ⟨wellScoped, continues⟩ := informed
  rw [assignable]
  split
  · rfl
  · next differ =>
      cases remembered : catalog.known.lookup (source, target) with
      | none =>
          simp only
          split <;> next found => rw [found]
      | some answer =>
          obtain ⟨new, split, right⟩ := continues.learned
          have isNew : ((source, target), answer) ∈ new := by
            have isThere := mem_of_lookup remembered
            rwa [split, show catalog.forgetful.known = [] from rfl, List.append_nil] at isThere
          obtain ⟨⟨⟨knownSource, knownTarget⟩, -⟩, -⟩ := right _ isNew
          have hit := continues.assignableTree_of_lookup wellScoped differ knownSource knownTarget
            remembered
          have miss := (Continues.refl wellScoped.ordered).assignableTree_of_not_found wellScoped
            differ knownSource knownTarget rfl
          have found := (Declarations.accepts_yields wellScoped.decls (TypeArena.GrowsTo.refl _)
            wellScoped.ordered knownSource knownTarget).means
          rw [meaning_answer] at found
          exact (hit.symm.trans miss).trans found.symm

end Informed

/-- All catalogs of a session are informed. -/
theorem Session.informed {catalog : Catalog} (session : catalog.Session) : catalog.Informed := by
  induction session with
  | start =>
      have wellScoped : Catalog.empty.WellScoped := by
        refine ⟨⟨List.nodup_nil, ?_⟩, ?_, ?_, known_nil⟩
        · intro entry isThere
          cases isThere
        · intro entry isThere
          cases isThere
        · intro entry isThere
          cases isThere
      exact wellScoped.informed rfl
  | declare _ name params supertypes members known ih => exact ih.declare name known
  | withUnresolved _ name ih => exact ih.withUnresolved name
  | register _ cursor site known ih => exact ih.register cursor known
  | after _ query inScope ih => exact ih.after inScope

/-- **Nobody can tell that answers are remembered.**  Whatever a catalog has been told and
asked in a session, it answers a question of assignability as it would with nothing
remembered: that a type fits itself, and otherwise what its declarations say as they stand,
be it an answer or a failure. -/
theorem assignable_eq_found {catalog : Catalog} (session : catalog.Session)
    (source target : TypeId) :
    (catalog.assignable source target).1 = (catalog.forgetful.assignable source target).1 ∧
      (catalog.assignable source target).1 =
        if source = target then .ok true
        else (catalog.decls.accepts catalog.arena source target).1 := by
  have informed := session.informed
  have blank : catalog.forgetful.Informed := informed.wellScoped.informed rfl
  have answered := informed.assignable_eq source target
  exact ⟨answered.trans (blank.assignable_eq source target).symm, answered⟩

/-! ## A part that becomes a goal -/

/-- Types: `Part` and `Goal`.  A part is found not to be a goal, is then declared to be one,
and is found to be one. -/
def partCatalog : Catalog :=
  ((((Catalog.empty.after (.store ⟨.classType, "Part", [], 0⟩)).after
    (.store ⟨.classType, "Goal", [], 0⟩)).after (.assignable ⟨0⟩ ⟨1⟩)).declare
      "Part" none [⟨1⟩] []).after (.assignable ⟨0⟩ ⟨1⟩)

theorem partCatalog_session : partCatalog.Session := by
  have types := (Session.start.after (.store ⟨.classType, "Part", [], 0⟩) known_nil).after
    (.store ⟨.classType, "Goal", [], 0⟩) known_nil
  have asked := types.after (.assignable ⟨0⟩ ⟨1⟩) trivial
  refine (asked.declare "Part" none [⟨1⟩] [] ⟨known_nil, ?_, ?_⟩).after (.assignable ⟨0⟩ ⟨1⟩) trivial
  · exact known_singleton.2 (show 1 < TypeArena.size _ by decide)
  · intro member isMember
    cases isMember

/-- The old answer is forgotten and the new one remembered. -/
theorem assignable_eq_found_part :
    partCatalog.Session ∧ partCatalog.known = [((⟨0⟩, ⟨1⟩), true)] ∧
    (partCatalog.assignable ⟨0⟩ ⟨1⟩).1 = (partCatalog.forgetful.assignable ⟨0⟩ ⟨1⟩).1 ∧
    (partCatalog.assignable ⟨0⟩ ⟨1⟩).1 =
      (partCatalog.decls.accepts partCatalog.arena ⟨0⟩ ⟨1⟩).1 :=
  ⟨partCatalog_session, by decide, assignable_eq_found partCatalog_session ⟨0⟩ ⟨1⟩⟩

end Catalog

end ChainCompletion
