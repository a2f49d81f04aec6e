/-
# Proofs.MemberHiding -- which types hide the members of which

A member is to be hidden by a member of a type below its own (`HiddenFromBelow`).  The listing
goes by places in the lineage: a member is missing exactly if a type further ahead declares its
signature (`mem_unhidden_iff`).  The lineage puts near types ahead of far ones, and with several
supertypes to a declaration a type that is further ahead need not be below, nor even related.

* `members_missing_iff`: what is missing, by place; without cycles, everything that is missing
  is hidden from below exactly if the first type to declare a signature is below all others
  that declare it; and this is so where every declaration has one supertype at most;
* `members_miss_override`: a class that lists an interface again which its other supertype
  extends has the method of that interface and misses the one that overrides it.
-/
import ChainCompletion.Proofs.LineageLevels
import ChainCompletion.Proofs.MemberListing
import Mathlib.Data.Fintype.Card
import Mathlib.Data.Fintype.EquivFin
import Mathlib.Logic.Relation

namespace ChainCompletion

open Denotes

set_option autoImplicit false

/-! ## By place -/

/-- A member is listed exactly if no type ahead of its own declares its signature. -/
theorem mem_unhidden_iff {declared : TypeId → List Member}
    (owned : ∀ type, ∀ member ∈ declared type, member.owner = type)
    {types early late : List TypeId} {owner : TypeId} (distinct : types.Nodup)
    (split : types = early ++ owner :: late) {member : Member} (isDeclared : member ∈ declared owner) :
    member ∈ unhidden declared types ↔
      ∀ earlier ∈ early, ¬Declares declared earlier member.signature := by
  subst split
  have ahead : (early ++ owner :: late).take early.length = early := List.take_left
  have bound : early.length < (early ++ owner :: late).length := by simp
  have atPlace : (early ++ owner :: late)[early.length] = owner := by simp
  rw [unhidden, List.mem_flatten]
  constructor
  · rintro ⟨shown, isShown, isMember⟩
    obtain ⟨place, bound', rfl⟩ := List.mem_mapIdx.1 isShown
    obtain ⟨isDeclared', notAhead⟩ := List.mem_filter.1 isMember
    -- the owner tells the place
    have same : (early ++ owner :: late)[place] = (early ++ owner :: late)[early.length] := by
      rw [atPlace]
      exact (owned _ _ isDeclared').symm.trans (owned _ _ isDeclared)
    obtain rfl := (List.Nodup.getElem_inj_iff distinct).1 same
    rw [ahead] at notAhead
    exact of_decide_eq_true notAhead
  · intro notAhead
    refine ⟨_, List.mem_mapIdx.2 ⟨early.length, bound, rfl⟩, ?_⟩
    rw [ahead, atPlace]
    exact List.mem_filter.2 ⟨isDeclared, decide_eq_true notAhead⟩

/-! ## From below -/

section Below

variable (below : TypeId → TypeId → Prop) (declared : TypeId → List Member) (types : List TypeId)

/-- Whether every member of the types that is not listed is hidden by a type below its own. -/
def HiddenFromBelow (listed : List Member) : Prop :=
  ∀ owner ∈ types, ∀ member ∈ declared owner, member ∉ listed →
    ∃ other ∈ types, other ≠ owner ∧ below other owner ∧ Declares declared other member.signature

/-- Whether the first of the types to declare a signature is below all others that declare it. -/
def FirstIsLowest : Prop :=
  ∀ early first late, types = early ++ first :: late →
    ∀ signature, Declares declared first signature →
      (∀ earlier ∈ early, ¬Declares declared earlier signature) →
      ∀ other ∈ late, Declares declared other signature → below first other

end Below

section Below

variable {below : TypeId → TypeId → Prop} {declared : TypeId → List Member} {types : List TypeId}
  (owned : ∀ type, ∀ member ∈ declared type, member.owner = type) (distinct : types.Nodup)

/-- Of the types that declare a signature there is a first. -/
theorem exists_first_declaring {signature : Signature} {early : List TypeId}
    (declares : ∃ earlier ∈ early, Declares declared earlier signature) :
    ∃ before first after, early = before ++ first :: after ∧ Declares declared first signature ∧
      ∀ earlier ∈ before, ¬Declares declared earlier signature := by
  induction early with
  | nil => simp at declares
  | cons type early ih =>
      by_cases isFirst : Declares declared type signature
      · exact ⟨[], type, early, rfl, isFirst, by simp⟩
      · obtain ⟨before, first, after, rfl, declares', notBefore⟩ := ih (by simpa [isFirst] using declares)
        exact ⟨type :: before, first, after, rfl, declares', by simpa [isFirst] using notBefore⟩

include distinct

theorem ne_of_mem_later {early late : List TypeId} {first other : TypeId}
    (split : types = early ++ first :: late) (isLater : other ∈ late) : first ≠ other := by
  rintro rfl
  rw [split] at distinct
  exact (List.nodup_cons.1 (List.nodup_append.1 distinct).2.1).1 isLater

include owned

/-- A member is missing exactly if a type ahead of its own declares its signature. -/
theorem not_mem_unhidden_iff {early late : List TypeId} {owner : TypeId}
    (split : types = early ++ owner :: late) {member : Member} (isDeclared : member ∈ declared owner) :
    member ∉ unhidden declared types ↔
      ∃ earlier ∈ early, Declares declared earlier member.signature := by
  rw [mem_unhidden_iff owned distinct split isDeclared]
  simp

theorem hiddenFromBelow_of_firstIsLowest (lowest : FirstIsLowest below declared types) :
    HiddenFromBelow below declared types (unhidden declared types) := by
  intro owner isThere member isDeclared isMissing
  obtain ⟨early, late, split⟩ := List.append_of_mem isThere
  have declares := (not_mem_unhidden_iff owned distinct split isDeclared).1 isMissing
  obtain ⟨before, first, after, rfl, isFirst, notBefore⟩ := exists_first_declaring declares
  have split' : types = before ++ first :: (after ++ owner :: late) := by simp [split]
  have isLater : owner ∈ after ++ owner :: late := by simp
  exact ⟨first, by simp [split], ne_of_mem_later distinct split' isLater,
    lowest before first _ split' member.signature isFirst notBefore owner isLater
      (List.mem_map_of_mem isDeclared), isFirst⟩

/-- In a line without cycles, hiding from below leads down to the first type. -/
theorem firstIsLowest_of_hiddenFromBelow
    (trans : ∀ {one two three : TypeId}, below one two → below two three → below one three)
    (acyclic : ∀ type ∈ types, ¬below type type)
    (hidden : HiddenFromBelow below declared types (unhidden declared types)) :
    FirstIsLowest below declared types := by
  intro early first late split signature isFirst notBefore
  let Below : {type // type ∈ types} → {type // type ∈ types} → Prop :=
    fun one two => below one.1 two.1
  have wellFounded : WellFounded Below := by
    have : IsTrans _ Below := ⟨fun _ _ _ => trans⟩
    have : Std.Irrefl Below := ⟨fun type => acyclic type.1 type.2⟩
    exact Finite.wellFounded_of_trans_of_irrefl Below
  -- a later type that declares the signature has another one below it, and so on down
  have lowest : ∀ other : {type // type ∈ types}, other.1 ∈ late →
      Declares declared other.1 signature → below first other.1 := by
    intro other
    induction other using wellFounded.induction with
    | _ other ih =>
        intro isLater declares
        obtain ⟨between, rest, rfl⟩ := List.append_of_mem isLater
        obtain ⟨member, isDeclared, rfl⟩ := List.mem_map.1 declares
        have splitHere : types = (early ++ first :: between) ++ other.1 :: rest := by simp [split]
        have isMissing := (not_mem_unhidden_iff owned distinct splitHere isDeclared).2
          ⟨first, by simp, isFirst⟩
        obtain ⟨lower, isThere, -, isBelow, declaresLower⟩ :=
          hidden other.1 other.2 member isDeclared isMissing
        have place := isThere
        rw [split, List.mem_append, List.mem_cons] at place
        rcases place with isEarlier | rfl | isLater'
        · exact absurd declaresLower (notBefore lower isEarlier)
        · exact isBelow
        · exact trans (ih ⟨lower, isThere⟩ isBelow isLater' declaresLower) isBelow
  intro other isLater declares
  exact lowest ⟨other, by simp [split, isLater]⟩ isLater declares

end Below

namespace Declarations

open TypeArena

/-- Whether declared supertypes lead up from one name to another, in one step or more. -/
def IsBelow (decls : Declarations) (arena : TypeArena) : String → String → Prop :=
  Relation.TransGen fun name supername => supername ∈ decls.namesAbove arena name

/-- Whether every declaration has one supertype at most. -/
def Single (decls : Declarations) : Prop :=
  ∀ entry ∈ decls.types, entry.2.supertypes.length ≤ 1

instance (decls : Declarations) : Decidable decls.Single :=
  inferInstanceAs (Decidable (∀ entry ∈ decls.types, entry.2.supertypes.length ≤ 1))

theorem declaredMembers_owner {decls : Declarations} {arena : TypeArena} {site : CallSite}
    {type : TypeId} : ∀ member ∈ decls.declaredMembers arena site type, member.owner = type := by
  intro member isMember
  rw [declaredMembers] at isMember
  split at isMember
  · cases isMember
  · split at isMember
    · cases isMember
    · obtain ⟨decl, isDecl, rfl⟩ := List.mem_map.1 isMember
      rfl

theorem Single.length_above {decls : Declarations} (single : decls.Single) (arena : TypeArena)
    (type : TypeId) : (decls.above arena type).length ≤ 1 := by
  rw [above]
  split
  · exact Nat.zero_le _
  · split
    · exact Nat.zero_le _
    · next declared =>
        rw [List.length_map]
        exact single _ (mem_of_lookup declared)

/-! ## Where there is one way up -/

section Plain

variable {decls : Declarations} {base last : TypeArena} (declsKnown : decls.KnownIn base)
  (plain : decls.PlainIn base) (grown : base.GrowsTo last) (ordered : last.Ordered)
  {seen : List String} {waiting types : List TypeId}

include declsKnown plain grown ordered

/-- Below a supertype of a type, or at it, is above the type. -/
theorem isBelow_of_mem_above {type first entry : TypeId} (known : last.Knows type)
    (stored : Known last (decls.above last type)) (isSupertype : first ∈ decls.above last type)
    (isAbove : first = entry ∨
      decls.IsBelow base (last.qualifiedName first) (last.qualifiedName entry)) :
    decls.IsBelow base (last.qualifiedName type) (last.qualifiedName entry) := by
  have step : last.qualifiedName first ∈ decls.namesAbove base (last.qualifiedName type) := by
    rw [← map_name_above declsKnown plain grown ordered known stored]
    exact List.mem_map_of_mem isSupertype
  rcases isAbove with rfl | isAbove
  · exact Relation.TransGen.single step
  · exact Relation.TransGen.head step isAbove

/-- What is listed has waited in line or lies above what has. -/
theorem Lists.above_waiting (lists : decls.Lists last seen waiting types) :
    ∀ entry ∈ types, ∃ first ∈ waiting,
      first = entry ∨ decls.IsBelow base (last.qualifiedName first) (last.qualifiedName entry) := by
  induction lists with
  | done seen => simp
  | again isSeen rest ih =>
      intro entry isEntry
      obtain ⟨first, waits, isAbove⟩ := ih entry isEntry
      exact ⟨first, List.mem_cons_of_mem _ waits, isAbove⟩
  | opened isKnown isNew isResolved stored rest ih =>
      intro entry isEntry
      rcases List.mem_cons.1 isEntry with rfl | isLater
      · exact ⟨entry, List.mem_cons_self, Or.inl rfl⟩
      · obtain ⟨first, waits, isAbove⟩ := ih entry isLater
        rcases List.mem_append.1 waits with waited | joined
        · exact ⟨first, List.mem_cons_of_mem _ waited, isAbove⟩
        · exact ⟨_, List.mem_cons_self, Or.inr (isBelow_of_mem_above declsKnown plain grown ordered
            isKnown stored joined isAbove)⟩

/-- With one supertype at most to a declaration, every listed type is below those after it. -/
theorem Lists.pairwise_below (lists : decls.Lists last seen waiting types) (single : decls.Single)
    (short : waiting.length ≤ 1) :
    types.Pairwise fun below entry =>
      decls.IsBelow base (last.qualifiedName below) (last.qualifiedName entry) := by
  induction lists with
  | done seen => exact List.Pairwise.nil
  | again isSeen rest ih => exact ih (Nat.le_trans (Nat.le_succ _) short)
  | @opened seen type waiting types isKnown isNew isResolved stored rest ih =>
      obtain rfl : waiting = [] := by
        rw [List.length_cons] at short
        exact List.length_eq_zero_iff.1 (by omega)
      refine List.pairwise_cons.2 ⟨?_, ih (single.length_above last type)⟩
      intro entry isLater
      obtain ⟨first, joined, isAbove⟩ :=
        rest.above_waiting declsKnown plain grown ordered entry isLater
      exact isBelow_of_mem_above declsKnown plain grown ordered isKnown stored joined isAbove

end Plain

/-- **A member is missing if a type ahead of its own declares its signature, below it or not.**
Take a class whose lineage is known.  Of the members that the types of the lineage declare,
those are missing whose signature a type further ahead declares.  If no type of the lineage is
below itself, then whatever is missing is hidden from below exactly if, for every signature, the
first type of the lineage to declare it is below all others that declare it.  And so it is where
supertypes are classes and every declaration has one supertype at most. -/
theorem members_missing_iff {decls : Declarations} {arena : TypeArena} (ordered : arena.Ordered)
    (declsKnown : decls.KnownIn arena) {type : TypeId} {shape : TypeShape}
    (found : arena.shape? type = some shape) (isClass : shape.kind = .classType)
    (flat : shape.dims = 0) (site : CallSite) {types : List TypeId}
    (succeeded : (decls.lineage arena type).1 = .ok types) :
    let listed := decls.members arena type site
    let declared := decls.declaredMembers listed.2 site
    let below one two :=
      decls.IsBelow arena (listed.2.qualifiedName one) (listed.2.qualifiedName two)
    ∃ members, listed.1 = .ok members ∧
      (∀ early owner late, types = early ++ owner :: late → ∀ member ∈ declared owner,
        (member ∉ members ↔ ∃ earlier ∈ early, Declares declared earlier member.signature)) ∧
      ((∀ entry ∈ types, ¬below entry entry) →
        (HiddenFromBelow below declared types members ↔ FirstIsLowest below declared types)) ∧
      (decls.PlainIn arena → decls.Single → HiddenFromBelow below declared types members) := by
  intro listed declared below
  have known := knows_of_shape? found
  have orderedAfter := (members_yields declsKnown (GrowsTo.refl _) ordered known site).ordered
  have answer := members_eq_unhidden ordered declsKnown found isClass flat site succeeded
    orderedAfter (GrowsTo.refl _)
  have grows := lineage_growsTo_members found isClass flat site succeeded
  have lists := lineage_lists declsKnown orderedAfter known succeeded grows
  have distinct : types.Nodup := List.Nodup.of_map _ lists.nodup
  have owned : ∀ type, ∀ member ∈ declared type, member.owner = type :=
    fun type => declaredMembers_owner
  refine ⟨_, answer, ?_, ?_, ?_⟩
  · intro early owner late split member isDeclared
    exact not_mem_unhidden_iff owned distinct split isDeclared
  · intro acyclic
    exact ⟨firstIsLowest_of_hiddenFromBelow owned distinct Relation.TransGen.trans acyclic,
      hiddenFromBelow_of_firstIsLowest owned distinct⟩
  · intro plain single
    have sinceArena := (decls.members_storesTo arena type site).growsTo
    have pairwise := lists.pairwise_below declsKnown plain sinceArena orderedAfter single
      (Nat.le_refl _)
    apply hiddenFromBelow_of_firstIsLowest owned distinct
    intro early first late split signature isFirst notBefore other isLater declares
    rw [split] at pairwise
    exact (List.pairwise_cons.1 (List.pairwise_append.1 pairwise).2.1).1 other isLater

/-- Above a crate there is nothing but a box, so the method of the box that is missing is hidden
from below. -/
theorem members_missing_iff_crate :
    crateDecls.PlainIn crateArena ∧ crateDecls.Single ∧
    ∃ members, (crateDecls.members crateArena ⟨4⟩ .unknown).1 = .ok members ∧
      HiddenFromBelow
        (fun one two => crateDecls.IsBelow crateArena
          ((crateDecls.members crateArena ⟨4⟩ .unknown).2.qualifiedName one)
          ((crateDecls.members crateArena ⟨4⟩ .unknown).2.qualifiedName two))
        (crateDecls.declaredMembers (crateDecls.members crateArena ⟨4⟩ .unknown).2 .unknown)
        [⟨4⟩, ⟨7⟩] members := by
  have ordered : crateArena.Ordered := by decide
  have declsKnown : crateDecls.KnownIn crateArena := by decide
  have plain : crateDecls.PlainIn crateArena := by decide
  have single : crateDecls.Single := by decide
  have answer : (crateDecls.lineage crateArena ⟨4⟩).1 = .ok [⟨4⟩, ⟨7⟩] := rfl
  obtain ⟨members, listed, -, -, hidden⟩ := @members_missing_iff crateDecls crateArena ordered
    declsKnown ⟨4⟩ ⟨.classType, "Crate", [⟨3⟩], 0⟩ rfl rfl rfl .unknown [⟨4⟩, ⟨7⟩] answer
  exact ⟨plain, single, members, listed, hidden plain single⟩

/-- The classes `Text`, `Source`, `Page`, `FileSource` and `Log`. -/
def logArena : TypeArena :=
  ⟨⟨[⟨.classType, "Text", [], 0⟩, ⟨.classType, "Source", [], 0⟩, ⟨.classType, "Page", [], 0⟩,
    ⟨.classType, "FileSource", [], 0⟩, ⟨.classType, "Log", [], 0⟩]⟩⟩

/-- A `Source` is read as a `Text`, a `FileSource`, which extends it, as a `Page`, and a `Log`
extends both. -/
def logDecls : Declarations :=
  ⟨[("Source", ⟨[], [], [⟨"read", .method, [], ⟨0⟩, false, .everywhere⟩]⟩),
    ("FileSource", ⟨[], [⟨1⟩], [⟨"read", .method, [], ⟨2⟩, false, .everywhere⟩]⟩),
    ("Log", ⟨[], [⟨1⟩, ⟨3⟩], []⟩)], []⟩

/-- The lineage of a `Log` has `Source` ahead of `FileSource`, which is below it.  So the method
that overrides is missing, hidden by the one that it overrides, and by none from below. -/
theorem members_miss_override :
    logArena.Ordered ∧ logDecls.KnownIn logArena ∧
    (logDecls.lineage logArena ⟨4⟩).1 = .ok [⟨4⟩, ⟨1⟩, ⟨3⟩] ∧
    (logDecls.members logArena ⟨4⟩ .unknown).1 =
      .ok [⟨⟨1⟩, "read", .method, [], ⟨0⟩, false, true⟩] ∧
    logDecls.declaredMembers (logDecls.members logArena ⟨4⟩ .unknown).2 .unknown ⟨3⟩ =
      [⟨⟨3⟩, "read", .method, [], ⟨2⟩, false, true⟩] ∧
    logDecls.IsBelow logArena "FileSource" "Source" ∧
    ¬HiddenFromBelow
      (fun one two => logDecls.IsBelow logArena
        ((logDecls.members logArena ⟨4⟩ .unknown).2.qualifiedName one)
        ((logDecls.members logArena ⟨4⟩ .unknown).2.qualifiedName two))
      (logDecls.declaredMembers (logDecls.members logArena ⟨4⟩ .unknown).2 .unknown)
      [⟨4⟩, ⟨1⟩, ⟨3⟩] [⟨⟨1⟩, "read", .method, [], ⟨0⟩, false, true⟩] := by
  refine ⟨by decide, by decide, rfl, rfl, rfl, Relation.TransGen.single (by decide), ?_⟩
  intro hidden
  obtain ⟨other, isThere, differs, isBelow, declares⟩ := hidden ⟨3⟩ (by decide)
    ⟨⟨3⟩, "read", .method, [], ⟨2⟩, false, true⟩ (by decide) (by decide)
  have places : other = ⟨4⟩ ∨ other = ⟨1⟩ ∨ other = ⟨3⟩ := by simpa using isThere
  rcases places with rfl | rfl | rfl
  · exact absurd declares (by decide)
  · obtain ⟨supername, step, -⟩ := Relation.TransGen.head'_iff.1 isBelow
    exact absurd step List.not_mem_nil
  · exact differs rfl

end Declarations

end ChainCompletion
