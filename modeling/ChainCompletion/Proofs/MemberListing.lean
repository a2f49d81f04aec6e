/-
# Proofs.MemberListing -- which members a type has

A type of a lineage declares members, written in terms of the parameters of its declaration,
and has them with its own arguments in their place (`declaredMembers`).  The members of a class
are those of all types of its lineage, type by type, without the ones whose signature a type
further ahead declares (`unhidden`).

The listing keeps a record of signatures as it goes, and only of those of members that it has
kept.  A member that is left out has a signature that is on record already, so nothing is
missed: the record holds just what the types so far declare (`gatherMembers_settled`).
Signatures are compared by the numbers of their types, which are handed out as the listing
goes; all numbers are read in an arena that has seen its end (`memberOf_settled`).

* `members_unhidden`: what is listed for a class, and when the listing fails.
-/
import ChainCompletion.Proofs.LineageWalks

namespace ChainCompletion

open Denotes

set_option autoImplicit false

/-- Whether a type declares a member with this signature. -/
def Declares (declared : TypeId → List Member) (type : TypeId) (signature : Signature) : Prop :=
  signature ∈ (declared type).map Member.signature

instance (declared : TypeId → List Member) (type : TypeId) (signature : Signature) :
    Decidable (Declares declared type signature) :=
  inferInstanceAs (Decidable (signature ∈ (declared type).map Member.signature))

/-- The members of a type, without those whose signature one of the types `before` declares. -/
def notHidden (declared : TypeId → List Member) (before : List TypeId) (owner : TypeId) :
    List Member :=
  (declared owner).filter fun member =>
    ∀ earlier ∈ before, ¬Declares declared earlier member.signature

/-- The members of types, type by type, without those whose signature a type before theirs
declares. -/
def unhidden (declared : TypeId → List Member) (types : List TypeId) : List Member :=
  (types.mapIdx fun place owner => notHidden declared (types.take place) owner).flatten

namespace Declarations

open TypeArena

section Declared

variable (decls : Declarations) (arena : TypeArena) (site : CallSite)

/-- A declared member as a type with these arguments has it. -/
def declaredMember (owner : TypeId) (shape : TypeShape) (params : List TypeId)
    (decl : MemberDecl) : Member where
  owner := owner
  name := decl.name
  kind := decl.kind
  params := decl.params.map fun param =>
    ⟨param.name, (arena.instantiate params shape.args param.type).1⟩
  result := (arena.instantiate params shape.args decl.result).1
  isStatic := decl.isStatic
  accessible := (decls.permits arena site shape.name decl.visibility).1

/-- The members that a type declares, as it has them. -/
def declaredMembers (owner : TypeId) : List Member :=
  match arena.shape? owner with
  | none => []
  | some shape =>
      match decls.find? shape.name with
      | none => []
      | some decl => decl.members.map (decls.declaredMember arena site owner shape decl.params)

end Declared

/-! ## One type -/

section Later

variable {decls : Declarations} {base arena later : TypeArena} (declsKnown : decls.KnownIn base)
  (grown : base.GrowsTo arena) (ordered : later.Ordered)

include declsKnown grown ordered

/-- A declared member is left out if its signature is hidden. -/
theorem memberOf_settled {type : TypeId} {shape : TypeShape} (found : arena.shape? type = some shape)
    {params : List TypeId} (knownParams : Known base params) {decl : MemberDecl}
    (knownTypes : Known base decl.params) (knownResult : base.Knows decl.result) (site : CallSite)
    (hidden : List Signature)
    (grows : (decls.memberOf site params type shape hidden arena decl).2.GrowsTo later) :
    (decls.memberOf site params type shape hidden arena decl).1 =
      if (decls.declaredMember later site type shape params decl).signature ∈ hidden then none
      else some (decls.declaredMember later site type shape params decl) := by
  have knownParts : Known base (decl.params.map (·.type)) := by
    intro part isPart
    obtain ⟨param, isParam, rfl⟩ := List.mem_map.1 isPart
    exact knownTypes param isParam
  have stored := (threadMap_storesTo
    (fun arena part => instantiate_storesTo params shape.args arena part) arena
    (decl.params.map (·.type))).growsTo
  have settled : _ → _ := threadMap_instantiate_settled grown ordered found knownParams knownParts
  rw [memberOf] at grows ⊢
  generalize threadMap (fun arena part => arena.instantiate params shape.args part) arena
    (decl.params.map (·.type)) = asked at stored settled grows ⊢
  obtain ⟨types, between⟩ := asked
  simp only at stored settled grows ⊢
  have signature : between.GrowsTo later →
      (decls.declaredMember later site type shape params decl).signature =
        ⟨decl.kind, decl.name, types⟩ := by
    intro growsBetween
    rw [settled growsBetween]
    simp [Member.signature, declaredMember]
  by_cases isHidden : Signature.mk decl.kind decl.name types ∈ hidden
  · rw [if_pos isHidden] at grows ⊢
    rw [signature grows, if_pos isHidden]
  · rw [if_neg isHidden] at grows ⊢
    have storedResult := (instantiate_storesTo params shape.args between decl.result).growsTo
    have storedAccess := (decls.permits_storesTo (between.instantiate params shape.args decl.result).2
      site shape.name decl.visibility).growsTo
    have growsResult := storedAccess.trans grows
    have growsBetween := storedResult.trans growsResult
    have since := stored.trans growsBetween
    have knownArgs : Known arena shape.args := fun arg isArg =>
      (ordered.of_growsTo since).knows_arg found isArg
    have sinceBase := grown.trans stored
    have result := instantiate_settled ordered (known_of_growsTo sinceBase knownParams)
      (known_of_growsTo stored knownArgs) (sinceBase.knows knownResult) growsResult
    have access := permits_settled declsKnown (sinceBase.trans storedResult) ordered site shape.name
      decl.visibility grows
    have parameters : (decl.params.zip types).map (fun entry => Parameter.mk entry.1.name entry.2) =
        decl.params.map fun param =>
          ⟨param.name, (later.instantiate params shape.args param.type).1⟩ := by
      rw [settled growsBetween, List.map_map, ← List.map_prod_left_eq_zip, List.map_map]
      rfl
    rw [signature growsBetween, if_neg isHidden, declaredMember, ← result, ← access, ← parameters]

/-- The members that a type itself declares are listed unless their signatures are hidden. -/
theorem ownMembers_settled {type : TypeId} (known : arena.Knows type) (site : CallSite)
    (hidden : List Signature) (grows : (decls.ownMembers site hidden arena type).2.GrowsTo later) :
    (decls.ownMembers site hidden arena type).1 =
      (decls.declaredMembers later site type).filter fun member => member.signature ∉ hidden := by
  have since := (decls.ownMembers_storesTo site hidden arena type).growsTo.trans grows
  obtain ⟨shape, found⟩ := knows_iff.1 known
  rw [declaredMembers, shape?_of_growsTo since found]
  rw [ownMembers, found] at grows ⊢
  simp only at grows ⊢
  cases declared : decls.find? shape.name with
  | none => rfl
  | some decl =>
      have knownDecl := declsKnown.find? declared
      simp only [declared] at grows ⊢
      have each : ∀ member ∈ decl.members, ∀ between, arena.GrowsTo between →
          (decls.memberOf site decl.params type shape hidden between member).2.GrowsTo later →
          (decls.memberOf site decl.params type shape hidden between member).1 =
            Option.guard (fun member => decide (member.signature ∉ hidden))
              (decls.declaredMember later site type shape decl.params member) := by
        intro member isMember between grownBetween growsBetween
        obtain ⟨knownTypes, knownResult⟩ := knownDecl.members member isMember
        rw [memberOf_settled declsKnown (grown.trans grownBetween) ordered
          (shape?_of_growsTo grownBetween found) knownDecl.params knownTypes knownResult site hidden
          growsBetween]
        simp [Option.guard]
      rw [threadMap_settled (decls.memberOf_storesTo site decl.params type shape hidden) each grows,
        List.filterMap_map, ← List.filterMap_eq_filter, List.filterMap_map]
      rfl

/-! ## A lineage -/

omit grown in
/-- The members of the types in a line are listed unless a type ahead of theirs declares their
signatures, provided that those of the types ahead of the line are on record. -/
theorem gatherMembers_settled (site : CallSite) {arena : TypeArena} (grown : base.GrowsTo arena)
    {before owners : List TypeId} (known : Known arena owners) {hidden : List Signature}
    (record : ∀ signature, signature ∈ hidden ↔
      ∃ earlier ∈ before, Declares (decls.declaredMembers later site) earlier signature)
    (grows : (decls.gatherMembers site hidden arena owners).2.GrowsTo later) :
    (decls.gatherMembers site hidden arena owners).1 =
      (owners.mapIdx fun place owner => notHidden (decls.declaredMembers later site)
        ((before ++ owners).take (before.length + place)) owner).flatten := by
  induction owners generalizing arena before hidden with
  | nil => rfl
  | cons owner owners ih =>
      obtain ⟨knownOwner, knownRest⟩ := known_cons.1 known
      have stored := (decls.ownMembers_storesTo site hidden arena owner).growsTo
      have rest := decls.gatherMembers_storesTo site
        (hidden ++ (decls.ownMembers site hidden arena owner).1.map Member.signature)
        (decls.ownMembers site hidden arena owner).2 owners
      rw [gatherMembers] at grows ⊢
      simp only at grows ⊢
      have own := ownMembers_settled declsKnown grown ordered knownOwner site hidden
        (rest.growsTo.trans grows)
      have ownNotHidden : (decls.ownMembers site hidden arena owner).1 =
          notHidden (decls.declaredMembers later site) before owner := by
        rw [own, notHidden]
        refine List.filter_congr ?_
        intro member isMember
        simp only [record, not_exists, not_and]
      -- what was left out is on record already, so the record takes in all that the owner declares
      have recordNext : ∀ signature,
          signature ∈ hidden ++ (decls.ownMembers site hidden arena owner).1.map Member.signature ↔
          ∃ earlier ∈ before ++ [owner],
            Declares (decls.declaredMembers later site) earlier signature := by
        intro signature
        rw [own, List.mem_append, List.mem_map]
        constructor
        · rintro (isHidden | ⟨member, isKept, rfl⟩)
          · obtain ⟨earlier, isEarlier, declares⟩ := (record signature).1 isHidden
            exact ⟨earlier, List.mem_append_left _ isEarlier, declares⟩
          · exact ⟨owner, by simp, List.mem_map_of_mem (List.mem_filter.1 isKept).1⟩
        · rintro ⟨earlier, isEarlier, declares⟩
          by_cases isHidden : signature ∈ hidden
          · exact Or.inl isHidden
          · rcases List.mem_append.1 isEarlier with isBefore | isOwner
            · exact absurd ((record signature).2 ⟨earlier, isBefore, declares⟩) isHidden
            · obtain rfl := List.mem_singleton.1 isOwner
              obtain ⟨member, isMember, rfl⟩ := List.mem_map.1 declares
              exact Or.inr ⟨member, List.mem_filter.2 ⟨isMember, by simpa using isHidden⟩, rfl⟩
      have inherited := ih (grown.trans stored) (known_of_growsTo stored knownRest) recordNext grows
      rw [inherited, ownNotHidden, List.mapIdx_cons, List.flatten_cons]
      simp [Nat.add_assoc, Nat.add_comm 1]

end Later

section Class

variable {decls : Declarations} {arena between : TypeArena} {type : TypeId} {shape : TypeShape}
  (found : arena.shape? type = some shape) (isClass : shape.kind = .classType)
  (flat : shape.dims = 0)

include found isClass flat

theorem members_of_lineage_error {error : LookupError}
    (walked : decls.lineage arena type = (.error error, between)) (site : CallSite) :
    decls.members arena type site = (.error error, between) := by
  simp [members, found, isClass, flat, walked]

theorem members_of_lineage_ok {types : List TypeId}
    (walked : decls.lineage arena type = (.ok types, between)) (site : CallSite) :
    decls.members arena type site =
      (.ok (decls.gatherMembers site [] between types).1,
        (decls.gatherMembers site [] between types).2) := by
  simp [members, found, isClass, flat, walked]

end Class

section Listing

variable {decls : Declarations} {arena : TypeArena} (ordered : arena.Ordered)
  (declsKnown : decls.KnownIn arena) {type : TypeId} {shape : TypeShape}
  (found : arena.shape? type = some shape) (isClass : shape.kind = .classType)
  (flat : shape.dims = 0) (site : CallSite) {types : List TypeId}
  (succeeded : (decls.lineage arena type).1 = .ok types)

include found isClass flat succeeded

theorem lineage_growsTo_members :
    (decls.lineage arena type).2.GrowsTo (decls.members arena type site).2 := by
  rw [members_of_lineage_ok found isClass flat (Prod.ext succeeded rfl) site]
  exact (decls.gatherMembers_storesTo _ _ _ _).growsTo

include ordered declsKnown

/-- What is listed for a class whose lineage is known. -/
theorem members_eq_unhidden {later : TypeArena} (orderedLater : later.Ordered)
    (grows : (decls.members arena type site).2.GrowsTo later) :
    (decls.members arena type site).1 =
      .ok (unhidden (decls.declaredMembers later site) types) := by
  have walked := lineage_yields declsKnown (GrowsTo.refl _) ordered (knows_of_shape? found)
  rw [members_of_lineage_ok found isClass flat (Prod.ext succeeded rfl) site] at grows ⊢
  have gathered := @gatherMembers_settled decls arena later declsKnown orderedLater site
    (decls.lineage arena type).2 walked.grows [] types (walked.known types succeeded) []
    (by simp) grows
  simpa [unhidden] using gathered

end Listing

/-- **The members of a class are those of its lineage that are not hidden.**  If the walk up from
a class fails, its members fail to be listed, for the same reason.  Otherwise the class stands
first in its lineage, and its members are those that the types of the lineage declare, type by
type in the order of declaration, each with the arguments of its type in place of the
parameters and with that type for its owner, without those whose signature a type further
ahead declares.  Their types may be read in the arena that the listing ends with or in any
later one. -/
theorem members_unhidden {decls : Declarations} {arena : TypeArena} (ordered : arena.Ordered)
    (declsKnown : decls.KnownIn arena) {type : TypeId} {shape : TypeShape}
    (found : arena.shape? type = some shape) (isClass : shape.kind = .classType)
    (flat : shape.dims = 0) (site : CallSite) :
    (∀ error, (decls.lineage arena type).1 = .error error →
      (decls.members arena type site).1 = .error error) ∧
    ∀ types, (decls.lineage arena type).1 = .ok types →
      types.head? = some type ∧ (decls.members arena type site).2.Ordered ∧
      ∀ later, later.Ordered → (decls.members arena type site).2.GrowsTo later →
        (decls.members arena type site).1 =
          .ok (unhidden (decls.declaredMembers later site) types) := by
  have known := knows_of_shape? found
  refine ⟨?_, ?_⟩
  · intro error failed
    rw [members_of_lineage_error found isClass flat (Prod.ext failed rfl) site]
  · intro types succeeded
    have walked := lineage_yields declsKnown (GrowsTo.refl _) ordered known
    have listed := members_yields declsKnown (GrowsTo.refl _) ordered known site
    refine ⟨?_, listed.ordered, ?_⟩
    · exact (lineage_lists declsKnown walked.ordered known succeeded (GrowsTo.refl _)).head_eq
    · intro later orderedLater grows
      exact members_eq_unhidden ordered declsKnown found isClass flat site succeeded orderedLater grows

/-- A variable `T`, `List<T>`, `Box<List<T>>`, `String`, `Crate<String>` and `void`. -/
def crateArena : TypeArena :=
  ⟨⟨[⟨.typeVariable, "T", [], 0⟩, ⟨.classType, "List", [⟨0⟩], 0⟩, ⟨.classType, "Box", [⟨1⟩], 0⟩,
    ⟨.classType, "String", [], 0⟩, ⟨.classType, "Crate", [⟨3⟩], 0⟩, ⟨.void, "void", [], 0⟩]⟩⟩

/-- `Crate<T> extends Box<List<T>>`, with a method `put` for lists and one for single things, and
`Box<T>`, with a method `put` and a field `item`. -/
def crateDecls : Declarations :=
  ⟨[("Crate", ⟨[⟨0⟩], [⟨2⟩],
      [⟨"put", .method, [⟨none, ⟨1⟩⟩], ⟨5⟩, false, .everywhere⟩,
       ⟨"put", .method, [⟨none, ⟨0⟩⟩], ⟨5⟩, false, .everywhere⟩]⟩),
    ("Box", ⟨[⟨0⟩], [],
      [⟨"put", .method, [⟨none, ⟨0⟩⟩], ⟨5⟩, false, .everywhere⟩,
       ⟨"item", .field, [], ⟨0⟩, false, .everywhere⟩]⟩)], []⟩

/-- In a `Crate<String>` the `put` of the box takes a `List<String>`, as the first `put` of the
crate does, which hides it. -/
theorem members_unhidden_crate :
    crateArena.Ordered ∧ crateDecls.KnownIn crateArena ∧
    (crateDecls.lineage crateArena ⟨4⟩).1 = .ok [⟨4⟩, ⟨7⟩] ∧
    (crateDecls.members crateArena ⟨4⟩ .unknown).1 = .ok
      [⟨⟨4⟩, "put", .method, [⟨none, ⟨6⟩⟩], ⟨5⟩, false, true⟩,
       ⟨⟨4⟩, "put", .method, [⟨none, ⟨3⟩⟩], ⟨5⟩, false, true⟩,
       ⟨⟨7⟩, "item", .field, [], ⟨6⟩, false, true⟩] ∧
    (crateDecls.members crateArena ⟨4⟩ .unknown).1 = .ok
      (unhidden (crateDecls.declaredMembers (crateDecls.members crateArena ⟨4⟩ .unknown).2
        .unknown) [⟨4⟩, ⟨7⟩]) := by
  have ordered : crateArena.Ordered := by decide
  have declsKnown : crateDecls.KnownIn crateArena := by decide
  have answer : (crateDecls.lineage crateArena ⟨4⟩).1 = .ok [⟨4⟩, ⟨7⟩] := rfl
  obtain ⟨-, listed⟩ := @members_unhidden crateDecls crateArena ordered declsKnown ⟨4⟩
    ⟨.classType, "Crate", [⟨3⟩], 0⟩ rfl rfl rfl .unknown
  obtain ⟨-, orderedAfter, unhides⟩ := listed _ answer
  exact ⟨ordered, declsKnown, answer, rfl, unhides _ orderedAfter (GrowsTo.refl _)⟩

end Declarations

end ChainCompletion
