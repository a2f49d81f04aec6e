/-
# Proofs.DeclarationTrees -- declared types, on trees

Declarations are written with numbers of an arena.  As long as that arena knows all of them
(`Declarations.KnownIn`) the questions about declared types can be answered with trees
alone: what is above a type (`lineageTrees`), who may use a member (`permitsTree`) and which
members a type has (`memberTrees`).  Asked in any later arena, each question yields the
answer on trees, whatever has come up in between (`lineage_yields`, `permits_yields`,
`members_yields`).
-/
import ChainCompletion.Declarations.Members
import ChainCompletion.Proofs.TreeInstantiation

namespace ChainCompletion

open Denotes

set_option autoImplicit false

/-- Whether all types that a declaration mentions are known. -/
structure ClassDecl.KnownIn (decl : ClassDecl) (arena : TypeArena) : Prop where
  params : Known arena decl.params
  supertypes : Known arena decl.supertypes
  members : ∀ member ∈ decl.members, Known arena member.params ∧ arena.Knows member.result

/-- Whether all types that declarations mention are known. -/
def Declarations.KnownIn (decls : Declarations) (arena : TypeArena) : Prop :=
  ∀ entry ∈ decls.types, entry.2.KnownIn arena

instance (decl : ClassDecl) (arena : TypeArena) : Decidable (decl.KnownIn arena) :=
  decidable_of_iff
    ((∀ param ∈ decl.params, param.index < arena.size) ∧
      (∀ supertype ∈ decl.supertypes, supertype.index < arena.size) ∧
      ∀ member ∈ decl.members,
        (∀ param ∈ member.params, param.type.index < arena.size) ∧ member.result.index < arena.size)
    ⟨fun all => ⟨all.1, all.2.1, all.2.2⟩, fun known => ⟨known.params, known.supertypes, known.members⟩⟩

instance (decls : Declarations) (arena : TypeArena) : Decidable (decls.KnownIn arena) :=
  inferInstanceAs (Decidable (∀ entry ∈ decls.types, entry.2.KnownIn arena))

theorem Declarations.KnownIn.find? {decls : Declarations} {base : TypeArena}
    (declsKnown : decls.KnownIn base) {name : String} {decl : ClassDecl}
    (declared : decls.find? name = some decl) : decl.KnownIn base :=
  declsKnown _ (mem_of_lookup declared)

instance : Denotes Signature (MemberKind × String × List TypeTree) where
  Known arena signature := Known arena signature.params
  meaning arena signature := (signature.kind, signature.name, meaning arena signature.params)
  known_of_growsTo grows known := known_of_growsTo grows known
  meaning_of_growsTo ordered grows known := by rw [meaning_of_growsTo ordered grows known]
  meaning_inj {arena signature other} ordered known known' same := by
    obtain ⟨kind, name, params⟩ := signature
    obtain ⟨kind', name', params'⟩ := other
    simp only [Prod.mk.injEq] at same
    obtain ⟨rfl, rfl, sameParams⟩ := same
    obtain rfl : params = params' := meaning_inj ordered known known' sameParams
    rfl

/-- What a member must share with another to hide it. -/
def TreeMember.signature (member : TreeMember) : MemberKind × String × List TypeTree :=
  (member.kind, member.name, member.params.map (·.type))

namespace Declarations

section Trees

variable (decls : Declarations) (base : TypeArena)

/-! ## Answers on trees -/

/-- A type of a declaration as the type `owner` sees it. -/
def seenFrom (owner : TypeTree) (params : List TypeId) (type : TypeId) : TypeTree :=
  (base.tree type).instantiate (meaning base params) owner.args

/-- The direct supertypes of a type. -/
def parentTrees (tree : TypeTree) : List TypeTree :=
  match decls.find? tree.name with
  | none => []
  | some decl => decl.supertypes.map (seenFrom base tree decl.params)

/-- Walks the types that wait in line, as `lineageFrom` does. -/
def lineageTreesFrom : Nat → List String → List TypeTree → Except LookupError (List TypeTree)
  | _, _, [] => .ok []
  | 0, _, _ :: _ => .ok []
  | visits + 1, seen, tree :: waiting =>
      if tree.name ∈ seen then lineageTreesFrom visits seen waiting
      else if tree.name ∈ decls.unresolved then .error (.unresolvedType tree.name)
      else (lineageTreesFrom visits (tree.name :: seen)
        (waiting ++ decls.parentTrees base tree)).map (tree :: ·)

/-- The type and all types above it. -/
def lineageTrees (tree : TypeTree) : Except LookupError (List TypeTree) :=
  decls.lineageTreesFrom base decls.lineageSteps [] [tree]

/-- Whether the enclosing type of a call site has the name in its lineage. -/
def inheritsTree (site : CallSite) (declaring : String) : Bool :=
  match site.enclosing with
  | none => false
  | some enclosing =>
      match decls.lineageTrees base ⟨.classType, enclosing, [], 0⟩ with
      | .ok trees => trees.any fun above => above.name = declaring
      | .error _ => false

/-- Whether a call site may use a member that the type named `declaring` declares. -/
def permitsTree (site : CallSite) (declaring : String) : Visibility → Bool
  | .everywhere => true
  | .packageOnly => inPackageOf site declaring
  | .outermostOnly => inOutermostOf site declaring
  | .packageAndHeirs => inPackageOf site declaring || decls.inheritsTree base site declaring

/-- The parameters of a declared member as the type `owner` sees them. -/
def paramTrees (owner : TypeTree) (params : List TypeId) (decl : MemberDecl) : List TreeParameter :=
  decl.params.map fun param => ⟨param.name, seenFrom base owner params param.type⟩

/-- A declared member as a member of `owner`, unless its signature is hidden. -/
def memberTree (site : CallSite) (params : List TypeId) (owner : TypeTree)
    (hidden : List (MemberKind × String × List TypeTree)) (decl : MemberDecl) : Option TreeMember :=
  if (decl.kind, decl.name, (paramTrees base owner params decl).map (·.type)) ∈ hidden then none
  else some
    { owner := owner
      name := decl.name
      kind := decl.kind
      params := paramTrees base owner params decl
      result := seenFrom base owner params decl.result
      isStatic := decl.isStatic
      accessible := decls.permitsTree base site owner.name decl.visibility }

/-- The members that `owner` itself declares and that are not hidden. -/
def ownMemberTrees (site : CallSite) (hidden : List (MemberKind × String × List TypeTree))
    (owner : TypeTree) : List TreeMember :=
  match decls.find? owner.name with
  | none => []
  | some decl => decl.members.filterMap (decls.memberTree base site decl.params owner hidden)

/-- The members of a lineage, each type hiding signatures from those after it. -/
def gatherMemberTrees (site : CallSite) :
    List (MemberKind × String × List TypeTree) → List TypeTree → List TreeMember
  | _, [] => []
  | hidden, owner :: owners =>
      let own := decls.ownMemberTrees base site hidden owner
      own ++ gatherMemberTrees site (hidden ++ own.map TreeMember.signature) owners

/-- The members of a type, marked accessible or not for a call site. -/
def memberTrees (tree : TypeTree) (site : CallSite) : Except LookupError (List TreeMember) :=
  if 0 < tree.dims then .ok [⟨tree, "length", .field, [], ⟨.primitive, "int", [], 0⟩, false, true⟩]
  else if tree.kind ≠ .classType then .ok []
  else (decls.lineageTrees base tree).map (decls.gatherMemberTrees base site [])

end Trees

/-! ## Questions in an arena -/

section Questions

variable {decls : Declarations} {base arena : TypeArena} {type : TypeId} {shape : TypeShape}
  (declsKnown : decls.KnownIn base) (grown : base.GrowsTo arena) (ordered : arena.Ordered)

include grown ordered

/-- A type of a declaration is instantiated as its tree is seen, then and later. -/
theorem instantiate_yields_seenFrom (found : arena.shape? type = some shape)
    {params : List TypeId} (knownParams : Known base params) {part : TypeId}
    (known : base.Knows part) {later : TypeArena} (grows : arena.GrowsTo later)
    (orderedLater : later.Ordered) :
    later.Yields (later.instantiate params shape.args part)
      (seenFrom base (arena.tree type) params part) := by
  have orderedBase := ordered.of_growsTo grown
  have sinceBase := grown.trans grows
  have knownArgs : Known arena shape.args := fun arg isArg => ordered.knows_arg found isArg
  have args : (arena.tree type).args = meaning arena shape.args := by
    rw [TypeArena.tree_of_shape? ordered found]
    rfl
  have asked := TypeArena.instantiate_yields orderedLater (known_of_growsTo sinceBase knownParams)
    (known_of_growsTo grows knownArgs) (sinceBase.knows known)
  rwa [TypeArena.tree_of_growsTo orderedBase sinceBase known,
    meaning_of_growsTo orderedBase sinceBase knownParams,
    meaning_of_growsTo ordered grows knownArgs, ← args] at asked

/-- Types of a declaration are instantiated as their trees are seen. -/
theorem threadMap_yields_seenFrom (found : arena.shape? type = some shape) {params : List TypeId}
    (knownParams : Known base params) {parts : List TypeId} (knownParts : Known base parts) :
    arena.Yields
      (threadMap (fun arena part => arena.instantiate params shape.args part) arena parts)
      (parts.map (seenFrom base (arena.tree type) params)) := by
  refine TypeArena.threadMap_yields ordered ?_
  intro part isPart between grows orderedBetween
  exact instantiate_yields_seenFrom grown ordered found knownParams (knownParts part isPart) grows
    orderedBetween

include declsKnown

theorem parents_yields (found : arena.shape? type = some shape) :
    arena.Yields (decls.parents arena shape) (decls.parentTrees base (arena.tree type)) := by
  have name : (arena.tree type).name = shape.name := by
    rw [TypeArena.tree_of_shape? ordered found, TypeArena.treeOf]
  rw [parents, parentTrees, name]
  cases declared : decls.find? shape.name with
  | none => exact TypeArena.Yields.nil ordered
  | some decl =>
      have known := declsKnown.find? declared
      exact threadMap_yields_seenFrom grown ordered found known.params known.supertypes

omit grown ordered in
/-- Walking a line of types yields the walk along their trees. -/
theorem lineageFrom_yields (visits : Nat) {arena : TypeArena} (grown : base.GrowsTo arena)
    (ordered : arena.Ordered) (seen : List String) {waiting : List TypeId}
    (known : Known arena waiting) :
    arena.Yields (decls.lineageFrom visits arena seen waiting)
      (decls.lineageTreesFrom base visits seen (meaning arena waiting)) := by
  induction visits generalizing arena seen waiting with
  | zero =>
      cases waiting with
      | nil => exact (TypeArena.Yields.nil ordered).ok
      | cons type waiting => exact (TypeArena.Yields.nil ordered).ok
  | succ visits ih =>
      cases waiting with
      | nil => exact (TypeArena.Yields.nil ordered).ok
      | cons type waiting =>
          obtain ⟨knownType, knownRest⟩ := known_cons.1 known
          obtain ⟨shape, found, same⟩ := TypeArena.shape?_eq_some ordered knownType
          have name : (arena.tree type).name = shape.name := by rw [same, TypeArena.treeOf]
          rw [meaning_cons, meaning_type, lineageFrom, lineageTreesFrom, found, name]
          simp only
          split
          · exact ih grown ordered seen knownRest
          · split
            · exact TypeArena.Yields.error ordered _
            · have above := parents_yields declsKnown grown ordered found
              have line : Known (decls.parents arena shape).2
                  (waiting ++ (decls.parents arena shape).1) :=
                known_append.2 ⟨above.known_of knownRest, above.known⟩
              have walked := ih (grown.trans above.grows) above.ordered (shape.name :: seen) line
              rw [meaning_append, above.means, above.means_of ordered knownRest] at walked
              have walked := walked.later above.grows
              generalize decls.lineageFrom visits (decls.parents arena shape).2
                (shape.name :: seen) (waiting ++ (decls.parents arena shape).1) = result at walked ⊢
              obtain ⟨answer, after⟩ := result
              rcases walked.split with ⟨reason, rfl, failed⟩ | ⟨types, rest, rfl, succeeded, listed⟩
              · rw [failed] at walked ⊢
                exact walked
              · rw [succeeded]
                exact (listed.cons ordered knownType).ok

/-- The lineage of a type yields the lineage of its tree. -/
theorem lineage_yields (known : arena.Knows type) :
    arena.Yields (decls.lineage arena type) (decls.lineageTrees base (arena.tree type)) :=
  lineageFrom_yields declsKnown decls.lineageSteps grown ordered []
    (show Known arena [type] by simpa [Known] using known)

/-! ### Access -/

omit grown ordered declsKnown in
theorem any_name_eq {types : List TypeId} (ordered : arena.Ordered) (known : Known arena types)
    (name : String) :
    (types.any fun above => arena.qualifiedName above = name) =
      (meaning arena types).any fun above => above.name = name := by
  show _ = List.any (types.map arena.tree) _
  rw [List.any_map, Bool.eq_iff_iff, List.any_eq_true, List.any_eq_true]
  refine exists_congr fun above => and_congr_right fun isAbove => ?_
  rw [TypeArena.qualifiedName_eq ordered (known above isAbove)]
  rfl

theorem inheritsFrom_yields (site : CallSite) (declaring : String) :
    arena.Yields (decls.inheritsFrom arena site declaring)
      (decls.inheritsTree base site declaring) := by
  rw [inheritsFrom, inheritsTree]
  cases site.enclosing with
  | none => exact ⟨TypeArena.GrowsTo.refl _, ordered, trivial, rfl⟩
  | some enclosing =>
      have stored := TypeArena.classType_yields ordered enclosing
      simp only
      generalize arena.classType enclosing [] = plain at stored ⊢
      obtain ⟨type, between⟩ := plain
      have tree : between.tree type = ⟨.classType, enclosing, [], 0⟩ := stored.means
      have walked := lineage_yields declsKnown (grown.trans stored.grows) stored.ordered stored.known
      rw [tree] at walked
      have walked := walked.later stored.grows
      simp only
      generalize decls.lineage between type = result at walked ⊢
      obtain ⟨answer, after⟩ := result
      rcases walked.split with ⟨reason, rfl, failed⟩ | ⟨types, trees, rfl, succeeded, listed⟩
      · rw [failed]
        exact ⟨walked.grows, walked.ordered, trivial, rfl⟩
      · rw [succeeded, ← listed.means]
        exact ⟨walked.grows, walked.ordered, trivial, any_name_eq listed.ordered listed.known _⟩

theorem permits_yields (site : CallSite) (declaring : String) (visibility : Visibility) :
    arena.Yields (decls.permits arena site declaring visibility)
      (decls.permitsTree base site declaring visibility) := by
  cases visibility with
  | everywhere => exact ⟨TypeArena.GrowsTo.refl _, ordered, trivial, rfl⟩
  | packageOnly => exact ⟨TypeArena.GrowsTo.refl _, ordered, trivial, rfl⟩
  | outermostOnly => exact ⟨TypeArena.GrowsTo.refl _, ordered, trivial, rfl⟩
  | packageAndHeirs =>
      rw [permits, permitsTree]
      cases inPackageOf site declaring with
      | true => exact ⟨TypeArena.GrowsTo.refl _, ordered, trivial, rfl⟩
      | false => exact inheritsFrom_yields declsKnown grown ordered site declaring

/-! ### Members -/

omit grown ordered declsKnown in
/-- Parameters whose types have been asked for. -/
theorem parameters_meaning {params : List Parameter} {types : List TypeId}
    {seen : Parameter → TypeTree} (same : meaning arena types = params.map seen) :
    (params.zip types).map (fun entry => TreeParameter.mk entry.1.name (arena.tree entry.2)) =
      params.map fun param => ⟨param.name, seen param⟩ := by
  induction params generalizing types with
  | nil => rfl
  | cons param params ih =>
      cases types with
      | nil => simp [meaning] at same
      | cons type types =>
          obtain ⟨first, rest⟩ := List.cons.inj same
          rw [List.zip_cons_cons, List.map_cons, List.map_cons, ih rest]
          exact congrArg (fun tree => TreeParameter.mk param.name tree :: _) first

theorem memberOf_yields (found : arena.shape? type = some shape) (site : CallSite)
    {params : List TypeId} (knownParams : Known base params) {hidden : List Signature}
    (knownHidden : Known arena hidden) {decl : MemberDecl} (knownDecl : Known base decl.params)
    (knownResult : base.Knows decl.result) :
    arena.Yields (decls.memberOf site params type shape hidden arena decl)
      (decls.memberTree base site params (arena.tree type) (meaning arena hidden) decl) := by
  have name : (arena.tree type).name = shape.name := by
    rw [TypeArena.tree_of_shape? ordered found, TypeArena.treeOf]
  have knownTypes : Known base (decl.params.map (·.type)) := by
    intro part isPart
    obtain ⟨param, isParam, rfl⟩ := List.mem_map.1 isPart
    exact knownDecl param isParam
  have typesAsked := threadMap_yields_seenFrom grown ordered found knownParams knownTypes
  have signatureTypes : (paramTrees base (arena.tree type) params decl).map (·.type) =
      (decl.params.map (·.type)).map (seenFrom base (arena.tree type) params) := by
    simp only [paramTrees, List.map_map]
    rfl
  rw [memberOf, memberTree, signatureTypes]
  generalize threadMap (fun arena type => arena.instantiate params shape.args type) arena
    (decl.params.map (·.type)) = asked at typesAsked ⊢
  obtain ⟨types, afterTypes⟩ := asked
  -- the signature is hidden exactly when its meaning is
  have hides := @mem_meaning_iff Signature _ _ afterTypes typesAsked.ordered hidden
    ⟨decl.kind, decl.name, types⟩ (typesAsked.known_of knownHidden) typesAsked.known
  rw [typesAsked.means_of ordered knownHidden] at hides
  have signature : meaning afterTypes (Signature.mk decl.kind decl.name types) =
      (decl.kind, decl.name, (decl.params.map (·.type)).map
        (seenFrom base (arena.tree type) params)) :=
    congrArg (fun trees => (decl.kind, decl.name, trees)) typesAsked.means
  rw [signature] at hides
  simp only
  by_cases isHidden : Signature.mk decl.kind decl.name types ∈ hidden
  · rw [if_pos isHidden, if_pos (hides.2 isHidden)]
    exact ⟨typesAsked.grows, typesAsked.ordered, by simp [Known], rfl⟩
  · rw [if_neg isHidden, if_neg (fun isThere => isHidden (hides.1 isThere))]
    have resultAsked := instantiate_yields_seenFrom grown ordered found knownParams knownResult
      typesAsked.grows typesAsked.ordered
    generalize afterTypes.instantiate params shape.args decl.result = asked at resultAsked ⊢
    obtain ⟨result, afterResult⟩ := asked
    have grownResult := typesAsked.grows.trans resultAsked.grows
    have permitted := permits_yields declsKnown (grown.trans grownResult) resultAsked.ordered site
      shape.name decl.visibility
    simp only
    generalize decls.permits afterResult site shape.name decl.visibility = asked at permitted ⊢
    obtain ⟨accessible, after⟩ := asked
    have knownTypes : Known after types :=
      permitted.known_of (resultAsked.known_of typesAsked.known)
    have typeTrees : meaning after types = decl.params.map fun param =>
        seenFrom base (arena.tree type) params param.type := by
      rw [permitted.means_of resultAsked.ordered (resultAsked.known_of typesAsked.known),
        resultAsked.means_of typesAsked.ordered typesAsked.known, typesAsked.means, List.map_map]
      rfl
    have grows := grownResult.trans permitted.grows
    have knownType := TypeArena.knows_of_shape? found
    refine ⟨grows, permitted.ordered, ?_, ?_⟩
    · rintro member ⟨⟩
      refine ⟨grows.knows knownType, ?_, permitted.known_of resultAsked.known⟩
      intro param isParam
      obtain ⟨entry, isEntry, rfl⟩ := List.mem_map.1 isParam
      exact knownTypes _ (List.of_mem_zip isEntry).2
    · have ownerTree := TypeArena.tree_of_growsTo ordered grows knownType
      have resultTree : after.tree result = seenFrom base (arena.tree type) params decl.result :=
        (permitted.means_of resultAsked.ordered resultAsked.known).trans resultAsked.means
      have paramsTree : meaning after
          ((decl.params.zip types).map fun entry => Parameter.mk entry.1.name entry.2) =
            paramTrees base (arena.tree type) params decl := by
        rw [paramTrees, ← parameters_meaning typeTrees]
        exact List.map_map
      have permission : accessible =
          decls.permitsTree base site (arena.tree type).name decl.visibility := by
        rw [name]
        exact permitted.means
      show some (TreeMember.mk _ _ _ _ _ _ _) = some (TreeMember.mk _ _ _ _ _ _ _)
      rw [ownerTree, resultTree, ← paramsTree, ← permission]

theorem ownMembers_yields (site : CallSite) {hidden : List Signature}
    (knownHidden : Known arena hidden) (known : arena.Knows type) :
    arena.Yields (decls.ownMembers site hidden arena type)
      (decls.ownMemberTrees base site (meaning arena hidden) (arena.tree type)) := by
  obtain ⟨shape, found, same⟩ := TypeArena.shape?_eq_some ordered known
  have name : (arena.tree type).name = shape.name := by rw [same, TypeArena.treeOf]
  rw [ownMembers, ownMemberTrees, found, name]
  simp only
  cases declared : decls.find? shape.name with
  | none => exact TypeArena.Yields.nil ordered
  | some decl =>
      have knownDecl := declsKnown.find? declared
      have asked : arena.Yields
          (threadMap (decls.memberOf site decl.params type shape hidden) arena decl.members)
          (decl.members.map
            (decls.memberTree base site decl.params (arena.tree type) (meaning arena hidden))) := by
        refine TypeArena.threadMap_yields ordered ?_
        intro member isMember between grows orderedBetween
        obtain ⟨knownParams, knownResult⟩ := knownDecl.members member isMember
        have one := memberOf_yields declsKnown (grown.trans grows) orderedBetween
          (TypeArena.shape?_of_growsTo grows found) site knownDecl.params
          (known_of_growsTo grows knownHidden) knownParams knownResult
        rwa [TypeArena.tree_of_growsTo ordered grows known,
          meaning_of_growsTo ordered grows knownHidden] at one
      have present := asked.present
      rw [List.filterMap_map] at present
      exact present

omit grown ordered declsKnown in
theorem signatures_meaning (members : List Member) :
    meaning arena (members.map Member.signature) =
      (meaning arena members).map TreeMember.signature := by
  show (members.map Member.signature).map (meaning arena) =
    (members.map (meaning arena)).map TreeMember.signature
  rw [List.map_map, List.map_map]
  refine List.map_congr_left ?_
  intro member isMember
  show (_, _, List.map _ (List.map _ _)) = (_, _, List.map _ (List.map _ _))
  rw [List.map_map, List.map_map]
  rfl

omit grown ordered in
theorem gatherMembers_yields (site : CallSite) {owners : List TypeId} {arena : TypeArena}
    (grown : base.GrowsTo arena) (ordered : arena.Ordered) {hidden : List Signature}
    (knownHidden : Known arena hidden) (known : Known arena owners) :
    arena.Yields (decls.gatherMembers site hidden arena owners)
      (decls.gatherMemberTrees base site (meaning arena hidden) (meaning arena owners)) := by
  induction owners generalizing arena hidden with
  | nil => exact TypeArena.Yields.nil ordered
  | cons owner owners ih =>
      obtain ⟨knownOwner, knownRest⟩ := known_cons.1 known
      have own := ownMembers_yields declsKnown grown ordered site knownHidden knownOwner
      rw [gatherMembers, meaning_cons, meaning_type, gatherMemberTrees]
      simp only
      generalize decls.ownMembers site hidden arena owner = asked at own ⊢
      obtain ⟨members, between⟩ := asked
      have knownSignatures : Known between (members.map Member.signature) := by
        intro signature isThere
        obtain ⟨member, isMember, rfl⟩ := List.mem_map.1 isThere
        intro part isPart
        obtain ⟨param, isParam, rfl⟩ := List.mem_map.1 isPart
        exact (own.known member isMember).2.1 param isParam
      have rest := ih (grown.trans own.grows) own.ordered
        (known_append.2 ⟨own.known_of knownHidden, knownSignatures⟩) (own.known_of knownRest)
      rw [meaning_append, signatures_meaning, own.means, own.means_of ordered knownHidden,
        own.means_of ordered knownRest] at rest
      have all := (rest.prepend own.ordered own.known).later own.grows
      rw [own.means] at all
      exact all

/-- The members of a type yield the members of its tree. -/
theorem members_yields (known : arena.Knows type) (site : CallSite) :
    arena.Yields (decls.members arena type site)
      (decls.memberTrees base (arena.tree type) site) := by
  obtain ⟨shape, found, same⟩ := TypeArena.shape?_eq_some ordered known
  have dims : (arena.tree type).dims = shape.dims := by rw [same, TypeArena.treeOf]
  have kind : (arena.tree type).kind = shape.kind := by rw [same, TypeArena.treeOf]
  rw [members, memberTrees, found, dims, kind]
  simp only
  split
  · have int := TypeArena.primitive_yields ordered "int"
    generalize arena.primitive "int" = asked at int ⊢
    obtain ⟨int', after⟩ := asked
    have knownField : Known after (Member.ofField type "length" int') :=
      ⟨int.grows.knows known, known_nil, int.known⟩
    have field : arena.Yields ([Member.ofField type "length" int'], after)
        [meaning after (Member.ofField type "length" int')] :=
      ⟨int.grows, int.ordered, known_singleton.2 knownField, rfl⟩
    have tree : meaning after (Member.ofField type "length" int') =
        ⟨arena.tree type, "length", .field, [], ⟨.primitive, "int", [], 0⟩, false, true⟩ := by
      rw [← TypeArena.tree_of_growsTo ordered int.grows known, ← int.means]
      rfl
    rw [tree] at field
    exact field.ok
  · split
    · exact (TypeArena.Yields.nil ordered).ok
    · have walked := lineage_yields declsKnown grown ordered known
      generalize decls.lineage arena type = result at walked ⊢
      obtain ⟨answer, between⟩ := result
      rcases walked.split with ⟨reason, rfl, failed⟩ | ⟨types, trees, rfl, succeeded, listed⟩
      · rw [failed] at walked ⊢
        exact ⟨walked.grows, walked.ordered, by rintro members ⟨⟩, rfl⟩
      · have gathered := gatherMembers_yields declsKnown site (grown.trans listed.grows)
          listed.ordered known_nil listed.known
        rw [listed.means] at gathered
        rw [succeeded]
        exact (gathered.later listed.grows).ok

end Questions

end Declarations

end ChainCompletion
