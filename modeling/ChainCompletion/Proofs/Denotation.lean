/-
# Proofs.Denotation -- answers by trees

Answers mention types by number, and the numbers depend on what came up before.  What an
answer says is what remains when each type is replaced by its tree: its meaning
(`Denotes.meaning`).  It does not change when the arena grows, and tells different things
apart.

A question that may store types `Yields` a meaning when it leads to an arena in order that
has grown, with an answer that is known there and has this meaning.  Each operation of an
arena yields what the same operation on trees gives (`store_yields`, `addDims_yields`,
`component?_yields`, `elementType_yields`), and questions asked one after the other yield the
list of what each of them yields (`threadMap_yields`).
-/
import ChainCompletion.Chain
import ChainCompletion.Proofs.TypeTrees
import ChainCompletion.Thread

namespace ChainCompletion

set_option autoImplicit false

/-- Things that mention types by number.  Their meaning has trees in place of numbers. -/
class Denotes (α : Type) (β : outParam Type) where
  /-- Whether all types that are mentioned are known. -/
  Known : TypeArena → α → Prop
  meaning : TypeArena → α → β
  known_of_growsTo : ∀ {before after : TypeArena} {thing : α},
    before.GrowsTo after → Known before thing → Known after thing
  meaning_of_growsTo : ∀ {before after : TypeArena} {thing : α},
    before.Ordered → before.GrowsTo after → Known before thing →
      meaning after thing = meaning before thing
  meaning_inj : ∀ {arena : TypeArena} {thing other : α},
    arena.Ordered → Known arena thing → Known arena other →
      meaning arena thing = meaning arena other → thing = other

open Denotes

instance : Denotes TypeId TypeTree where
  Known arena type := arena.Knows type
  meaning arena type := arena.tree type
  known_of_growsTo grows known := grows.knows known
  meaning_of_growsTo := TypeArena.tree_of_growsTo
  meaning_inj := TypeArena.tree_inj

instance : Denotes Bool Bool where
  Known _ _ := True
  meaning _ answer := answer
  known_of_growsTo _ known := known
  meaning_of_growsTo _ _ _ := rfl
  meaning_inj _ _ _ same := same

theorem meaning_type (arena : TypeArena) (type : TypeId) : meaning arena type = arena.tree type := rfl

section Instances

variable {α β γ δ ε : Type} [Denotes α β] [Denotes γ δ]

instance : Denotes (List α) (List β) where
  Known arena things := ∀ thing ∈ things, Known arena thing
  meaning arena things := things.map (meaning arena)
  known_of_growsTo grows known thing isThere := known_of_growsTo grows (known thing isThere)
  meaning_of_growsTo ordered grows known :=
    List.map_congr_left fun thing isThere => meaning_of_growsTo ordered grows (known thing isThere)
  meaning_inj ordered known known' same :=
    map_inj_of_forall_mem (fun thing isThere other isThere' =>
      meaning_inj ordered (known thing isThere) (known' other isThere')) same

instance : Denotes (α × γ) (β × δ) where
  Known arena pair := Known arena pair.1 ∧ Known arena pair.2
  meaning arena pair := (meaning arena pair.1, meaning arena pair.2)
  known_of_growsTo grows known :=
    ⟨known_of_growsTo grows known.1, known_of_growsTo grows known.2⟩
  meaning_of_growsTo ordered grows known := by
    rw [meaning_of_growsTo ordered grows known.1, meaning_of_growsTo ordered grows known.2]
  meaning_inj ordered known known' same := by
    obtain ⟨first, second⟩ := Prod.mk.inj same
    exact Prod.ext (meaning_inj ordered known.1 known'.1 first)
      (meaning_inj ordered known.2 known'.2 second)

instance : Denotes (Option α) (Option β) where
  Known arena thing? := ∀ thing ∈ thing?, Known arena thing
  meaning arena thing? := thing?.map (meaning arena)
  known_of_growsTo grows known thing isThere := known_of_growsTo grows (known thing isThere)
  meaning_of_growsTo ordered grows known :=
    Option.map_congr fun thing isThere => meaning_of_growsTo ordered grows (known thing isThere)
  meaning_inj {arena thing? other?} ordered known known' same := by
    cases thing? with
    | none =>
        cases other? with
        | none => rfl
        | some other => simp at same
    | some thing =>
        cases other? with
        | none => simp at same
        | some other =>
            rw [meaning_inj ordered (known thing rfl) (known' other rfl) (Option.some.inj same)]

instance : Denotes (Except ε α) (Except ε β) where
  Known arena answer := ∀ thing, answer = .ok thing → Known arena thing
  meaning arena answer := answer.map (meaning arena)
  known_of_growsTo grows known thing isThere := known_of_growsTo grows (known thing isThere)
  meaning_of_growsTo {before after answer} ordered grows known := by
    cases answer with
    | error error => rfl
    | ok thing => exact congrArg Except.ok (meaning_of_growsTo ordered grows (known thing rfl))
  meaning_inj {arena answer other} ordered known known' same := by
    cases answer with
    | error error =>
        cases other with
        | error error' => simpa [Except.map] using same
        | ok thing' => simp [Except.map] at same
    | ok thing =>
        cases other with
        | error error' => simp [Except.map] at same
        | ok thing' =>
            have same : meaning arena thing = meaning arena thing' := Except.ok.inj same
            rw [meaning_inj ordered (known thing rfl) (known' thing' rfl) same]

end Instances

section Lists

variable {α β : Type} [Denotes α β] {arena : TypeArena}

theorem known_append {first second : List α} :
    Known arena (first ++ second) ↔ Known arena first ∧ Known arena second :=
  List.forall_mem_append

theorem known_cons {thing : α} {things : List α} :
    Known arena (thing :: things) ↔ Known arena thing ∧ Known arena things :=
  List.forall_mem_cons

theorem known_nil : Known arena ([] : List α) :=
  List.forall_mem_nil _

theorem known_singleton {thing : α} : Known arena [thing] ↔ Known arena thing :=
  List.forall_mem_singleton

theorem meaning_append {first second : List α} :
    meaning arena (first ++ second) = meaning arena first ++ meaning arena second :=
  List.map_append

theorem meaning_cons {thing : α} {things : List α} :
    meaning arena (thing :: things) = meaning arena thing :: meaning arena things :=
  rfl

/-- Choosing among things by what they mean is choosing among their meanings. -/
theorem meaning_filter {things : List α} {keep : α → Bool} {keep' : β → Bool}
    (agree : ∀ thing ∈ things, keep thing = keep' (meaning arena thing)) :
    meaning arena (things.filter keep) = (meaning arena things).filter keep' := by
  show List.map _ _ = List.filter _ (List.map _ _)
  rw [List.filter_map]
  exact congrArg _ (List.filter_congr agree)

theorem known_filter {things : List α} (known : Known arena things) (keep : α → Bool) :
    Known arena (things.filter keep) :=
  fun thing isThere => known thing (List.mem_filter.1 isThere).1

/-- What is made of things is made of their meanings. -/
theorem map_eq_map_meaning {ι : Type} {things : List α} {make : α → ι} {make' : β → ι}
    (agree : ∀ thing ∈ things, make thing = make' (meaning arena thing)) :
    things.map make = (meaning arena things).map make' := by
  show _ = List.map _ (List.map _ _)
  rw [List.map_map]
  exact List.map_congr_left agree

end Lists

section Lookup

variable {α β γ δ : Type} [Denotes α β] [Denotes γ δ] {arena : TypeArena}

/-- A list holds a thing when its meaning holds the thing's. -/
theorem mem_meaning_iff (ordered : arena.Ordered) {things : List α} {thing : α}
    (known : Known arena things) (knownThing : Known arena thing) :
    meaning arena thing ∈ meaning arena things ↔ thing ∈ things := by
  constructor
  · intro isThere
    obtain ⟨other, isOther, same⟩ := List.mem_map.1 isThere
    rw [← meaning_inj ordered (known other isOther) knownThing same]
    exact isOther
  · exact List.mem_map_of_mem

theorem mem_of_lookup {κ ν : Type} [BEq κ] [LawfulBEq κ] {table : List (κ × ν)} {key : κ} {value : ν}
    (found : table.lookup key = some value) : (key, value) ∈ table := by
  obtain ⟨early, late, split, -⟩ := List.lookup_eq_some_iff.1 found
  simp [split]

/-- What is found under a key is found under its meaning. -/
theorem lookup_meaning [BEq α] [LawfulBEq α] [BEq β] [LawfulBEq β]
    (ordered : arena.Ordered) {table : List (α × γ)} {key : α} (known : Known arena table)
    (knownKey : Known arena key) :
    (meaning arena table).lookup (meaning arena key) =
      (table.lookup key).map (meaning arena) := by
  induction table with
  | nil => rfl
  | cons entry table ih =>
      obtain ⟨other, value⟩ := entry
      have knownOther : Known arena other := (known (other, value) (by simp)).1
      have rest := ih fun entry isThere => known entry (by simp [isThere])
      show List.lookup (meaning arena key)
        ((meaning arena other, meaning arena value) :: meaning arena table) = _
      rw [List.lookup_cons, List.lookup_cons, rest]
      by_cases same : key = other
      · subst same
        simp
      · have differ : meaning arena key ≠ meaning arena other := fun equal =>
          same (meaning_inj ordered knownKey knownOther equal)
        simp [beq_eq_false_iff_ne.2 same, beq_eq_false_iff_ne.2 differ]

end Lookup

/-! ## Members, bindings and chains -/

/-- A parameter with the tree of its type. -/
structure TreeParameter where
  name : Option String
  type : TypeTree
  deriving DecidableEq

instance : Denotes Parameter TreeParameter where
  Known arena param := arena.Knows param.type
  meaning arena param := ⟨param.name, arena.tree param.type⟩
  known_of_growsTo grows known := grows.knows known
  meaning_of_growsTo ordered grows known := by
    rw [TypeArena.tree_of_growsTo ordered grows known]
  meaning_inj {arena param other} ordered known known' same := by
    obtain ⟨name, type⟩ := param
    obtain ⟨name', type'⟩ := other
    simp only [TreeParameter.mk.injEq] at same
    obtain ⟨rfl, sameType⟩ := same
    obtain rfl : type = type' := TypeArena.tree_inj ordered known known' sameType
    rfl

/-- A member with trees for its types. -/
structure TreeMember where
  owner : TypeTree
  name : String
  kind : MemberKind
  params : List TreeParameter
  result : TypeTree
  isStatic : Bool
  accessible : Bool
  deriving DecidableEq

instance : Denotes Member TreeMember where
  Known arena member :=
    arena.Knows member.owner ∧ Known arena member.params ∧ arena.Knows member.result
  meaning arena member :=
    ⟨arena.tree member.owner, member.name, member.kind, meaning arena member.params,
      arena.tree member.result, member.isStatic, member.accessible⟩
  known_of_growsTo grows known :=
    ⟨grows.knows known.1, known_of_growsTo grows known.2.1, grows.knows known.2.2⟩
  meaning_of_growsTo ordered grows known := by
    rw [TypeArena.tree_of_growsTo ordered grows known.1,
      TypeArena.tree_of_growsTo ordered grows known.2.2, meaning_of_growsTo ordered grows known.2.1]
  meaning_inj {arena member other} ordered known known' same := by
    obtain ⟨owner, name, kind, params, result, isStatic, accessible⟩ := member
    obtain ⟨owner', name', kind', params', result', isStatic', accessible'⟩ := other
    simp only [TreeMember.mk.injEq] at same
    obtain ⟨sameOwner, rfl, rfl, sameParams, sameResult, rfl, rfl⟩ := same
    obtain rfl : owner = owner' := TypeArena.tree_inj ordered known.1 known'.1 sameOwner
    obtain rfl : params = params' := meaning_inj ordered known.2.1 known'.2.1 sameParams
    obtain rfl : result = result' := TypeArena.tree_inj ordered known.2.2 known'.2.2 sameResult
    rfl

/-- A binding with the tree of its type. -/
structure TreeBinding where
  name : String
  type : TypeTree
  kind : BindingKind
  needsThis : Bool
  deriving DecidableEq

instance : Denotes Binding TreeBinding where
  Known arena binding := arena.Knows binding.type
  meaning arena binding :=
    ⟨binding.name, arena.tree binding.type, binding.kind, binding.needsThis⟩
  known_of_growsTo grows known := grows.knows known
  meaning_of_growsTo ordered grows known := by
    rw [TypeArena.tree_of_growsTo ordered grows known]
  meaning_inj {arena binding other} ordered known known' same := by
    obtain ⟨name, type, kind, needsThis⟩ := binding
    obtain ⟨name', type', kind', needsThis'⟩ := other
    simp only [TreeBinding.mk.injEq] at same
    obtain ⟨rfl, sameType, rfl, rfl⟩ := same
    obtain rfl : type = type' := TypeArena.tree_inj ordered known known' sameType
    rfl

instance : Denotes Access (TreeMember × TypeTree) where
  Known arena access := Known arena access.member ∧ arena.Knows access.receiver
  meaning arena access := (meaning arena access.member, arena.tree access.receiver)
  known_of_growsTo grows known := ⟨known_of_growsTo grows known.1, grows.knows known.2⟩
  meaning_of_growsTo ordered grows known := by
    rw [meaning_of_growsTo ordered grows known.1, TypeArena.tree_of_growsTo ordered grows known.2]
  meaning_inj {arena access other} ordered known known' same := by
    obtain ⟨member, receiver⟩ := access
    obtain ⟨member', receiver'⟩ := other
    obtain ⟨sameMember, sameReceiver⟩ := Prod.mk.inj same
    obtain rfl : member = member' := meaning_inj ordered known.1 known'.1 sameMember
    obtain rfl : receiver = receiver' := TypeArena.tree_inj ordered known.2 known'.2 sameReceiver
    rfl

/-- A chain with trees for its types. -/
structure TreeChain where
  root : TreeBinding
  accesses : List (TreeMember × TypeTree)
  result : TypeTree
  deriving DecidableEq

instance : Denotes Chain TreeChain where
  Known arena chain :=
    Known arena chain.root ∧ Known arena chain.accesses ∧ arena.Knows chain.result
  meaning arena chain :=
    ⟨meaning arena chain.root, meaning arena chain.accesses, arena.tree chain.result⟩
  known_of_growsTo grows known :=
    ⟨known_of_growsTo grows known.1, known_of_growsTo grows known.2.1, grows.knows known.2.2⟩
  meaning_of_growsTo ordered grows known := by
    rw [meaning_of_growsTo ordered grows known.1, meaning_of_growsTo ordered grows known.2.1,
      TypeArena.tree_of_growsTo ordered grows known.2.2]
  meaning_inj {arena chain other} ordered known known' same := by
    obtain ⟨root, accesses, result⟩ := chain
    obtain ⟨root', accesses', result'⟩ := other
    simp only [TreeChain.mk.injEq] at same
    obtain rfl : root = root' := meaning_inj ordered known.1 known'.1 same.1
    obtain rfl : accesses = accesses' := meaning_inj ordered known.2.1 known'.2.1 same.2.1
    obtain rfl : result = result' := TypeArena.tree_inj ordered known.2.2 known'.2.2 same.2.2
    rfl

/-! ## Questions -/

/-- Whether a thing is known and has this meaning. -/
structure TypeArena.Means {α β : Type} [Denotes α β] (arena : TypeArena) (thing : α) (value : β) :
    Prop where
  known : Known arena thing
  eq : meaning arena thing = value

/-- Whether a question asked in the arena `before`, with this result, is answered with this
meaning. -/
structure TypeArena.Yields {α β : Type} [Denotes α β] (before : TypeArena)
    (result : α × TypeArena) (value : β) : Prop where
  grows : before.GrowsTo result.2
  ordered : result.2.Ordered
  known : Known result.2 result.1
  means : meaning result.2 result.1 = value

namespace TypeArena

variable {α β γ δ : Type} [Denotes α β] [Denotes γ δ]

namespace Means

variable {before after arena : TypeArena}

/-- Things keep their meaning. -/
theorem of_growsTo {thing : α} {value : β} (means : before.Means thing value)
    (ordered : before.Ordered) (grows : before.GrowsTo after) : after.Means thing value :=
  ⟨known_of_growsTo grows means.known,
    (meaning_of_growsTo ordered grows means.known).trans means.eq⟩

theorem append {things more : List α} {values others : List β} (means : arena.Means things values)
    (rest : arena.Means more others) : arena.Means (things ++ more) (values ++ others) := by
  refine ⟨known_append.2 ⟨means.known, rest.known⟩, ?_⟩
  rw [meaning_append, means.eq, rest.eq]

theorem nil : arena.Means ([] : List α) ([] : List β) := ⟨known_nil, rfl⟩

theorem singleton {thing : α} {value : β} (means : arena.Means thing value) :
    arena.Means [thing] [value] :=
  ⟨known_singleton.2 means.known, congrArg (· :: []) means.eq⟩

end Means

namespace Yields

variable {before middle : TypeArena} {result : α × TypeArena} {value : β}

/-- An answer that is there already. -/
theorem here (ordered : before.Ordered) {thing : α} (known : Known before thing) :
    before.Yields (thing, before) (meaning before thing) :=
  ⟨GrowsTo.refl _, ordered, known, rfl⟩

/-- A question asked later. -/
theorem later (asked : middle.Yields result value) (grows : before.GrowsTo middle) :
    before.Yields result value :=
  ⟨grows.trans asked.grows, asked.ordered, asked.known, asked.means⟩

theorem known_of (asked : before.Yields result value) {thing : γ} (known : Known before thing) :
    Known result.2 thing :=
  known_of_growsTo asked.grows known

theorem means_of (asked : before.Yields result value) (ordered : before.Ordered) {thing : γ}
    (known : Known before thing) : meaning result.2 thing = meaning before thing :=
  meaning_of_growsTo ordered asked.grows known

theorem nil (ordered : before.Ordered) : before.Yields (([] : List α), before) ([] : List β) :=
  ⟨GrowsTo.refl _, ordered, known_nil, rfl⟩

/-- Things that were there before the question, and then its answers. -/
theorem prepend {items first : List α} {after : TypeArena} {values : List β}
    (asked : before.Yields (items, after) values) (ordered : before.Ordered)
    (known : Known before first) :
    before.Yields (first ++ items, after) (meaning before first ++ values) := by
  refine ⟨asked.grows, asked.ordered, known_append.2 ⟨asked.known_of known, asked.known⟩, ?_⟩
  show meaning after (first ++ items) = _
  rw [meaning_append, ← asked.means, asked.means_of ordered known]

theorem cons {items : List α} {after : TypeArena} {values : List β} {thing : α}
    (asked : before.Yields (items, after) values) (ordered : before.Ordered)
    (known : Known before thing) :
    before.Yields (thing :: items, after) (meaning before thing :: values) :=
  @prepend _ _ _ _ items [thing] after values asked ordered (known_singleton.2 known)

theorem none (ordered : before.Ordered) : before.Yields ((none : Option α), before) none :=
  ⟨GrowsTo.refl _, ordered, by rintro thing ⟨⟩, rfl⟩

theorem some (asked : before.Yields result value) :
    before.Yields (some result.1, result.2) (some value) := by
  refine ⟨asked.grows, asked.ordered, ?_, congrArg Option.some asked.means⟩
  rintro thing ⟨⟩
  exact asked.known

/-- The answers that are there. -/
theorem present {things : List (Option α)} {after : TypeArena} {values : List (Option β)}
    (asked : before.Yields (things, after) values) :
    before.Yields (things.filterMap id, after) (values.filterMap id) := by
  refine ⟨asked.grows, asked.ordered, ?_, ?_⟩
  · intro thing isThere
    obtain ⟨thing?, isAnswer, isThing⟩ := List.mem_filterMap.1 isThere
    exact asked.known thing? isAnswer thing isThing
  · rw [← asked.means]
    show (things.filterMap id).map (meaning after) =
      (things.map (Option.map (meaning after))).filterMap id
    rw [List.map_filterMap, List.filterMap_map]
    rfl

theorem error {ε : Type} (ordered : before.Ordered) (reason : ε) :
    before.Yields ((.error reason : Except ε α), before) (.error reason : Except ε β) :=
  ⟨GrowsTo.refl _, ordered, by rintro thing ⟨⟩, rfl⟩

theorem ok {ε : Type} (asked : before.Yields result value) :
    before.Yields ((.ok result.1 : Except ε α), result.2) (.ok value : Except ε β) := by
  refine ⟨asked.grows, asked.ordered, ?_, congrArg Except.ok asked.means⟩
  rintro thing ⟨⟩
  exact asked.known

/-- A question that may fail fails with its meaning. -/
theorem split {ε : Type} {answer : Except ε α} {after : TypeArena} {outcome : Except ε β}
    (asked : before.Yields (answer, after) outcome) :
    (∃ reason, answer = .error reason ∧ outcome = .error reason) ∨
      ∃ thing value, answer = .ok thing ∧ outcome = .ok value ∧ before.Yields (thing, after) value := by
  obtain ⟨grows, ordered, known, rfl⟩ := asked
  cases answer with
  | error reason => exact Or.inl ⟨reason, rfl, rfl⟩
  | ok thing => exact Or.inr ⟨thing, _, rfl, rfl, grows, ordered, known thing rfl, rfl⟩

end Yields

/-- Questions asked one after the other yield the list of their answers. -/
theorem threadMap_yields {ι : Type} {ask : TypeArena → ι → α × TypeArena} {value : ι → β}
    {items : List ι} {start : TypeArena} (ordered : start.Ordered)
    (each : ∀ item ∈ items, ∀ arena, start.GrowsTo arena → arena.Ordered →
      arena.Yields (ask arena item) (value item)) :
    start.Yields (threadMap ask start items) (items.map value) := by
  induction items generalizing start with
  | nil => exact Yields.nil ordered
  | cons item items ih =>
      have first := each item (by simp) start (GrowsTo.refl _) ordered
      have rest := ih first.ordered fun other isThere arena grows =>
        each other (by simp [isThere]) arena (first.grows.trans grows)
      have both := (rest.cons first.ordered first.known).later first.grows
      rw [first.means] at both
      exact both

/-! ## Operations of an arena -/

variable {arena : TypeArena} {type : TypeId}

/-- A shape whose arguments are known can be stored, and its type has its tree. -/
theorem store_yields (ordered : arena.Ordered) {shape : TypeShape}
    (known : Known arena shape.args) : arena.Yields (arena.store shape) (arena.treeOf shape) := by
  have grows := store_growsTo arena shape
  have stored := shape?_store arena shape
  have after : (arena.store shape).2.Ordered := by
    refine ⟨Pool.nodup_add ordered.distinct shape, ?_⟩
    show ∀ entry ∈ (arena.shapes.add shape).2.values.zipIdx, _
    rw [Pool.add]
    split
    · exact ordered.older
    · intro entry isThere arg isArg
      rw [List.zipIdx_append, List.mem_append] at isThere
      rcases isThere with isOld | isLast
      · exact ordered.older entry isOld arg isArg
      · simp only [Nat.zero_add, List.zipIdx_singleton, List.mem_singleton] at isLast
        subst isLast
        exact known arg isArg
  refine ⟨grows, after, knows_of_shape? stored, ?_⟩
  show tree _ _ = _
  rw [tree_of_shape? after stored, treeOf, treeOf]
  congr 1
  exact meaning_of_growsTo ordered grows known

/-- A shape can be stored once its arguments have been asked for. -/
theorem Yields.store {result : List TypeId × TypeArena} {trees : List TypeTree}
    (asked : arena.Yields result trees) (kind : TypeKind) (name : String) (dims : Nat) :
    arena.Yields (result.2.store ⟨kind, name, result.1, dims⟩) ⟨kind, name, trees, dims⟩ := by
  have stored := @store_yields result.2 asked.ordered ⟨kind, name, result.1, dims⟩ asked.known
  rw [← asked.means]
  exact stored.later asked.grows

theorem classType_yields (ordered : arena.Ordered) (name : String) :
    arena.Yields (arena.classType name []) (⟨.classType, name, [], 0⟩ : TypeTree) :=
  (Yields.nil ordered).store .classType name 0

theorem primitive_yields (ordered : arena.Ordered) (name : String) :
    arena.Yields (arena.primitive name) (⟨.primitive, name, [], 0⟩ : TypeTree) :=
  (Yields.nil ordered).store .primitive name 0

/-- A known type with other dimensions can be stored. -/
theorem store_withDims_yields (ordered : arena.Ordered) {shape : TypeShape}
    (found : arena.shape? type = some shape) (dims : Nat) :
    arena.Yields (arena.store { shape with dims := dims }) { arena.tree type with dims := dims } := by
  rw [tree_of_shape? ordered found]
  refine store_yields ordered ?_
  intro arg isArg
  exact ordered.knows_arg found isArg

theorem addDims_yields (ordered : arena.Ordered) (known : arena.Knows type) (dims : Nat) :
    arena.Yields (arena.addDims type dims) ((arena.tree type).addDims dims) := by
  obtain ⟨shape, found, same⟩ := shape?_eq_some ordered known
  have dimensions : (arena.tree type).dims = shape.dims := by rw [same, treeOf]
  rw [addDims, found, TypeTree.addDims, dimensions]
  exact store_withDims_yields ordered found _

theorem elementType_yields (ordered : arena.Ordered) (known : arena.Knows type) :
    arena.Yields (arena.elementType type) (arena.tree type).element := by
  obtain ⟨shape, found, same⟩ := shape?_eq_some ordered known
  rw [elementType, found]
  by_cases flat : shape.dims = 0
  · have unchanged : (arena.tree type).element = arena.tree type := by
      rw [same, treeOf, flat, TypeTree.element]
    simp only [flat, if_true, unchanged]
    exact Yields.here ordered known
  · simp only [flat, if_false]
    exact store_withDims_yields ordered found 0

theorem component?_yields (ordered : arena.Ordered) (known : arena.Knows type) :
    arena.Yields (arena.component? type) (arena.tree type).component? := by
  obtain ⟨shape, found, same⟩ := shape?_eq_some ordered known
  have dimensions : (arena.tree type).dims = shape.dims := by rw [same, treeOf]
  rw [TypeArena.component?, found, TypeTree.component?, dimensions]
  simp only
  cases shape.dims with
  | zero => exact Yields.none ordered
  | succ dims => exact (store_withDims_yields ordered found dims).some

end TypeArena

end ChainCompletion
