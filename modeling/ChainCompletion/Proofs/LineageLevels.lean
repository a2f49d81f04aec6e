/-
# Proofs.LineageLevels -- a lineage goes up level by level

Parameters that are type variables and supertypes that are classes (`Declarations.PlainIn`)
leave no doubt about names: whatever arguments flow down, the names above a type are those of
the supertypes that the declaration of its name lists (`map_name_above`).  So names have a
distance from the name of a type (`IsAway`): the least number of steps up that leads to them.

The line of a walk is in two parts: what is as far up as the type that is looked at, and,
behind it, what is one step further.  All that is nearer has been seen (`Band`).  Hence a type
that is listed is exactly as far up as its part of the line (`Band.isAway`), and the walk
lists names by distance (`Lists.levels`).

* `lineage_climbs_by_level`: the walk ends; it fails exactly if an unresolved name lies above;
  otherwise it lists the type and all that is above it, every name once and the nearest first.
-/
import ChainCompletion.Proofs.LineageWalks
import Mathlib.Data.List.Forall2

namespace ChainCompletion

open Denotes

set_option autoImplicit false

/-- The sort of a type, unless it is unknown. -/
def TypeArena.kind? (arena : TypeArena) (type : TypeId) : Option TypeKind :=
  (arena.shape? type).map (·.kind)

/-- Whether the parameters of a declaration are type variables and its supertypes classes. -/
structure ClassDecl.PlainIn (decl : ClassDecl) (arena : TypeArena) : Prop where
  params : ∀ param ∈ decl.params, arena.kind? param = some .typeVariable
  supertypes : ∀ supertype ∈ decl.supertypes, arena.kind? supertype = some .classType

instance (decl : ClassDecl) (arena : TypeArena) : Decidable (decl.PlainIn arena) :=
  decidable_of_iff
    ((∀ param ∈ decl.params, arena.kind? param = some .typeVariable) ∧
      ∀ supertype ∈ decl.supertypes, arena.kind? supertype = some .classType)
    ⟨fun both => ⟨both.1, both.2⟩, fun plain => ⟨plain.params, plain.supertypes⟩⟩

theorem TypeArena.kind_tree {arena : TypeArena} (ordered : arena.Ordered) {type : TypeId}
    {kind : TypeKind} (sort : arena.kind? type = some kind) : (arena.tree type).kind = kind := by
  obtain ⟨shape, found, rfl⟩ := Option.map_eq_some_iff.1 sort
  rw [tree_of_shape? ordered found, treeOf]

theorem ClassDecl.PlainIn.areVariables {decl : ClassDecl} {arena : TypeArena}
    (plain : decl.PlainIn arena) (ordered : arena.Ordered) :
    ∀ param ∈ meaning arena decl.params, param.kind = .typeVariable := by
  intro param isParam
  obtain ⟨part, isPart, rfl⟩ := List.mem_map.1 isParam
  exact TypeArena.kind_tree ordered (plain.params part isPart)

namespace Declarations

open TypeArena

/-- Whether all declarations have type variables for parameters and classes for supertypes. -/
def PlainIn (decls : Declarations) (arena : TypeArena) : Prop :=
  ∀ entry ∈ decls.types, entry.2.PlainIn arena

instance (decls : Declarations) (arena : TypeArena) : Decidable (decls.PlainIn arena) :=
  inferInstanceAs (Decidable (∀ entry ∈ decls.types, entry.2.PlainIn arena))

section Names

variable (decls : Declarations) (arena : TypeArena)

/-- The names of the supertypes that the declaration of a name lists. -/
def namesAbove (name : String) : List String :=
  match decls.find? name with
  | none => []
  | some decl => decl.supertypes.map arena.qualifiedName

/-- The names that a number of steps up leads to. -/
def namesAfter (start : String) : Nat → List String
  | 0 => [start]
  | steps + 1 => (namesAfter start steps).flatMap (decls.namesAbove arena)

/-- Whether a number of steps up leads to a name, and no smaller number does. -/
def IsAway (start : String) (steps : Nat) (name : String) : Prop :=
  name ∈ decls.namesAfter arena start steps ∧
    ∀ fewer < steps, name ∉ decls.namesAfter arena start fewer

end Names

variable {decls : Declarations} {base last : TypeArena}

section Plain

variable (declsKnown : decls.KnownIn base) (plain : decls.PlainIn base)
  (grown : base.GrowsTo last) (ordered : last.Ordered)

include declsKnown plain grown ordered

/-- The names above a type follow from its own. -/
theorem map_name_above {type : TypeId} (known : last.Knows type)
    (stored : Known last (decls.above last type)) :
    (decls.above last type).map last.qualifiedName =
      decls.namesAbove base (last.qualifiedName type) := by
  obtain ⟨shape, found⟩ := knows_iff.1 known
  rw [above, found] at stored ⊢
  rw [qualifiedName_of_shape? found, namesAbove]
  simp only at stored ⊢
  cases declared : decls.find? shape.name with
  | none => rfl
  | some decl =>
      have knownDecl := declsKnown.find? declared
      have plainDecl : decl.PlainIn base := plain _ (mem_of_lookup declared)
      have orderedBase := ordered.of_growsTo grown
      simp only [declared] at stored ⊢
      rw [List.map_map]
      refine List.map_congr_left ?_
      intro supertype isSupertype
      have asked := instantiate_yields_seenFrom grown ordered found knownDecl.params
        (knownDecl.supertypes supertype isSupertype) (GrowsTo.refl last) ordered
      have knownResult := stored _ (List.mem_map_of_mem isSupertype)
      have isClass := kind_tree orderedBase (plainDecl.supertypes supertype isSupertype)
      have kept := (TypeTree.instantiate_keeps (plainDecl.areVariables orderedBase) (by rw [isClass]; decide)
        (last.tree type).args).2.1
      show last.qualifiedName (last.instantiate decl.params shape.args supertype).1 = _
      rw [qualifiedName_eq ordered knownResult, asked.tree_eq ordered knownResult, seenFrom, kept,
        qualifiedName_eq orderedBase (knownDecl.supertypes supertype isSupertype)]

end Plain

/-! ## Two parts of a line -/

/-- Whether a line is what is `level` steps up and was not seen, and what is one step further,
all that is nearer having been seen. -/
structure Band (decls : Declarations) (base last : TypeArena) (start : String)
    (seen : List String) (now next : List TypeId) (level : Nat) : Prop where
  here : ∀ type ∈ now, last.qualifiedName type ∈ decls.namesAfter base start level
  further : ∀ type ∈ next, last.qualifiedName type ∈ decls.namesAfter base start (level + 1)
  passed : ∀ fewer < level, ∀ name ∈ decls.namesAfter base start fewer, name ∈ seen
  within : ∀ name ∈ decls.namesAfter base start level,
    name ∈ seen ∨ name ∈ now.map last.qualifiedName
  closed : ∀ name ∈ seen, ∀ supername ∈ decls.namesAbove base name,
    supername ∈ seen ∨ supername ∈ (now ++ next).map last.qualifiedName

namespace Band

variable {start : String} {seen : List String} {now next : List TypeId} {level : Nat}
  {type : TypeId}

theorem init (type : TypeId) (name : last.qualifiedName type = start) :
    decls.Band base last start [] [type] [] 0 where
  here other isThere := by
    rw [List.mem_singleton.1 isThere, name]
    exact List.mem_singleton_self _
  further other isThere := by cases isThere
  passed fewer less := by omega
  within other isStart := by
    rw [namesAfter, List.mem_singleton] at isStart
    simp [isStart, name]
  closed other isSeen := by cases isSeen

/-- When the first part is used up, the second takes its place. -/
theorem shift (band : decls.Band base last start seen [] next level) :
    decls.Band base last start seen next [] (level + 1) := by
  have allSeen : ∀ name ∈ decls.namesAfter base start level, name ∈ seen := by
    intro name isThere
    rcases band.within name isThere with isSeen | isNow
    · exact isSeen
    · cases isNow
  refine ⟨band.further, by simp, ?_, ?_, ?_⟩
  · intro fewer less name isThere
    rcases Nat.lt_succ_iff_lt_or_eq.1 less with nearer | rfl
    · exact band.passed fewer nearer name isThere
    · exact allSeen name isThere
  · intro name isThere
    rw [namesAfter] at isThere
    obtain ⟨below, isBelow, isAbove⟩ := List.mem_flatMap.1 isThere
    exact band.closed below (allSeen below isBelow) name isAbove
  · intro name isSeen supername isAbove
    rw [List.append_nil]
    exact band.closed name isSeen supername isAbove

/-- The first type of a line stands in its first part, now or after a shift. -/
theorem front (band : decls.Band base last start seen now next level) {waiting : List TypeId}
    (line : type :: waiting = now ++ next) :
    ∃ now' next' level', level ≤ level' ∧ waiting = now' ++ next' ∧
      decls.Band base last start seen (type :: now') next' level' := by
  cases now with
  | nil =>
      rw [List.nil_append] at line
      subst line
      exact ⟨waiting, [], level + 1, Nat.le_succ _, (List.append_nil _).symm, band.shift⟩
  | cons first now =>
      obtain ⟨rfl, rfl⟩ := List.cons.inj line
      exact ⟨now, next, level, Nat.le_refl _, rfl, band⟩

theorem skip (band : decls.Band base last start seen (type :: now) next level)
    (isSeen : last.qualifiedName type ∈ seen) : decls.Band base last start seen now next level := by
  refine ⟨?_, band.further, band.passed, ?_, ?_⟩
  · intro other isThere
    exact band.here other (List.mem_cons_of_mem _ isThere)
  · intro name isThere
    rcases band.within name isThere with old | isNow
    · exact Or.inl old
    · rcases List.mem_cons.1 isNow with rfl | isLater
      · exact Or.inl isSeen
      · exact Or.inr isLater
  · intro name isOld supername isAbove
    rcases band.closed name isOld supername isAbove with old | waits
    · exact Or.inl old
    · rcases List.mem_cons.1 waits with rfl | isLater
      · exact Or.inl isSeen
      · exact Or.inr isLater

/-- A type that was not seen is as far up as the first part of the line. -/
theorem isAway (band : decls.Band base last start seen (type :: now) next level)
    (isNew : last.qualifiedName type ∉ seen) :
    decls.IsAway base start level (last.qualifiedName type) := by
  refine ⟨band.here type List.mem_cons_self, ?_⟩
  intro fewer less isNearer
  exact isNew (band.passed fewer less _ isNearer)

/-- When a type is opened, what is above it joins the second part. -/
theorem opened (band : decls.Band base last start seen (type :: now) next level)
    {joining : List TypeId}
    (names : joining.map last.qualifiedName = decls.namesAbove base (last.qualifiedName type)) :
    decls.Band base last start (last.qualifiedName type :: seen) now (next ++ joining) level := by
  refine ⟨?_, ?_, ?_, ?_, ?_⟩
  · intro other isThere
    exact band.here other (List.mem_cons_of_mem _ isThere)
  · intro other isThere
    rcases List.mem_append.1 isThere with isOld | joins
    · exact band.further other isOld
    · rw [namesAfter]
      refine List.mem_flatMap.2 ⟨_, band.here type List.mem_cons_self, ?_⟩
      rw [← names]
      exact List.mem_map_of_mem joins
  · intro fewer less name isThere
    exact List.mem_cons_of_mem _ (band.passed fewer less name isThere)
  · intro name isThere
    rcases band.within name isThere with isOld | isNow
    · exact Or.inl (List.mem_cons_of_mem _ isOld)
    · rcases List.mem_cons.1 isNow with rfl | isLater
      · exact Or.inl List.mem_cons_self
      · exact Or.inr isLater
  · intro name isSeen supername isAbove
    rw [← List.append_assoc, List.map_append, List.mem_append]
    rcases List.mem_cons.1 isSeen with rfl | isOld
    · rw [names]
      exact Or.inr (Or.inr isAbove)
    · rcases band.closed name isOld supername isAbove with old | waits
      · exact Or.inl (List.mem_cons_of_mem _ old)
      · rcases List.mem_cons.1 waits with rfl | isLater
        · exact Or.inl List.mem_cons_self
        · exact Or.inr (Or.inl isLater)

end Band

section Plain

variable (declsKnown : decls.KnownIn base) (plain : decls.PlainIn base)
  (grown : base.GrowsTo last) (ordered : last.Ordered)

include declsKnown plain grown ordered

/-- A walk lists types by their distance. -/
theorem Lists.levels {start : String} {seen : List String} {waiting types : List TypeId}
    (lists : decls.Lists last seen waiting types) {now next : List TypeId} {level : Nat}
    (band : decls.Band base last start seen now next level) (line : waiting = now ++ next) :
    ∃ levels : List Nat,
      List.Forall₂ (fun steps type => decls.IsAway base start steps (last.qualifiedName type))
        levels types ∧
      levels.Pairwise (· ≤ ·) ∧ ∀ steps ∈ levels, level ≤ steps := by
  induction lists generalizing now next level with
  | done seen => exact ⟨[], .nil, .nil, by simp⟩
  | again isSeen rest ih =>
      obtain ⟨now', next', level', up, line', band'⟩ := band.front line
      obtain ⟨levels, away, sorted, atLeast⟩ := ih (band'.skip isSeen) line'
      exact ⟨levels, away, sorted, fun steps isThere => Nat.le_trans up (atLeast steps isThere)⟩
  | opened isKnown isNew isResolved stored rest ih =>
      obtain ⟨now', next', level', up, rfl, band'⟩ := band.front line
      have names := map_name_above declsKnown plain grown ordered isKnown stored
      obtain ⟨levels, away, sorted, atLeast⟩ := ih (band'.opened names) (List.append_assoc _ _ _)
      refine ⟨level' :: levels, .cons (band'.isAway isNew) away, ?_, ?_⟩
      · exact List.pairwise_cons.2 ⟨atLeast, sorted⟩
      · intro steps isThere
        rcases List.mem_cons.1 isThere with rfl | isLater
        · exact up
        · exact Nat.le_trans up (atLeast steps isLater)

/-- A walk that starts from a type lists every name above it. -/
theorem Lists.mem_of_namesAfter {type : TypeId} {types : List TypeId}
    (lists : decls.Lists last [] [type] types) (steps : Nat) :
    ∀ name ∈ decls.namesAfter base (last.qualifiedName type) steps,
      name ∈ types.map last.qualifiedName := by
  induction steps with
  | zero =>
      intro name isStart
      rw [List.mem_singleton.1 isStart]
      exact (lists.waiting_listed type List.mem_cons_self).resolve_left (by simp)
  | succ steps ih =>
      intro name isThere
      obtain ⟨below, isBelow, isAbove⟩ := List.mem_flatMap.1 isThere
      obtain ⟨entry, isEntry, rfl⟩ := List.mem_map.1 (ih below isBelow)
      obtain ⟨isKnown, -, stored⟩ := lists.opened_of_mem entry isEntry
      rw [← map_name_above declsKnown plain grown ordered isKnown stored] at isAbove
      obtain ⟨supertype, isSupertype, rfl⟩ := List.mem_map.1 isAbove
      exact (lists.closed entry isEntry supertype isSupertype).resolve_left (by simp)

/-- A walk breaks off at an unresolved name above where it started. -/
theorem Breaks.reached {start : String} {seen : List String} {waiting : List TypeId} {name : String}
    (breaks : decls.Breaks last seen waiting name)
    (reached : ∀ type ∈ waiting, ∃ steps,
      last.qualifiedName type ∈ decls.namesAfter base start steps) :
    name ∈ decls.unresolved ∧ ∃ steps, name ∈ decls.namesAfter base start steps := by
  induction breaks with
  | again isSeen rest ih => exact ih fun type waits => reached type (List.mem_cons_of_mem _ waits)
  | here isUnresolved waiting => exact ⟨isUnresolved, reached _ List.mem_cons_self⟩
  | @opened seen type waiting name isKnown stored rest ih =>
      obtain ⟨steps, isThere⟩ := reached type List.mem_cons_self
      have names := map_name_above declsKnown plain grown ordered isKnown stored
      apply ih
      intro other waits
      rcases List.mem_append.1 waits with isOld | joins
      · exact reached other (List.mem_cons_of_mem _ isOld)
      · refine ⟨steps + 1, List.mem_flatMap.2 ⟨_, isThere, ?_⟩⟩
        rw [← names]
        exact List.mem_map_of_mem joins

end Plain

/-- **A lineage goes up level by level.**  Take declarations whose parameters are type variables
and whose supertypes are classes, all of them known, and a known type.  The walk up from it
ends, with one result.  It fails exactly if an unresolved name lies above the type or is its
own, and then for such a name.  Otherwise it lists the type first and no name twice; every
further type is a declared supertype of one before it, as that one sees it; the name of every
supertype of a listed type is listed; and the distances from the type never fall. -/
theorem lineage_climbs_by_level {arena : TypeArena} {type : TypeId} (ordered : arena.Ordered)
    (declsKnown : decls.KnownIn arena) (plain : decls.PlainIn arena) (known : arena.Knows type) :
    let walked := decls.lineage arena type
    let start := arena.qualifiedName type
    (∀ result, decls.Walk arena [] [type] result ↔ result = walked) ∧
    ((∃ name, walked.1 = .error (.unresolvedType name)) ↔
      ∃ steps, ∃ name ∈ decls.namesAfter arena start steps, name ∈ decls.unresolved) ∧
    (∀ error, walked.1 = .error error → ∃ name ∈ decls.unresolved,
      error = .unresolvedType name ∧ ∃ steps, name ∈ decls.namesAfter arena start steps) ∧
    ∀ types, walked.1 = .ok types →
      types.head? = some type ∧
      (types.map walked.2.qualifiedName).Nodup ∧
      (∀ early entry late, types = early ++ entry :: late → early ≠ [] →
        ∃ below ∈ early, entry ∈ decls.above walked.2 below) ∧
      (∀ entry ∈ types, ∀ supertype ∈ decls.above walked.2 entry, ∃ other ∈ types,
        walked.2.qualifiedName other = walked.2.qualifiedName supertype) ∧
      ∃ levels : List Nat,
        List.Forall₂
          (fun steps entry => decls.IsAway arena start steps (walked.2.qualifiedName entry))
          levels types ∧
        levels.Pairwise (· ≤ ·) := by
  intro walked start
  have walk := decls.lineage_walk arena type
  have grown : arena.GrowsTo walked.2 := walk.growsTo
  have orderedLast : walked.2.Ordered :=
    (lineage_yields declsKnown (GrowsTo.refl _) ordered known).ordered
  have name : walked.2.qualifiedName type = start := by
    obtain ⟨shape, found⟩ := knows_iff.1 known
    show _ = arena.qualifiedName type
    rw [qualifiedName_of_shape? found, qualifiedName_of_shape? (shape?_of_growsTo grown found)]
  have outcome := lineage_outcome declsKnown orderedLast known (GrowsTo.refl _)
  have unique : ∀ result, decls.Walk arena [] [type] result ↔ result = walked :=
    fun result => ⟨walk.unique, fun same => same ▸ walk⟩
  rcases outcome with ⟨types, answer, lists⟩ | ⟨broken, answer, breaks⟩
  · have listed := lists.mem_of_namesAfter declsKnown plain grown orderedLast
    rw [name] at listed
    refine ⟨unique, ⟨?_, ?_⟩, ?_, ?_⟩
    · rintro ⟨other, failed⟩
      rw [answer] at failed
      cases failed
    · rintro ⟨steps, other, isAbove, isUnresolved⟩
      obtain ⟨entry, isEntry, rfl⟩ := List.mem_map.1 (listed steps other isAbove)
      exact absurd isUnresolved (lists.opened_of_mem entry isEntry).2.1
    · intro error failed
      rw [answer] at failed
      cases failed
    · intro others succeeded
      rw [answer] at succeeded
      obtain rfl := Except.ok.inj succeeded
      obtain ⟨levels, away, sorted, -⟩ := lists.levels declsKnown plain grown orderedLast
        (Band.init type name) rfl
      refine ⟨lists.head_eq, lists.nodup, ?_, ?_, levels, away, sorted⟩
      · intro early entry late split notFirst
        exact lists.above_earlier split notFirst
      · intro entry isEntry supertype isAbove
        have isListed := (lists.closed entry isEntry supertype isAbove).resolve_left (by simp)
        exact List.mem_map.1 isListed
  · have itself : ∀ other ∈ [type], ∃ steps,
        walked.2.qualifiedName other ∈ decls.namesAfter arena start steps := by
      intro other waits
      rw [List.mem_singleton.1 waits, name]
      exact ⟨0, List.mem_singleton_self _⟩
    obtain ⟨isUnresolved, isAbove⟩ :=
      breaks.reached declsKnown plain grown orderedLast itself
    refine ⟨unique, ⟨?_, ?_⟩, ?_, ?_⟩
    · intro
      obtain ⟨steps, isThere⟩ := isAbove
      exact ⟨steps, broken, isThere, isUnresolved⟩
    · intro
      exact ⟨broken, answer⟩
    · intro error failed
      rw [answer] at failed
      exact ⟨broken, isUnresolved, (Except.error.inj failed).symm, isAbove⟩
    · intro types succeeded
      rw [answer] at succeeded
      cases succeeded

/-- A variable `T`, the classes `A<T>`, `List<A<T>>`, `A<List<A<T>>>` and `B`, and `A<String>`
and the raw `A`. -/
def nestedArena : TypeArena :=
  ⟨⟨[⟨.typeVariable, "T", [], 0⟩, ⟨.classType, "A", [⟨0⟩], 0⟩, ⟨.classType, "List", [⟨1⟩], 0⟩,
    ⟨.classType, "A", [⟨2⟩], 0⟩, ⟨.classType, "B", [], 0⟩, ⟨.classType, "String", [], 0⟩,
    ⟨.classType, "A", [⟨5⟩], 0⟩, ⟨.classType, "A", [], 0⟩]⟩⟩

/-- `A<T> extends A<List<A<T>>>, B` and `B extends A`. -/
def nestedDecls : Declarations :=
  ⟨[("A", ⟨[⟨0⟩], [⟨3⟩, ⟨4⟩], []⟩), ("B", ⟨[], [⟨7⟩], []⟩)], []⟩

/-- Above `A<String>` types nest without end, and `B` above it has `A` above itself; the walk lists
two types. -/
theorem lineage_climbs_by_level_nested :
    nestedArena.Ordered ∧ nestedDecls.KnownIn nestedArena ∧ nestedDecls.PlainIn nestedArena ∧
    (nestedDecls.lineage nestedArena ⟨6⟩).1 = .ok [⟨6⟩, ⟨4⟩] ∧
    (∀ result, nestedDecls.Walk nestedArena [] [⟨6⟩] result ↔
      result = nestedDecls.lineage nestedArena ⟨6⟩) ∧
    ∃ levels : List Nat,
      List.Forall₂
        (fun steps entry => nestedDecls.IsAway nestedArena "A" steps
          ((nestedDecls.lineage nestedArena ⟨6⟩).2.qualifiedName entry))
        levels [⟨6⟩, ⟨4⟩] ∧
      levels.Pairwise (· ≤ ·) := by
  have ordered : nestedArena.Ordered := by decide
  have declsKnown : nestedDecls.KnownIn nestedArena := by decide
  have plain : nestedDecls.PlainIn nestedArena := by decide
  have answer : (nestedDecls.lineage nestedArena ⟨6⟩).1 = .ok [⟨6⟩, ⟨4⟩] := by decide
  have known : nestedArena.Knows ⟨6⟩ := by
    show 6 < 8
    decide
  obtain ⟨ends, -, -, lists⟩ := lineage_climbs_by_level ordered declsKnown plain known
  obtain ⟨-, -, -, -, levels⟩ := lists _ answer
  exact ⟨ordered, declsKnown, plain, answer, ends, levels⟩

end Declarations

end ChainCompletion
