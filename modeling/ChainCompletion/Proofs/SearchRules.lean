/-
# Proofs.SearchRules -- the chains that a search should find

The rules of a search say which chains there are, without a frontier, limits or a
state.  A place is reached by a trail: the number of a root, and for each access the
place of its member among the candidates.  From a place that is reached

* a candidate whose result fits the target completes a chain, if the typed text
  selects it, and is not followed;
* a candidate whose result does not fit is followed, if the chain may still grow;
* a candidate of which that cannot be told, and a place whose members cannot be
  found, lead nowhere.

`Rules.Reaches` and `Rules.Records` are these rules as relations; `Rules.enumerate`
lists what they allow level by level.  Both depend on arenas only through `Looks`, the
arena in which each place is looked at; which one that is, a tour through all places settles
(`Request.looks`).

* `Rules.mem_enumerate_firstSpots`: the listed chains are those that the rules allow;
* `Rules.nodup_enumerate`: no trail is listed twice;
* `Rules.enumerate_by_length`: shorter chains come first.
-/
import ChainCompletion.Proofs.SearchSteps
import Mathlib.Data.List.Flatten
import Mathlib.Data.List.Infix
import Mathlib.Data.List.Nodup

namespace ChainCompletion.Search

set_option autoImplicit false

/-- How a place is reached: the number of its root, counting the roots and then the
companions, and the place of each member followed among the candidates. -/
abbrev Trail := List Nat

/-- The arena in which the place at the end of each trail is looked at. -/
abbrev Looks := Trail → TypeArena

/-- A node together with the trail to it. -/
structure Spot where
  trail : Trail
  node : Node

/-- What the rules of a search depend on. -/
structure Rules where
  /-- The members of a type. -/
  members : TypeId → Except LookupError (List Member)
  /-- Whether a type fits the target. -/
  fits : TypeId → Except LookupError Bool
  /-- The typed text, folded. -/
  typed : List Char

/-- The rules of a request whose questions have these answers. -/
def Request.rules (request : Request) (answers : Answers) : Rules where
  members type := answers.members type request.callSite
  fits type := answers.assignable type request.target
  typed := foldName request.typed

namespace Rules

variable (rules : Rules)

/-- What a node offers in an arena. -/
def choices (arena : TypeArena) (node : Node) : List Member :=
  match rules.members node.type with
  | .error _ => []
  | .ok members => node.choices arena members

/-- Whether a candidate completes a chain. -/
def completes (node : Node) (member : Member) : Bool :=
  match rules.fits member.result with
  | .ok true => matchesTyped rules.typed node.root member
  | _ => false

/-- Whether a candidate is followed. -/
def follows (node : Node) (member : Member) : Bool :=
  match rules.fits member.result with
  | .ok false => node.mayExtend member
  | _ => false

/-- The chain that a candidate of a spot completes, with its trail. -/
def found (spot : Spot) (choice : Member × Nat) : Option (Trail × Chain) :=
  if rules.completes spot.node choice.1 then
    some (spot.trail ++ [choice.2], spot.node.complete choice.1)
  else none

/-- The spot that a candidate of a spot leads to. -/
def led (spot : Spot) (choice : Member × Nat) : Option Spot :=
  if rules.follows spot.node choice.1 then
    some ⟨spot.trail ++ [choice.2], spot.node.extend choice.1⟩
  else none

/-- The chains that end right after a spot, in order. -/
def finds (arena : TypeArena) (spot : Spot) : List (Trail × Chain) :=
  (rules.choices arena spot.node).zipIdx.filterMap (rules.found spot)

/-- The spots one access after a spot, in order. -/
def leads (arena : TypeArena) (spot : Spot) : List Spot :=
  (rules.choices arena spot.node).zipIdx.filterMap (rules.led spot)

/-- The chains of at most `depth` more accesses after the spots of a level: first those
with one access more, spot by spot, then those of the next level. -/
def enumerate (looks : Looks) : Nat → List Spot → List (Trail × Chain)
  | 0, _ => []
  | depth + 1, spots =>
      spots.flatMap (fun spot => rules.finds (looks spot.trail) spot) ++
        enumerate looks depth (spots.flatMap fun spot => rules.leads (looks spot.trail) spot)

/-- The places that can be reached from the nodes of a first round: a candidate is followed
whose result does not fit the target, if the chain stays within its bound and the type has not
occurred on the way. -/
inductive Reaches (looks : Looks) (first : List Node) : Trail → Node → Prop
  | root {place : Nat} {node : Node} (numbered : first[place]? = some node) :
      Reaches looks first [place] node
  | follow {trail : Trail} {node : Node} {place : Nat} {member : Member}
      (reached : Reaches looks first trail node)
      (offered : (rules.choices (looks trail) node)[place]? = some member)
      (unfit : rules.fits member.result = .ok false)
      (short : node.path.length + 1 < node.bound)
      (isNew : member.result ∉ node.root.type :: node.path.map (·.member.result)) :
      Reaches looks first (trail ++ [place]) (node.extend member)

/-- The chains that can be completed from the nodes of a first round: by a candidate whose result
fits the target, if the typed text selects it. -/
inductive Records (looks : Looks) (first : List Node) : Trail → Chain → Prop
  | complete {trail : Trail} {node : Node} {place : Nat} {member : Member}
      (reached : rules.Reaches looks first trail node)
      (offered : (rules.choices (looks trail) node)[place]? = some member)
      (fits : rules.fits member.result = .ok true)
      (selected : matchesTyped rules.typed node.root member = true) :
      Records looks first (trail ++ [place]) (node.complete member)

end Rules

/-- The nodes of a first round, numbered. -/
def firstSpots (nodes : List Node) : List Spot :=
  nodes.zipIdx.map fun entry => ⟨[entry.2], entry.1⟩

namespace Rules

variable {rules : Rules} {looks : Looks} {first : List Node}

/-! ## One spot -/

theorem completes_iff {node : Node} {member : Member} :
    rules.completes node member = true ↔
      rules.fits member.result = .ok true ∧ matchesTyped rules.typed node.root member = true := by
  rw [completes]
  split
  · next fits => simp [fits]
  · next other =>
      simp only [Bool.false_eq_true, false_iff]
      exact fun both => other both.1

theorem follows_iff {node : Node} {member : Member} :
    rules.follows node member = true ↔
      rules.fits member.result = .ok false ∧ node.path.length + 1 < node.bound ∧
        member.result ∉ node.root.type :: node.path.map (·.member.result) := by
  have passed : node.hasPassed member.result = false ↔
      member.result ∉ node.root.type :: node.path.map (·.member.result) := by
    simp [Node.hasPassed, @eq_comm _ node.root.type]
  rw [follows]
  split
  · next unfit => simp [unfit, Node.mayExtend, passed]
  · next other =>
      simp only [Bool.false_eq_true, false_iff]
      exact fun all => other all.1

theorem mem_finds {arena : TypeArena} {spot : Spot} {trail : Trail} {chain : Chain} :
    (trail, chain) ∈ rules.finds arena spot ↔
      ∃ place member, (rules.choices arena spot.node)[place]? = some member ∧
        rules.completes spot.node member = true ∧ trail = spot.trail ++ [place] ∧
        chain = spot.node.complete member := by
  simp only [finds, List.mem_filterMap, Prod.exists, List.mem_zipIdx_iff_getElem?, found]
  constructor
  · rintro ⟨member, place, offered, holds⟩
    split at holds
    · next completed =>
        simp only [Option.some.injEq, Prod.mk.injEq] at holds
        exact ⟨place, member, offered, completed, holds.1.symm, holds.2.symm⟩
    · simp at holds
  · rintro ⟨place, member, offered, completed, rfl, rfl⟩
    exact ⟨member, place, offered, by simp [completed]⟩

theorem mem_leads {arena : TypeArena} {spot after : Spot} :
    after ∈ rules.leads arena spot ↔
      ∃ place member, (rules.choices arena spot.node)[place]? = some member ∧
        rules.follows spot.node member = true ∧
        after = ⟨spot.trail ++ [place], spot.node.extend member⟩ := by
  simp only [leads, List.mem_filterMap, Prod.exists, List.mem_zipIdx_iff_getElem?, led]
  constructor
  · rintro ⟨member, place, offered, holds⟩
    split at holds
    · next followed =>
        simp only [Option.some.injEq] at holds
        exact ⟨place, member, offered, followed, holds.symm⟩
    · simp at holds
  · rintro ⟨place, member, offered, followed, rfl⟩
    exact ⟨member, place, offered, by simp [followed]⟩

/-- A trail is one longer than the path that it stands for. -/
theorem Reaches.length_eq {trail : Trail} {node : Node}
    (reached : rules.Reaches looks first trail node)
    (roots : ∀ root ∈ first, root.path = []) : trail.length = node.path.length + 1 := by
  induction reached with
  | root numbered => simp [roots _ (List.mem_of_getElem? numbered)]
  | follow reached offered unfit short isNew ih => simp [Node.extend, Node.pathTo, ih]

/-- No trail is empty. -/
theorem Reaches.length_pos {trail : Trail} {node : Node}
    (reached : rules.Reaches looks first trail node) : 0 < trail.length := by
  cases reached with
  | root numbered => simp
  | follow reached offered unfit short isNew => simp

/-! ## Levels -/

/-- Whether spots are all those that a number of accesses leads to. -/
def IsLevel (rules : Rules) (looks : Looks) (first : List Node) (number : Nat)
    (spots : List Spot) : Prop :=
  ∀ spot, spot ∈ spots ↔
    rules.Reaches looks first spot.trail spot.node ∧ spot.trail.length = number + 1

theorem isLevel_firstSpots : IsLevel rules looks first 0 (firstSpots first) := by
  intro spot
  simp only [firstSpots, List.mem_map, Prod.exists, List.mem_zipIdx_iff_getElem?]
  constructor
  · rintro ⟨node, place, numbered, rfl⟩
    exact ⟨.root numbered, rfl⟩
  · rintro ⟨reached, short⟩
    obtain ⟨trail, node⟩ := spot
    cases reached with
    | root numbered => exact ⟨_, _, numbered, rfl⟩
    | follow reached offered unfit within isNew =>
        have long := reached.length_pos
        simp only [List.append_eq, List.length_append, List.length_singleton] at short
        omega

/-- What the spots of a level lead to is the next level. -/
theorem IsLevel.next {number : Nat} {spots : List Spot}
    (level : IsLevel rules looks first number spots) :
    IsLevel rules looks first (number + 1)
      (spots.flatMap fun spot => rules.leads (looks spot.trail) spot) := by
  intro after
  simp only [List.mem_flatMap, mem_leads]
  constructor
  · rintro ⟨spot, isHere, place, member, offered, followed, rfl⟩
    obtain ⟨reached, length⟩ := (level spot).1 isHere
    obtain ⟨unfit, short, isNew⟩ := follows_iff.1 followed
    exact ⟨.follow reached offered unfit short isNew, by simp [length]⟩
  · rintro ⟨reached, length⟩
    obtain ⟨trail, node⟩ := after
    cases reached with
    | root numbered => simp at length
    | follow reached offered unfit short isNew =>
        simp only [List.append_eq, List.length_append, List.length_singleton,
          Nat.add_right_cancel_iff] at length
        exact ⟨⟨_, _⟩, (level _).2 ⟨reached, length⟩, _, _, offered,
          follows_iff.2 ⟨unfit, short, isNew⟩, rfl⟩

/-- The chains found at the spots of a level are those with one access more. -/
theorem IsLevel.mem_finds_iff {number : Nat} {spots : List Spot}
    (level : IsLevel rules looks first number spots) {trail : Trail} {chain : Chain} :
    (trail, chain) ∈ spots.flatMap (fun spot => rules.finds (looks spot.trail) spot) ↔
      rules.Records looks first trail chain ∧ trail.length = number + 2 := by
  simp only [List.mem_flatMap, mem_finds]
  constructor
  · rintro ⟨spot, isHere, place, member, offered, completed, rfl, rfl⟩
    obtain ⟨reached, length⟩ := (level spot).1 isHere
    obtain ⟨fits, selected⟩ := completes_iff.1 completed
    exact ⟨.complete reached offered fits selected, by simp [length]⟩
  · rintro ⟨recorded, length⟩
    cases recorded with
    | complete reached offered fits selected =>
        simp only [List.length_append, List.length_singleton, Nat.add_right_cancel_iff] at length
        exact ⟨⟨_, _⟩, (level _).2 ⟨reached, length⟩, _, _, offered,
          completes_iff.2 ⟨fits, selected⟩, rfl, rfl⟩

/-- The chains listed from a level on are those that the rules allow, up to a length. -/
theorem IsLevel.mem_enumerate_iff {number depth : Nat} {spots : List Spot}
    (level : IsLevel rules looks first number spots) {trail : Trail} {chain : Chain} :
    (trail, chain) ∈ rules.enumerate looks depth spots ↔
      rules.Records looks first trail chain ∧ number + 2 ≤ trail.length ∧
        trail.length ≤ number + 1 + depth := by
  induction depth generalizing number spots with
  | zero =>
      simp only [enumerate, List.not_mem_nil, false_iff]
      rintro ⟨-, long, short⟩
      omega
  | succ depth ih =>
      rw [enumerate, List.mem_append, level.mem_finds_iff, ih level.next]
      constructor
      · rintro (⟨recorded, length⟩ | ⟨recorded, long, short⟩)
        · exact ⟨recorded, by omega, by omega⟩
        · exact ⟨recorded, by omega, by omega⟩
      · rintro ⟨recorded, long, short⟩
        by_cases here : trail.length = number + 2
        · exact Or.inl ⟨recorded, here⟩
        · exact Or.inr ⟨recorded, by omega, by omega⟩

/-- No place is further away than a search has rounds. -/
theorem Reaches.length_lt {request : Request} {limits : Limits} {trail : Trail} {node : Node}
    (reached : rules.Reaches looks (request.firstNodes limits) trail node) :
    node.bound ≤ limits.maxDepth ∧ node.path.length < limits.rounds := by
  induction reached with
  | root numbered =>
      have isFirst := List.mem_of_getElem? numbered
      have some : 0 < limits.rounds := Nat.lt_of_lt_of_le Nat.one_pos (Nat.le_max_left _ _)
      simp only [Request.firstNodes, List.mem_append, List.mem_map] at isFirst
      rcases isFirst with ⟨root, -, rfl⟩ | ⟨root, -, rfl⟩
      · exact ⟨Nat.le_refl _, some⟩
      · exact ⟨Nat.min_le_left _ _, some⟩
  | @follow trail node place member reached offered unfit short isNew ih =>
      simp only [Node.extend, Node.pathTo, List.length_append, List.length_singleton, Limits.rounds]
      omega

theorem path_of_mem_firstNodes {request : Request} {limits : Limits} {root : Node}
    (isFirst : root ∈ request.firstNodes limits) : root.path = [] := by
  simp only [Request.firstNodes, List.mem_append, List.mem_map] at isFirst
  rcases isFirst with ⟨binding, -, rfl⟩ | ⟨binding, -, rfl⟩ <;> rfl

/-- The chains listed from the roots and companions are those that the rules allow. -/
theorem mem_enumerate_firstSpots {request : Request} {limits : Limits} {trail : Trail}
    {chain : Chain} :
    (trail, chain) ∈ rules.enumerate looks limits.rounds
        (firstSpots (request.firstNodes limits)) ↔
      rules.Records looks (request.firstNodes limits) trail chain := by
  rw [isLevel_firstSpots.mem_enumerate_iff]
  constructor
  · exact fun listed => listed.1
  · intro recorded
    refine ⟨recorded, ?_⟩
    cases recorded with
    | complete reached offered fits selected =>
        have length := reached.length_eq fun root isFirst => path_of_mem_firstNodes isFirst
        have bound := reached.length_lt.2
        simp only [List.length_append, List.length_singleton]
        omega

/-! ## Once each -/

/-- Lists of things whose trails go on from those of different spots, each in its own
way, join without repeating a trail. -/
theorem nodup_flatMap_trails {α : Type} {spots : List Spot} {items : Spot → List α}
    {trailOf : α → Trail} (unique : (spots.map Spot.trail).Nodup)
    (each : ∀ spot ∈ spots, ((items spot).map trailOf).Nodup)
    (continues : ∀ spot ∈ spots, ∀ item ∈ items spot, ∃ place,
      trailOf item = spot.trail ++ [place]) :
    ((spots.flatMap items).map trailOf).Nodup := by
  rw [List.map_flatMap, List.nodup_flatMap]
  refine ⟨each, ?_⟩
  have apart : spots.Pairwise fun one other => one.trail ≠ other.trail := List.pairwise_map.1 unique
  refine apart.imp_of_mem ?_
  intro one other isOne isOther differ trail inOne inOther
  obtain ⟨item, isItem, rfl⟩ := List.mem_map.1 inOne
  obtain ⟨twin, isTwin, same⟩ := List.mem_map.1 inOther
  obtain ⟨place, here⟩ := continues one isOne item isItem
  obtain ⟨place', there⟩ := continues other isOther twin isTwin
  rw [here, there, List.append_singleton_inj] at same
  exact differ same.1.symm

/-- A choice by place gives no trail twice. -/
theorem nodup_filterMap_zipIdx {α : Type} {members : List Member} (trail : Trail)
    {keep : Member × Nat → Option α} {trailOf : α → Trail}
    (placed : ∀ choice item, keep choice = some item → trailOf item = trail ++ [choice.2]) :
    ((members.zipIdx.filterMap keep).map trailOf).Nodup := by
  have places : (members.zipIdx.map Prod.snd).Nodup := by
    rw [List.zipIdx_map_snd]
    exact List.nodup_range' ..
  rw [List.Nodup, List.pairwise_map, List.pairwise_filterMap]
  refine (List.pairwise_map.1 places).imp ?_
  intro choice other differ item isItem twin isTwin same
  rw [placed choice item isItem, placed other twin isTwin, List.append_singleton_inj] at same
  exact differ same.2

theorem nodup_firstSpots (nodes : List Node) : ((firstSpots nodes).map Spot.trail).Nodup := by
  have places : (nodes.zipIdx.map Prod.snd).Nodup := by
    rw [List.zipIdx_map_snd]
    exact List.nodup_range' ..
  rw [firstSpots, List.map_map, List.Nodup, List.pairwise_map]
  refine (List.pairwise_map.1 places).imp ?_
  intro choice other differ same
  simp only [Function.comp, List.cons.injEq, and_true] at same
  exact differ same

theorem nodup_finds {spots : List Spot} (unique : (spots.map Spot.trail).Nodup) :
    ((spots.flatMap fun spot => rules.finds (looks spot.trail) spot).map Prod.fst).Nodup := by
  refine nodup_flatMap_trails unique (fun spot _ => nodup_filterMap_zipIdx spot.trail ?_) ?_
  · intro choice item kept
    rw [found] at kept
    split at kept
    · simp [← Option.some.inj kept]
    · simp at kept
  · rintro spot - ⟨trail, chain⟩ isFound
    obtain ⟨place, member, -, -, same, -⟩ := mem_finds.1 isFound
    exact ⟨place, same⟩

theorem nodup_leads {spots : List Spot} (unique : (spots.map Spot.trail).Nodup) :
    ((spots.flatMap fun spot => rules.leads (looks spot.trail) spot).map Spot.trail).Nodup := by
  refine nodup_flatMap_trails unique (fun spot _ => nodup_filterMap_zipIdx spot.trail ?_) ?_
  · intro choice item kept
    rw [led] at kept
    split at kept
    · simp [← Option.some.inj kept]
    · simp at kept
  · rintro spot - after isLed
    obtain ⟨place, member, -, -, same⟩ := mem_leads.1 isLed
    exact ⟨place, by rw [same]⟩

/-- No trail is listed twice. -/
theorem nodup_enumerate {number depth : Nat} {spots : List Spot}
    (level : IsLevel rules looks first number spots)
    (unique : (spots.map Spot.trail).Nodup) :
    ((rules.enumerate looks depth spots).map Prod.fst).Nodup := by
  induction depth generalizing number spots with
  | zero => simp [enumerate]
  | succ depth ih =>
      rw [enumerate, List.map_append, List.nodup_append]
      refine ⟨nodup_finds unique, ih level.next (nodup_leads unique), ?_⟩
      -- trails found on this level are shorter than all later ones
      rintro trail here other later same
      obtain ⟨⟨_, chain⟩, isHere, rfl⟩ := List.mem_map.1 here
      obtain ⟨⟨_, chain'⟩, isLater, rfl⟩ := List.mem_map.1 later
      have short := (level.mem_finds_iff.1 isHere).2
      have long := (level.next.mem_enumerate_iff.1 isLater).2.1
      simp only at same
      subst same
      omega

/-! ## Shorter chains first -/

/-- A trail has one number more than its chain has accesses. -/
theorem Records.length_eq {trail : Trail} {chain : Chain}
    (recorded : rules.Records looks first trail chain)
    (roots : ∀ root ∈ first, root.path = []) : trail.length = chain.length + 1 := by
  cases recorded with
  | complete reached offered fits selected =>
      have length := reached.length_eq roots
      simp [Chain.length, Node.complete, Node.pathTo, length]

/-- Chains are listed by length. -/
theorem enumerate_by_length {number depth : Nat} {spots : List Spot}
    (level : IsLevel rules looks first number spots) :
    (rules.enumerate looks depth spots).Pairwise fun one other =>
      one.1.length ≤ other.1.length := by
  induction depth generalizing number spots with
  | zero => simp [enumerate]
  | succ depth ih =>
      rw [enumerate, List.pairwise_append]
      refine ⟨?_, ih level.next, ?_⟩
      · refine List.pairwise_of_forall_mem_list ?_
        rintro ⟨trail, chain⟩ isHere ⟨other, chain'⟩ isThere
        rw [(level.mem_finds_iff.1 isHere).2, (level.mem_finds_iff.1 isThere).2]
      · rintro ⟨trail, chain⟩ isHere ⟨other, chain'⟩ isLater
        have short := (level.mem_finds_iff.1 isHere).2
        have long := (level.next.mem_enumerate_iff.1 isLater).2.1
        show trail.length ≤ other.length
        omega

/-! ## No spots, other arenas -/

@[simp] theorem enumerate_nil (depth : Nat) : rules.enumerate looks depth [] = [] := by
  induction depth with
  | zero => rfl
  | succ depth ih => simpa [enumerate] using ih

/-- A list from a level on depends only on the arenas of trails as long as those of the
level or longer. -/
theorem enumerate_congr {looks' : Looks} (length : Nat) {depth : Nat} {spots : List Spot}
    (same : ∀ trail : Trail, length < trail.length → looks trail = looks' trail)
    (long : ∀ spot ∈ spots, length < spot.trail.length) :
    rules.enumerate looks depth spots = rules.enumerate looks' depth spots := by
  induction depth generalizing spots with
  | zero => rfl
  | succ depth ih =>
      have found : spots.flatMap (fun spot => rules.finds (looks spot.trail) spot) =
          spots.flatMap (fun spot => rules.finds (looks' spot.trail) spot) :=
        List.flatMap_congr fun spot isHere => by rw [same _ (long spot isHere)]
      have led : spots.flatMap (fun spot => rules.leads (looks spot.trail) spot) =
          spots.flatMap (fun spot => rules.leads (looks' spot.trail) spot) :=
        List.flatMap_congr fun spot isHere => by rw [same _ (long spot isHere)]
      rw [enumerate, enumerate, found, led]
      rw [ih]
      intro after isLater
      obtain ⟨spot, isHere, isLed⟩ := List.mem_flatMap.1 isLater
      obtain ⟨place, member, -, -, rfl⟩ := mem_leads.1 isLed
      have shorter := long spot isHere
      simp only [List.length_append, List.length_singleton]
      omega

/-- Arenas for trails up to a length, and others for longer ones. -/
def joinLooks (length : Nat) (early late : Looks) : Looks := fun trail =>
  if trail.length ≤ length then early trail else late trail

/-- A list whose first level is looked at in some arenas and the rest in others. -/
theorem enumerate_joinLooks {early late : Looks} {length depth : Nat} {spots : List Spot}
    (level : ∀ spot ∈ spots, spot.trail.length = length) :
    rules.enumerate (joinLooks length early late) (depth + 1) spots =
      spots.flatMap (fun spot => rules.finds (early spot.trail) spot) ++
        rules.enumerate late depth
          (spots.flatMap fun spot => rules.leads (early spot.trail) spot) := by
  have here : ∀ spot ∈ spots, joinLooks length early late spot.trail = early spot.trail := by
    intro spot isHere
    simp [joinLooks, level spot isHere]
  have found : spots.flatMap
      (fun spot => rules.finds (joinLooks length early late spot.trail) spot) =
      spots.flatMap fun spot => rules.finds (early spot.trail) spot :=
    List.flatMap_congr fun spot isHere => by rw [here spot isHere]
  have led : spots.flatMap
      (fun spot => rules.leads (joinLooks length early late spot.trail) spot) =
      spots.flatMap fun spot => rules.leads (early spot.trail) spot :=
    List.flatMap_congr fun spot isHere => by rw [here spot isHere]
  rw [enumerate, found, led]
  congr 1
  refine enumerate_congr length ?_ ?_
  · intro trail long
    simp [joinLooks, Nat.not_le.2 long]
  · intro after isLater
    obtain ⟨spot, isHere, isLed⟩ := List.mem_flatMap.1 isLater
    obtain ⟨place, member, -, -, rfl⟩ := mem_leads.1 isLed
    simp [level spot isHere]

end Rules

end ChainCompletion.Search
