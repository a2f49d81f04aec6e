/-
# Proofs.ArenaRuns -- one number for one type, however the arena came about

An arena starts empty and is asked for types one after the other (`ArenaOperation`): by
name, by shape, as arrays, entries and elements of arrays, with arguments in place of
parameters.  A run passes only types that were handed out to it before
(`ArenaRun.Passes`).

Every operation of such a run leaves the arena in order and hands out a type that the
arena knows (`ArenaOperation.perform_yields`), so this holds all along
(`ArenaRun.Sound.afterAll`).  Hence numbers stand for types one to one: a number keeps its
shape, arguments come before what they are arguments of, a shape that is stored again
gets its old number and a new one the next, and two numbers are the same exactly when
their types are, all the way down (`ArenaRun.canonical`).
-/
import ChainCompletion.Proofs.TreeInstantiation

namespace ChainCompletion

open Denotes

set_option autoImplicit false

/-- What can be asked of an arena.  A class without arguments is the plain class. -/
inductive ArenaOperation where
  | store (shape : TypeShape)
  | classType (name : String) (args : List TypeId)
  | primitive (name : String)
  | typeVariable (name : String)
  | wildcard
  | void
  | addDims (type : TypeId) (dims : Nat)
  | component (type : TypeId)
  | element (type : TypeId)
  | instantiate (params args : List TypeId) (type : TypeId)

namespace ArenaOperation

/-- The types that are passed to an operation. -/
def passed : ArenaOperation → List TypeId
  | store shape => shape.args
  | classType _ args => args
  | primitive _ | typeVariable _ | wildcard | void => []
  | addDims type _ | component type | element type => [type]
  | instantiate params args type => type :: params ++ args

/-- The type that an operation hands out, if it does, and the arena after it. -/
def perform (arena : TypeArena) : ArenaOperation → Option TypeId × TypeArena
  | store shape => (arena.store shape).map some id
  | classType name args => (arena.classType name args).map some id
  | primitive name => (arena.primitive name).map some id
  | typeVariable name => (arena.typeVariable name).map some id
  | wildcard => arena.wildcard.map some id
  | void => arena.void.map some id
  | addDims type dims => (arena.addDims type dims).map some id
  | component type => arena.component? type
  | element type => (arena.elementType type).map some id
  | instantiate params args type => (arena.instantiate params args type).map some id

/-- What an operation hands out, as a tree. -/
def outcome (arena : TypeArena) : ArenaOperation → Option TypeTree
  | store shape => some (arena.treeOf shape)
  | classType name args => some ⟨.classType, name, args.map arena.tree, 0⟩
  | primitive name => some ⟨.primitive, name, [], 0⟩
  | typeVariable name => some ⟨.typeVariable, name, [], 0⟩
  | wildcard => some ⟨.wildcard, "?", [], 0⟩
  | void => some ⟨.void, "void", [], 0⟩
  | addDims type dims => some ((arena.tree type).addDims dims)
  | component type => (arena.tree type).component?
  | element type => some (arena.tree type).element
  | instantiate params args type =>
      some ((arena.tree type).instantiate (params.map arena.tree) (args.map arena.tree))

/-- An operation on known types leads to an arena in order, and to a known type with the
tree that it should have. -/
theorem perform_yields {arena : TypeArena} (ordered : arena.Ordered) (operation : ArenaOperation)
    (known : Known arena operation.passed) :
    arena.Yields (operation.perform arena) (operation.outcome arena) := by
  cases operation with
  | store shape => exact (TypeArena.store_yields ordered known).some
  | classType name args => exact (TypeArena.store_yields ordered known).some
  | primitive name => exact (TypeArena.primitive_yields ordered name).some
  | typeVariable name => exact (TypeArena.store_yields ordered known).some
  | wildcard => exact (TypeArena.store_yields ordered known).some
  | void => exact (TypeArena.store_yields ordered known).some
  | addDims type dims =>
      exact (TypeArena.addDims_yields ordered (known_singleton.1 known) dims).some
  | component type => exact TypeArena.component?_yields ordered (known_singleton.1 known)
  | element type => exact (TypeArena.elementType_yields ordered (known_singleton.1 known)).some
  | instantiate params args type =>
      obtain ⟨knownType, rest⟩ := known_cons.1 known
      obtain ⟨knownParams, knownArgs⟩ := known_append.1 rest
      exact (TypeArena.instantiate_yields ordered knownParams knownArgs knownType).some

end ArenaOperation

/-- An arena and the types that it has handed out, in order. -/
structure ArenaRun where
  arena : TypeArena
  handedOut : List TypeId
  deriving DecidableEq

namespace ArenaRun

/-- The run before the first operation. -/
def start : ArenaRun := ⟨.empty, []⟩

/-- The run after one more operation. -/
def after (run : ArenaRun) (operation : ArenaOperation) : ArenaRun where
  arena := (operation.perform run.arena).2
  handedOut := run.handedOut ++ (operation.perform run.arena).1.toList

/-- The run after more operations. -/
def afterAll (run : ArenaRun) (operations : List ArenaOperation) : ArenaRun :=
  operations.foldl after run

/-- Whether operations pass only types that have been handed out by the time. -/
def Passes (run : ArenaRun) : List ArenaOperation → Prop
  | [] => True
  | operation :: later =>
      (∀ type ∈ operation.passed, type ∈ run.handedOut) ∧ (run.after operation).Passes later

instance decidablePasses (run : ArenaRun) :
    (operations : List ArenaOperation) → Decidable (run.Passes operations)
  | [] => isTrue trivial
  | operation :: later =>
      haveI := decidablePasses (run.after operation) later
      inferInstanceAs (Decidable (_ ∧ _))

theorem passes_append {run : ArenaRun} {earlier later : List ArenaOperation} :
    run.Passes (earlier ++ later) ↔ run.Passes earlier ∧ (run.afterAll earlier).Passes later := by
  induction earlier generalizing run with
  | nil => simp [Passes, afterAll]
  | cons operation earlier ih =>
      rw [List.cons_append, Passes, Passes, ih, and_assoc]
      rfl

/-- Whether the arena is in order and knows what it has handed out. -/
structure Sound (run : ArenaRun) : Prop where
  ordered : run.arena.Ordered
  knows : Known run.arena run.handedOut

theorem sound_start : start.Sound :=
  ⟨⟨List.nodup_nil, fun _ isThere => by cases isThere⟩, known_nil⟩

section Steps

variable {run : ArenaRun}

theorem Sound.yields (sound : run.Sound) {operation : ArenaOperation}
    (passes : ∀ type ∈ operation.passed, type ∈ run.handedOut) :
    run.arena.Yields (operation.perform run.arena) (operation.outcome run.arena) :=
  operation.perform_yields sound.ordered fun type isPassed => sound.knows type (passes type isPassed)

/-- An operation keeps the arena in order. -/
theorem Sound.after (sound : run.Sound) {operation : ArenaOperation}
    (passes : ∀ type ∈ operation.passed, type ∈ run.handedOut) : (run.after operation).Sound := by
  have asked := sound.yields passes
  refine ⟨asked.ordered, known_append.2 ⟨asked.known_of sound.knows, ?_⟩⟩
  intro type isThere
  exact asked.known type (Option.mem_toList.1 isThere)

/-- A run keeps the arena in order, and all that it knows. -/
theorem Sound.afterAll (sound : run.Sound) {operations : List ArenaOperation}
    (passes : run.Passes operations) :
    (run.afterAll operations).Sound ∧ run.arena.GrowsTo (run.afterAll operations).arena := by
  induction operations generalizing run with
  | nil => exact ⟨sound, TypeArena.GrowsTo.refl _⟩
  | cons operation later ih =>
      obtain ⟨here, rest⟩ := passes
      obtain ⟨sound', grows⟩ := ih (sound.after here) rest
      exact ⟨sound', (sound.yields here).grows.trans grows⟩

end Steps

end ArenaRun

/-- A shape that is stored is found, a new one gets the next number. -/
theorem TypeArena.store_eq (arena : TypeArena) (shape : TypeShape) :
    (∃ type, arena.shape? type = some shape ∧ arena.store shape = (type, arena)) ∨
      (∀ type, arena.shape? type ≠ some shape) ∧
        arena.store shape = (⟨arena.size⟩, ⟨⟨arena.shapes.values ++ [shape]⟩⟩) := by
  cases found : arena.shapes.values.findIdx? (· = shape) with
  | some number =>
      have stored : arena.store shape = (⟨number⟩, arena) := by
        simp only [store, Pool.add, found]
      have shaped := shape?_store arena shape
      rw [stored] at shaped
      exact Or.inl ⟨⟨number⟩, shaped, stored⟩
  | none =>
      refine Or.inr ⟨?_, ?_⟩
      · intro type shaped
        have isThere : shape ∈ arena.shapes.values := List.mem_of_getElem? shaped
        simpa using List.findIdx?_eq_none_iff.1 found shape isThere
      · simp only [store, Pool.add, found]
        rfl

namespace ArenaRun

/-- **One number for one type.**  After every run that passes only types handed out before,
the numbers in use are those below the number of types, and everything handed out is among
them; a shape that is stored again is found under its number, and a new one would get the
next; every type has kept the shape that it had at any point of the run; the arguments of a
type have smaller numbers; and the type of a number is a tree made of its shape and the
trees of its arguments, where two numbers are equal exactly if their trees are. -/
theorem canonical (earlier later : List ArenaOperation)
    (passes : start.Passes (earlier ++ later)) :
    let middle := (start.afterAll earlier).arena
    let last := (start.afterAll (earlier ++ later)).arena
    (∀ type, (∃ shape, last.shape? type = some shape) ↔ type.index < last.size) ∧
    (∀ type ∈ (start.afterAll (earlier ++ later)).handedOut, type.index < last.size) ∧
    (∀ shape,
      (∃ type, last.shape? type = some shape ∧ last.store shape = (type, last)) ∨
      (∀ type, last.shape? type ≠ some shape) ∧
        last.store shape = (⟨last.size⟩, ⟨⟨last.shapes.values ++ [shape]⟩⟩)) ∧
    (∀ type shape, middle.shape? type = some shape → last.shape? type = some shape) ∧
    (∀ type shape, last.shape? type = some shape → ∀ arg ∈ shape.args, arg.index < type.index) ∧
    (∀ type shape, last.shape? type = some shape →
      last.tree type = ⟨shape.kind, shape.name, shape.args.map last.tree, shape.dims⟩) ∧
    ∀ type other, type.index < last.size → other.index < last.size →
      (type = other ↔ last.tree type = last.tree other) := by
  obtain ⟨early, late⟩ := passes_append.1 passes
  obtain ⟨sound, -⟩ := sound_start.afterAll early
  obtain ⟨sound', grows⟩ := sound.afterAll late
  have whole : start.afterAll (earlier ++ later) = (start.afterAll earlier).afterAll later :=
    List.foldl_append
  rw [whole]
  refine ⟨?_, sound'.knows, TypeArena.store_eq _, ?_, ?_, ?_, ?_⟩
  · intro type
    exact TypeArena.knows_iff.symm
  · intro type shape shaped
    exact TypeArena.shape?_of_growsTo grows shaped
  · intro type shape shaped arg isArg
    exact sound'.ordered.arg_lt shaped isArg
  · intro type shape shaped
    exact TypeArena.tree_of_shape? sound'.ordered shaped
  · intro type other known known'
    constructor
    · rintro rfl
      rfl
    · exact TypeArena.tree_inj sound'.ordered known known'

/-- Lists of a parameter, in a grid. -/
def gridOfLists : List ArenaOperation :=
  [.typeVariable "T", .classType "List" [⟨0⟩], .addDims ⟨1⟩ 2]

/-- The grid with texts in place of the parameter, its rows, its elements, and these once
more by name. -/
def gridOfTexts : List ArenaOperation :=
  [.classType "String" [], .instantiate [⟨0⟩] [⟨3⟩] ⟨2⟩, .component ⟨4⟩, .element ⟨5⟩,
    .classType "List" [⟨3⟩]]

/-- The elements of the grid are the lists of texts that are asked for by name. -/
theorem canonical_grid :
    start.Passes (gridOfLists ++ gridOfTexts) ∧
    (start.afterAll (gridOfLists ++ gridOfTexts)).handedOut =
      [⟨0⟩, ⟨1⟩, ⟨2⟩, ⟨3⟩, ⟨4⟩, ⟨5⟩, ⟨6⟩, ⟨6⟩] ∧
    ∀ type other : TypeId, type.index < 7 → other.index < 7 →
      (type = other ↔ (start.afterAll (gridOfLists ++ gridOfTexts)).arena.tree type =
        (start.afterAll (gridOfLists ++ gridOfTexts)).arena.tree other) := by
  have passes : start.Passes (gridOfLists ++ gridOfTexts) := by decide
  obtain ⟨-, -, -, -, -, -, same⟩ := canonical gridOfLists gridOfTexts passes
  exact ⟨passes, by decide, same⟩

end ArenaRun

end ChainCompletion
