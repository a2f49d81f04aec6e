/-
# TypeArena.Basic -- types as numbers

A type has a shape: what sort of type it is, its name, its type arguments and how
many array dimensions it has.  The arena stores each shape once and hands out
numbers, and arguments refer to other types by number, so types with equal shapes
have equal numbers.  A number that the arena has not handed out is unknown to it;
operations leave such types alone.

Operations that may store a new shape return the arena after them.
-/
import ChainCompletion.Pool
import ChainCompletion.QualifiedName

namespace ChainCompletion

set_option autoImplicit false

/-- A type, known by its number in an arena. -/
structure TypeId where
  index : Nat
  deriving DecidableEq

namespace TypeId

/-- Types are ordered by number. -/
instance : Ord TypeId where
  compare a b := compare a.index b.index

/-- The written form `TypeId(n)`, which stands in for the name of an unknown type. -/
def text (type : TypeId) : String :=
  "TypeId(" ++ Nat.repr type.index ++ ")"

end TypeId

/-- The sorts of types. -/
inductive TypeKind where
  /-- A class, interface, enumeration or record. -/
  | classType
  /-- A built-in value type such as `int`. -/
  | primitive
  /-- A type variable such as `T`. -/
  | typeVariable
  /-- The unknown type argument `?`. -/
  | wildcard
  /-- The result type of a method without a value. -/
  | void
  deriving DecidableEq

/-- What a type is made of.  Classes carry their qualified name. -/
structure TypeShape where
  kind : TypeKind
  name : String
  args : List TypeId
  dims : Nat
  deriving DecidableEq

namespace TypeShape

/-- The last segment of the name. -/
def simpleName (shape : TypeShape) : String :=
  QualifiedName.simple shape.name

/-- The name without its last segment. -/
def qualifier? (shape : TypeShape) : Option String :=
  QualifiedName.qualifier? shape.name

/-- Whether the shape stands for a type that is not known, and so fits any type
argument. -/
def isPlaceholder (shape : TypeShape) : Bool :=
  shape.kind = .typeVariable || shape.kind = .wildcard

/-- Whether values of the type are references: everything but built-in values. -/
def isReference (shape : TypeShape) : Bool :=
  shape.kind ≠ .primitive || 0 < shape.dims

end TypeShape

/-- The shapes of all types that have come up. -/
structure TypeArena where
  shapes : Pool TypeShape
  deriving DecidableEq

namespace TypeArena

/-- The arena without types. -/
def empty : TypeArena := ⟨.empty⟩

/-- The number of types. -/
def size (arena : TypeArena) : Nat :=
  arena.shapes.size

/-- Whether there are no types. -/
def isEmpty (arena : TypeArena) : Bool :=
  arena.shapes.isEmpty

/-- The shape of a type, unless it is unknown. -/
def shape? (arena : TypeArena) (type : TypeId) : Option TypeShape :=
  arena.shapes.get? type.index

/-- The type with a shape, stored if it is new. -/
def store (arena : TypeArena) (shape : TypeShape) : TypeId × TypeArena :=
  let (number, shapes) := arena.shapes.add shape
  (⟨number⟩, ⟨shapes⟩)

/-! ## Types by name -/

/-- The class with type arguments; without any it is the plain class. -/
def classType (arena : TypeArena) (name : String) (args : List TypeId) : TypeId × TypeArena :=
  arena.store ⟨.classType, name, args, 0⟩

/-- The built-in value type of a name. -/
def primitive (arena : TypeArena) (name : String) : TypeId × TypeArena :=
  arena.store ⟨.primitive, name, [], 0⟩

/-- The type variable of a name. -/
def typeVariable (arena : TypeArena) (name : String) : TypeId × TypeArena :=
  arena.store ⟨.typeVariable, name, [], 0⟩

/-- The unknown type argument. -/
def wildcard (arena : TypeArena) : TypeId × TypeArena :=
  arena.store ⟨.wildcard, "?", [], 0⟩

/-- The type of no value. -/
def void (arena : TypeArena) : TypeId × TypeArena :=
  arena.store ⟨.void, "void", [], 0⟩

/-! ## Arrays -/

/-- The type with more array dimensions.  An unknown type stays as it is. -/
def addDims (arena : TypeArena) (type : TypeId) (dims : Nat) : TypeId × TypeArena :=
  match arena.shape? type with
  | none => (type, arena)
  | some shape => arena.store { shape with dims := shape.dims + dims }

/-- The type of an array's entries: one dimension less.  Types without dimensions
and unknown types have none. -/
def component? (arena : TypeArena) (type : TypeId) : Option TypeId × TypeArena :=
  match arena.shape? type with
  | none => (none, arena)
  | some shape =>
      match shape.dims with
      | 0 => (none, arena)
      | dims + 1 =>
          let (component, arena) := arena.store { shape with dims := dims }
          (some component, arena)

/-- The type without its array dimensions.  An unknown type stays as it is. -/
def elementType (arena : TypeArena) (type : TypeId) : TypeId × TypeArena :=
  match arena.shape? type with
  | none => (type, arena)
  | some shape =>
      if shape.dims = 0 then (type, arena) else arena.store { shape with dims := 0 }

/-! ## Questions -/

/-- Whether a type is of the sort without values, with dimensions or not. -/
def isVoid (arena : TypeArena) (type : TypeId) : Bool :=
  (arena.shape? type).any (·.kind = .void)

/-- Whether the values of a type are built in; arrays of them are references. -/
def isPrimitive (arena : TypeArena) (type : TypeId) : Bool :=
  (arena.shape? type).any fun shape => shape.kind = .primitive && shape.dims = 0

/-- Whether a type has array dimensions. -/
def isArray (arena : TypeArena) (type : TypeId) : Bool :=
  (arena.shape? type).any (0 < ·.dims)

/-- The name of a type, without arguments and dimensions. -/
def qualifiedName (arena : TypeArena) (type : TypeId) : String :=
  match arena.shape? type with
  | some shape => shape.name
  | none => type.text

/-- The last segment of the name of a type. -/
def simpleName (arena : TypeArena) (type : TypeId) : String :=
  match arena.shape? type with
  | some shape => shape.simpleName
  | none => type.text

end TypeArena

end ChainCompletion
