/-
# Declarations.Assignability -- which values fit where

A value of one type can stand where another is expected in these cases:

* the expected type is a type variable, a wildcard or `java.lang.Object`, and the
  value is a reference;
* both are classes with the same number of array dimensions, and the lineage of
  the value's class holds the expected class with agreeing arguments.

Built-in values and void fit nowhere here; that every type fits itself is for the
caller to see first.  Arguments agree when either side has none (`argsAgree`) or
when they fit one by one (`argFits`): equal types fit, a type variable or wildcard
fits anything, and otherwise the classes must be equal with agreeing arguments.
There is no widening inside arguments.

`argFits` compares arguments to a given depth; the number of types is deep enough.
-/
import ChainCompletion.Declarations.Lineage

namespace ChainCompletion

set_option autoImplicit false

/-- The name of the class above all others. -/
def objectName : String := "java.lang.Object"

/-- Whether a type accepts every reference. -/
def TypeShape.acceptsReferences (shape : TypeShape) : Bool :=
  shape.dims = 0 &&
    (shape.isPlaceholder || (shape.kind = .classType && shape.name = objectName))

/-- Whether two argument lists agree, given when two arguments fit. -/
def argsAgree (fits : TypeId → TypeId → Bool) (left right : List TypeId) : Bool :=
  left.isEmpty || right.isEmpty ||
    (left.length = right.length && (left.zip right).all fun pair => fits pair.1 pair.2)

namespace TypeArena

/-- Whether two type arguments fit, compared at most `depth` deep. -/
def argFits (arena : TypeArena) : Nat → TypeId → TypeId → Bool
  | 0, left, right => left = right
  | depth + 1, left, right =>
      left = right ||
        match arena.shape? left, arena.shape? right with
        | some first, some second =>
            first.isPlaceholder || second.isPlaceholder ||
              (first.kind = .classType && second.kind = .classType &&
                first.name = second.name && first.dims = second.dims &&
                argsAgree (argFits arena depth) first.args second.args)
        | _, _ => false

/-- Whether the arguments of two types agree. -/
def argsFit (arena : TypeArena) (left right : TypeId) : Bool :=
  match arena.shape? left, arena.shape? right with
  | some first, some second => argsAgree (arena.argFits (arena.size + 1)) first.args second.args
  | _, _ => false

end TypeArena

namespace Declarations

/-- Whether a class fits where the class named `goalName` is expected; `goal` gives
the expected arguments. -/
def reaches (decls : Declarations) (arena : TypeArena) (source goal : TypeId)
    (goalName : String) : Except LookupError Bool × TypeArena :=
  match decls.lineage arena source with
  | (.error error, arena) => (.error error, arena)
  | (.ok types, arena) =>
      match types.find? fun above => arena.qualifiedName above = goalName with
      | none => (.ok false, arena)
      | some above => (.ok (arena.argsFit above goal), arena)

/-- Whether a value of type `source` can stand where `target` is expected, the two
being different types. -/
def accepts (decls : Declarations) (arena : TypeArena) (source target : TypeId) :
    Except LookupError Bool × TypeArena :=
  match arena.shape? source, arena.shape? target with
  | none, _ => (.error (.unresolvedType source.text), arena)
  | some _, none => (.error (.unresolvedType target.text), arena)
  | some given, some wanted =>
      if given.kind = .void || wanted.kind = .void then (.ok false, arena)
      else if wanted.acceptsReferences then (.ok given.isReference, arena)
      else if given.dims ≠ wanted.dims || given.kind ≠ .classType || wanted.kind ≠ .classType then
        (.ok false, arena)
      else
        let (goal, arena) := arena.elementType target
        let (start, arena) := arena.elementType source
        decls.reaches arena start goal wanted.name

end Declarations

end ChainCompletion
