/-
# Declarations.Lineage -- a type and everything above it

The lineage of a type is the type itself, then its direct supertypes, then theirs,
level by level, each seen through the arguments that flow down from the type
below.  Each qualified name appears once, where it is met first, so cyclic
declarations and ever deeper arguments do no harm.  An unresolved name or an
unknown type anywhere in the walk makes it fail.

Every name opens its declaration at most once, so no walk visits more types than
one and the number of all declared supertypes (`lineageSteps`).
-/
import ChainCompletion.Declarations.Basic
import ChainCompletion.ProgramView
import ChainCompletion.TypeArena.Instantiation

namespace ChainCompletion.Declarations

set_option autoImplicit false

/-- The direct supertypes of a type of this shape. -/
def parents (decls : Declarations) (arena : TypeArena) (shape : TypeShape) :
    List TypeId × TypeArena :=
  match decls.find? shape.name with
  | none => ([], arena)
  | some decl =>
      threadMap (fun arena type => arena.instantiate decl.params shape.args type)
        arena decl.supertypes

/-- Walks the types that wait in line, passing over the names in `seen`, for at
most the given number of visits. -/
def lineageFrom (decls : Declarations) :
    Nat → TypeArena → List String → List TypeId → Except LookupError (List TypeId) × TypeArena
  | _, arena, _, [] => (.ok [], arena)
  | 0, arena, _, _ :: _ => (.ok [], arena)
  | visits + 1, arena, seen, type :: waiting =>
      match arena.shape? type with
      | none => (.error (.unresolvedType type.text), arena)
      | some shape =>
          if shape.name ∈ seen then lineageFrom decls visits arena seen waiting
          else if shape.name ∈ decls.unresolved then
            (.error (.unresolvedType shape.name), arena)
          else
            let (above, arena) := decls.parents arena shape
            match lineageFrom decls visits arena (shape.name :: seen) (waiting ++ above) with
            | (.ok types, arena) => (.ok (type :: types), arena)
            | (.error error, arena) => (.error error, arena)

/-- A number of visits that no walk exceeds. -/
def lineageSteps (decls : Declarations) : Nat :=
  1 + decls.types.foldr (fun entry count => entry.2.supertypes.length + count) 0

/-- The type and all types above it. -/
def lineage (decls : Declarations) (arena : TypeArena) (type : TypeId) :
    Except LookupError (List TypeId) × TypeArena :=
  decls.lineageFrom decls.lineageSteps arena [] [type]

end ChainCompletion.Declarations
