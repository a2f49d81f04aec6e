/-
# TypeArena.Instantiation -- type arguments in place of type parameters

A declaration is written in terms of its type parameters.  Seen through a type
with arguments, each parameter stands for the argument at its place: `instantiate`
replaces them all at once.  A parameter with array dimensions gives the argument
with as many more, and the outermost match wins, so what an argument holds is not
replaced again.  Without parameters, or with another number of arguments, the
declaration is used raw and nothing is replaced.

`replaceWithin` follows arguments to a given depth.  The number of types would not
always be deep enough: an argument may carry a number that is handed out only
while the replacement stores new shapes, and is followed from then on.  Every
number met on the way down is older than the shape that mentions it or is
mentioned from the start, and none is met twice, so `reach`, which lies above all
of them, is deep enough.
-/
import ChainCompletion.Thread
import ChainCompletion.TypeArena.Basic

namespace ChainCompletion.TypeArena

set_option autoImplicit false

/-- Replaces the types that have an entry in `table`, in arguments nested at most
`depth` deep. -/
def replaceWithin (table : List (TypeId × TypeId)) :
    Nat → TypeArena → TypeId → TypeId × TypeArena
  | 0, arena, type => (type, arena)
  | depth + 1, arena, type =>
      match arena.shape? type with
      | none => (type, arena)
      | some shape =>
          let (element, arena) := arena.elementType type
          match table.lookup element with
          | some arg => if shape.dims = 0 then (arg, arena) else arena.addDims arg shape.dims
          | none =>
              if shape.args.isEmpty then (type, arena)
              else
                let (args, arena) := threadMap (replaceWithin table depth) arena shape.args
                arena.store { shape with args := args }

/-- A bound on the numbers in use: above those of the arena's types, of the arguments
in their shapes and of `args`, handed out or not. -/
def reach (arena : TypeArena) (args : List TypeId) : Nat :=
  (arena.shapes.values.flatMap (·.args) ++ args).foldr
    (fun arg bound => Nat.max (arg.index + 1) bound) arena.size

/-- The type with each of `params` replaced by the argument at its place. -/
def instantiate (arena : TypeArena) (params args : List TypeId) (type : TypeId) :
    TypeId × TypeArena :=
  if params.isEmpty || params.length ≠ args.length then (type, arena)
  else replaceWithin (params.zip args) (arena.reach args + 1) arena type

end ChainCompletion.TypeArena
