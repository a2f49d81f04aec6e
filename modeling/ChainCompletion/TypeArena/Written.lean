/-
# TypeArena.Written -- types as text

A type is written as its name, its arguments between angle brackets with commas
and no blanks, and a pair of brackets for each dimension.  Names are written in
full or cut down to their last segment, throughout.  An unknown type is written
as its number.

`writtenWithin` follows arguments to a given depth.  Arguments lead from type to
type without returning, so their nesting stays below the number of types and
`written` reaches every one of them.
-/
import ChainCompletion.TypeArena.Basic

namespace ChainCompletion

set_option autoImplicit false

/-- How much of a name is written. -/
inductive NameStyle where
  | simple
  | qualified
  deriving DecidableEq

/-- The name of a shape in a style. -/
def TypeShape.nameIn (shape : TypeShape) : NameStyle → String
  | .simple => shape.simpleName
  | .qualified => shape.name

namespace TypeArena

/-- A type with its arguments nested at most `depth` deep. -/
def writtenWithin (arena : TypeArena) (style : NameStyle) : Nat → TypeId → String
  | 0, type => type.text
  | depth + 1, type =>
      match arena.shape? type with
      | none => type.text
      | some shape =>
          let args :=
            if shape.args.isEmpty then ""
            else "<" ++ String.intercalate "," (shape.args.map (writtenWithin arena style depth)) ++ ">"
          shape.nameIn style ++ args ++ String.join (List.replicate shape.dims "[]")

/-- A type as text. -/
def written (arena : TypeArena) (style : NameStyle) (type : TypeId) : String :=
  arena.writtenWithin style (arena.size + 1) type

end TypeArena

end ChainCompletion
