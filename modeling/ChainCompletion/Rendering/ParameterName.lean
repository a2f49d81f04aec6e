/-
# Rendering.ParameterName -- names for arguments

A placeholder for an argument carries the parameter's name.  Where that is not
known the type suggests one: the first letter of a built-in type, and the simple
name of any other with a small first letter.  A suggestion that is no identifier,
or is a word of the language, gives way to `arg`.
-/
import ChainCompletion.Member
import ChainCompletion.Text.Identifier
import ChainCompletion.Text.LetterCase

namespace ChainCompletion

open Text

set_option autoImplicit false

/-- The words that cannot be names. -/
def reservedWords : List String :=
  ["abstract", "assert", "boolean", "break", "byte", "case", "catch", "char", "class", "const",
   "continue", "default", "do", "double", "else", "enum", "extends", "final", "finally",
   "float", "for", "goto", "if", "implements", "import", "instanceof", "int", "interface",
   "long", "native", "new", "package", "private", "protected", "public", "return", "short",
   "static", "strictfp", "super", "switch", "synchronized", "this", "throw", "throws",
   "transient", "try", "void", "volatile", "while", "true", "false", "null"]

/-- The name of an argument of which nothing better is known. -/
def fallbackName : String := "arg"

/-- A text with its first character in small letters. -/
def lowerFirst : List Char → List Char
  | [] => []
  | c :: rest => lowerCase c ++ rest

/-- The name that a type suggests. -/
def TypeShape.suggestedName (shape : TypeShape) : List Char :=
  match shape.kind with
  | .primitive => shape.name.toList.take 1
  | _ => lowerFirst shape.simpleName.toList

/-- Whether a text can name something. -/
def canName (text : List Char) : Bool :=
  isIdentifier text && String.ofList text ∉ reservedWords

/-- The name shown for an argument. -/
def Parameter.shownName (arena : TypeArena) (param : Parameter) : String :=
  match param.name with
  | some name => name
  | none =>
      match arena.shape? param.type with
      | none => fallbackName
      | some shape =>
          if canName shape.suggestedName then String.ofList shape.suggestedName else fallbackName

end ChainCompletion
