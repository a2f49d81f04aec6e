/-
# QualifiedName -- dotted names of types

A qualified name is a text cut into segments by dots.  Its last segment is the
simple name and what precedes it the qualifier.  By convention the segments of a
package start with a small letter and those of a type do not, so the package of a
type name is its longest start of such segments -- unless that is the whole name,
which then names no type inside a package.  The top-level type is the package
with one more segment; types nested in it share it.
-/
import ChainCompletion.Text.LetterCase
import ChainCompletion.Text.Pieces

namespace ChainCompletion.QualifiedName

open Text

set_option autoImplicit false

/-- The segments between the dots. -/
def segments (name : String) : List (List Char) :=
  splitAtEach '.' name.toList

/-- The name with the given segments. -/
def ofSegments (parts : List (List Char)) : String :=
  String.ofList (joinWith '.' parts)

/-- The last segment. -/
def simple (name : String) : String :=
  String.ofList ((segments name).getLastD [])

/-- What precedes the last dot. -/
def qualifier? (name : String) : Option String :=
  match (segments name).dropLast with
  | [] => none
  | parts => some (ofSegments parts)

/-- Whether a segment is written as a part of a package name. -/
def startsSmall : List Char → Bool
  | [] => false
  | c :: _ => isLower c

/-- The segments of the package; none when every segment is written small. -/
def packagePart (parts : List (List Char)) : List (List Char) :=
  if parts.all startsSmall then [] else parts.takeWhile startsSmall

/-- The package of a type. -/
def package? (name : String) : Option String :=
  match packagePart (segments name) with
  | [] => none
  | parts => some (ofSegments parts)

/-- The outermost type around a type: its package and one segment more. -/
def topLevel (name : String) : String :=
  let parts := segments name
  ofSegments (parts.take ((packagePart parts).length + 1))

end ChainCompletion.QualifiedName
