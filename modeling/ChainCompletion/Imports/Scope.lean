/-
# Imports.Scope -- what a type may be called in a document

The head of a document declares its package and imports types, one by one or a
package at a time.  From this follows how another type can be written: by its
simple name as it is (`visible`), by its simple name with a new import
(`importable`), or only in full, because the simple name already means another
type (`conflict`).  Types imported one by one come before everything else that
lends a simple name.

A new import goes to a known place, after the declarations that are there.
-/
import ChainCompletion.QualifiedName
import ChainCompletion.Text.Position

namespace ChainCompletion

open Text

set_option autoImplicit false

/-- The replacement of a piece of a document by a text. -/
structure TextEdit where
  start : Place
  stop : Place
  text : String
  deriving DecidableEq

/-- The edit that inserts a text. -/
def TextEdit.insertion (place : Place) (text : String) : TextEdit := ⟨place, place, text⟩

/-- How a type can be written. -/
inductive NameUse where
  | visible
  | importable
  | conflict
  deriving DecidableEq

/-- The package and the imports of a document. -/
structure ImportScope where
  package : Option String
  /-- Types imported one by one, in order and each once. -/
  types : List String
  /-- Packages imported as a whole, in order and each once. -/
  onDemand : List String
  /-- Where a new import goes. -/
  insertAt : Place
  /-- Whether that place is the end of a line without a line break. -/
  needsNewline : Bool
  deriving DecidableEq

namespace ImportScope

/-- The scope of an empty document. -/
def empty : ImportScope := ⟨none, [], [], .start, false⟩

/-- The package whose types are visible everywhere. -/
def languagePackage : String := "java.lang"

/-- Whether every type of a package is visible. -/
def opens (scope : ImportScope) (package : String) : Bool :=
  package = languagePackage || scope.package = some package || package ∈ scope.onDemand

/-- How the type of a qualified name can be written.  A name without a qualifier
has no other form. -/
def useOf (scope : ImportScope) (name : String) : NameUse :=
  match QualifiedName.qualifier? name with
  | none => .visible
  | some package =>
      if name ∈ scope.types then .visible
      else if scope.types.any fun type =>
          QualifiedName.simple type = QualifiedName.simple name then .conflict
      else if scope.opens package then .visible
      else .importable

/-- The line that imports a type. -/
def importLine (name : String) : String := "import " ++ name ++ ";\n"

/-- The edit that imports a type. -/
def newImport (scope : ImportScope) (name : String) : TextEdit :=
  .insertion scope.insertAt ((if scope.needsNewline then "\n" else "") ++ importLine name)

end ImportScope

end ChainCompletion
