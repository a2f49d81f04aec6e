/-
# Declarations.Basic -- declared types

A declaration gives a type its parameters, its direct supertypes, written in terms
of the parameters, and its members.  Declarations are kept by qualified name in
the order in which they were made, and declaring a name again adds to what is
there.  A name can also be marked unresolved: questions that come upon it fail.
-/
import ChainCompletion.Member

namespace ChainCompletion

set_option autoImplicit false

/-- Who may use a member. -/
inductive Visibility where
  /-- Everyone (`public`). -/
  | everywhere
  /-- The package, and types below the declaring one (`protected`). -/
  | packageAndHeirs
  /-- The package (no modifier). -/
  | packageOnly
  /-- Types within the same outermost type (`private`). -/
  | outermostOnly
  deriving DecidableEq

/-- A member as it is declared, in terms of the type's parameters. -/
structure MemberDecl where
  name : String
  kind : MemberKind
  params : List Parameter
  result : TypeId
  isStatic : Bool
  visibility : Visibility
  deriving DecidableEq

/-- A declared class, interface or record. -/
structure ClassDecl where
  /-- The type parameters, in order. -/
  params : List TypeId
  /-- The direct supertypes. -/
  supertypes : List TypeId
  members : List MemberDecl
  deriving DecidableEq

/-- A declaration that says nothing yet. -/
def ClassDecl.blank : ClassDecl := ⟨[], [], []⟩

/-- All declared types, and the names that do not resolve. -/
structure Declarations where
  types : List (String × ClassDecl)
  unresolved : List String
  deriving DecidableEq

namespace Declarations

/-- No declarations. -/
def empty : Declarations := ⟨[], []⟩

/-- The number of declared types. -/
def count (decls : Declarations) : Nat :=
  decls.types.length

/-- Whether no type is declared. -/
def isEmpty (decls : Declarations) : Bool :=
  decls.types.isEmpty

/-- The declaration of a name. -/
def find? (decls : Declarations) (name : String) : Option ClassDecl :=
  decls.types.lookup name

/-- The entries with the declaration of `name` changed; a name without one gets a
blank one first, at the end. -/
def amendIn (name : String) (change : ClassDecl → ClassDecl) :
    List (String × ClassDecl) → List (String × ClassDecl)
  | [] => [(name, change ClassDecl.blank)]
  | (other, decl) :: entries =>
      if name = other then (other, change decl) :: entries
      else (other, decl) :: amendIn name change entries

/-- Declares a type, or adds to its declaration: supertypes and members join those
already there, and parameters, where given, replace them. -/
def declare (decls : Declarations) (name : String) (params : Option (List TypeId))
    (supertypes : List TypeId) (members : List MemberDecl) : Declarations :=
  let change (decl : ClassDecl) : ClassDecl :=
    ⟨params.getD decl.params, decl.supertypes ++ supertypes, decl.members ++ members⟩
  { decls with types := amendIn name change decls.types }

/-- Marks a name as one that does not resolve. -/
def withUnresolved (decls : Declarations) (name : String) : Declarations :=
  { decls with unresolved := decls.unresolved.insert name }

end Declarations

end ChainCompletion
