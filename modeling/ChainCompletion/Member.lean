/-
# Member -- what a chain starts from and what it goes through

A chain starts from a binding: a variable in reach of the cursor, or a type whose
static members can be named.  It goes on through members: fields, methods, and
the entries of arrays, which count as members named `[]`.  Which members may be
used depends on the call site, the place the cursor stands in.
-/
import ChainCompletion.TypeArena.Basic

namespace ChainCompletion

set_option autoImplicit false

/-- The sorts of bindings. -/
inductive BindingKind where
  | localVariable
  | parameter
  | field
  /-- A type, as the start of an access to its static members. -/
  | staticType
  deriving DecidableEq

/-- A named thing in reach of the cursor. -/
structure Binding where
  name : String
  type : TypeId
  kind : BindingKind
  /-- Whether the name alone would mean something else, so that `this.` goes
  before it. -/
  needsThis : Bool
  deriving DecidableEq

namespace Binding

/-- The binding of a type under its simple name. -/
def ofStaticType (name : String) (type : TypeId) : Binding :=
  ⟨name, type, .staticType, false⟩

/-- Whether the binding is a type rather than a value. -/
def isStatic (binding : Binding) : Bool :=
  binding.kind = .staticType

end Binding

/-- The sorts of members. -/
inductive MemberKind where
  | field
  | method
  /-- An entry of an array, reached by an index. -/
  | arrayElement
  deriving DecidableEq

/-- A parameter of a method; compiled code often lacks the name. -/
structure Parameter where
  name : Option String
  type : TypeId
  deriving DecidableEq

/-- A field, a method or the entries of an array, as seen from a call site. -/
structure Member where
  /-- The type that declares the member. -/
  owner : TypeId
  name : String
  kind : MemberKind
  params : List Parameter
  result : TypeId
  isStatic : Bool
  accessible : Bool
  deriving DecidableEq

namespace Member

/-- An accessible field of a value. -/
def ofField (owner : TypeId) (name : String) (result : TypeId) : Member :=
  ⟨owner, name, .field, [], result, false, true⟩

/-- An accessible method of a value. -/
def ofMethod (owner : TypeId) (name : String) (params : List Parameter) (result : TypeId) :
    Member :=
  ⟨owner, name, .method, params, result, false, true⟩

/-- The entries of an array. -/
def ofArrayElement (owner component : TypeId) : Member :=
  ⟨owner, "[]", .arrayElement, [], component, false, true⟩

end Member

/-- The place a chain is written in, as far as access to members depends on it. -/
structure CallSite where
  /-- The qualified name of the innermost type around the place. -/
  enclosing : Option String
  package : Option String
  deriving DecidableEq

/-- A call site of which nothing is known. -/
def CallSite.unknown : CallSite := ⟨none, none⟩

end ChainCompletion
