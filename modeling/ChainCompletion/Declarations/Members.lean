/-
# Declarations.Members -- the members of a type

A class has the members that it and the types of its lineage declare, in that
order, seen through the arguments each of these types has.  A member hides those
further up with the same signature: the same sort, the same name and the same
parameter types.  Fields and methods therefore do not hide each other, nor do
overloads, nor do members of one declaration.

An array has a single member, its `length`.  All other types have none.
-/
import ChainCompletion.Declarations.Access

namespace ChainCompletion

set_option autoImplicit false

/-- What a member must share with another to hide it. -/
structure Signature where
  kind : MemberKind
  name : String
  params : List TypeId
  deriving DecidableEq

/-- The signature of a member. -/
def Member.signature (member : Member) : Signature :=
  ⟨member.kind, member.name, member.params.map (·.type)⟩

namespace Declarations

/-- A declared member as a member of `owner`, unless its signature is hidden. -/
def memberOf (decls : Declarations) (site : CallSite) (params : List TypeId) (owner : TypeId)
    (shape : TypeShape) (hidden : List Signature) (arena : TypeArena) (decl : MemberDecl) :
    Option Member × TypeArena :=
  let (types, arena) :=
    threadMap (fun arena type => arena.instantiate params shape.args type) arena
      (decl.params.map (·.type))
  if Signature.mk decl.kind decl.name types ∈ hidden then (none, arena)
  else
    let (result, arena) := arena.instantiate params shape.args decl.result
    let (accessible, arena) := decls.permits arena site shape.name decl.visibility
    let parameters := (decl.params.zip types).map fun (param, type) => ⟨param.name, type⟩
    (some ⟨owner, decl.name, decl.kind, parameters, result, decl.isStatic, accessible⟩, arena)

/-- The members that `owner` itself declares and that are not hidden. -/
def ownMembers (decls : Declarations) (site : CallSite) (hidden : List Signature)
    (arena : TypeArena) (owner : TypeId) : List Member × TypeArena :=
  match arena.shape? owner with
  | none => ([], arena)
  | some shape =>
      match decls.find? shape.name with
      | none => ([], arena)
      | some decl =>
          let (members, arena) :=
            threadMap (decls.memberOf site decl.params owner shape hidden) arena decl.members
          (members.filterMap id, arena)

/-- The members of a lineage, each type hiding signatures from those after it. -/
def gatherMembers (decls : Declarations) (site : CallSite) :
    List Signature → TypeArena → List TypeId → List Member × TypeArena
  | _, arena, [] => ([], arena)
  | hidden, arena, owner :: owners =>
      let (own, arena) := decls.ownMembers site hidden arena owner
      let (inherited, arena) :=
        gatherMembers decls site (hidden ++ own.map Member.signature) arena owners
      (own ++ inherited, arena)

/-- The members of a type, marked accessible or not for a call site. -/
def members (decls : Declarations) (arena : TypeArena) (type : TypeId) (site : CallSite) :
    Except LookupError (List Member) × TypeArena :=
  match arena.shape? type with
  | none => (.error (.unresolvedType type.text), arena)
  | some shape =>
      if 0 < shape.dims then
        let (int, arena) := arena.primitive "int"
        (.ok [Member.ofField type "length" int], arena)
      else if shape.kind ≠ .classType then (.ok [], arena)
      else
        match decls.lineage arena type with
        | (.error error, arena) => (.error error, arena)
        | (.ok types, arena) =>
            let (members, arena) := decls.gatherMembers site [] arena types
            (.ok members, arena)

end Declarations

end ChainCompletion
