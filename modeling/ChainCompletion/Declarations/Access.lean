/-
# Declarations.Access -- who may use a member

Public members are open to every call site.  Members without a modifier are open
to call sites of the declaring type's package, and private ones to types nested in
the same outermost type.  Protected members are open to the package and, beyond
it, to call sites whose enclosing type has the declaring type in its lineage.
-/
import ChainCompletion.Declarations.Lineage

namespace ChainCompletion.Declarations

set_option autoImplicit false

/-- Whether a call site lies in the package of the type with this name. -/
def inPackageOf (site : CallSite) (declaring : String) : Bool :=
  QualifiedName.package? declaring = site.package

/-- Whether a call site lies within the outermost type of the type with this name. -/
def inOutermostOf (site : CallSite) (declaring : String) : Bool :=
  site.enclosing.any fun enclosing =>
    QualifiedName.topLevel enclosing = QualifiedName.topLevel declaring

/-- Whether the enclosing type of a call site has the name in its lineage. -/
def inheritsFrom (decls : Declarations) (arena : TypeArena) (site : CallSite)
    (declaring : String) : Bool × TypeArena :=
  match site.enclosing with
  | none => (false, arena)
  | some enclosing =>
      let (type, arena) := arena.classType enclosing []
      match decls.lineage arena type with
      | (.ok types, arena) =>
          (types.any fun above => arena.qualifiedName above = declaring, arena)
      | (.error _, arena) => (false, arena)

/-- Whether a call site may use a member that the type named `declaring` declares. -/
def permits (decls : Declarations) (arena : TypeArena) (site : CallSite) (declaring : String) :
    Visibility → Bool × TypeArena
  | .everywhere => (true, arena)
  | .packageOnly => (inPackageOf site declaring, arena)
  | .outermostOnly => (inOutermostOf site declaring, arena)
  | .packageAndHeirs =>
      if inPackageOf site declaring then (true, arena)
      else decls.inheritsFrom arena site declaring

end ChainCompletion.Declarations
