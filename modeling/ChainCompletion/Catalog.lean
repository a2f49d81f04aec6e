/-
# Catalog -- a program held in memory

A catalog is the state behind a view: the types that have come up, the declared
types, what is known at cursors, and the answers to questions of assignability
that have been asked before.

Only answers are remembered, never failures, and only for two different types.
Declaring a type or marking a name unresolved forgets them all, since either may
change any answer; registering a cursor changes none.
-/
import ChainCompletion.Declarations.Assignability
import ChainCompletion.Declarations.Members

namespace ChainCompletion

open Text

set_option autoImplicit false

/-- What is known at a cursor. -/
structure CursorSite where
  /-- The type expected there. -/
  expected : Option TypeId
  /-- What is in reach. -/
  bindings : List Binding
  /-- Whether the cursor stands in the type name of an object creation. -/
  namesNewType : Bool
  callSite : CallSite
  deriving DecidableEq

/-- A cursor of which nothing is known. -/
def CursorSite.unknown : CursorSite := ⟨none, [], false, CallSite.unknown⟩

/-- A program held in memory. -/
structure Catalog where
  arena : TypeArena
  decls : Declarations
  /-- The registered cursors, the latest first. -/
  sites : List (Cursor × CursorSite)
  /-- Remembered answers: whether the first type fits where the second is expected. -/
  known : List ((TypeId × TypeId) × Bool)
  deriving DecidableEq

namespace Catalog

/-- The catalog of the empty program. -/
def empty : Catalog := ⟨.empty, .empty, [], []⟩

/-- Declares a type, or adds to its declaration. -/
def declare (catalog : Catalog) (name : String) (params : Option (List TypeId))
    (supertypes : List TypeId) (members : List MemberDecl) : Catalog :=
  { catalog with
    decls := catalog.decls.declare name params supertypes members
    known := [] }

/-- Marks a name as one that does not resolve. -/
def withUnresolved (catalog : Catalog) (name : String) : Catalog :=
  { catalog with
    decls := catalog.decls.withUnresolved name
    known := [] }

/-- Registers what is known at a cursor, in place of anything known before. -/
def register (catalog : Catalog) (cursor : Cursor) (site : CursorSite) : Catalog :=
  { catalog with sites := (cursor, site) :: catalog.sites }

/-- What is known at a cursor. -/
def siteOf (catalog : Catalog) (cursor : Cursor) : CursorSite :=
  (catalog.sites.lookup cursor).getD CursorSite.unknown

/-- The members of a type. -/
def members (catalog : Catalog) (type : TypeId) (site : CallSite) :
    Except LookupError (List Member) × Catalog :=
  let (answer, arena) := catalog.decls.members catalog.arena type site
  (answer, { catalog with arena := arena })

/-- Whether a value of type `source` can stand where `target` is expected. -/
def assignable (catalog : Catalog) (source target : TypeId) :
    Except LookupError Bool × Catalog :=
  if source = target then (.ok true, catalog)
  else
    match catalog.known.lookup (source, target) with
    | some answer => (.ok answer, catalog)
    | none =>
        match catalog.decls.accepts catalog.arena source target with
        | (.error error, arena) => (.error error, { catalog with arena := arena })
        | (.ok answer, arena) =>
            (.ok answer,
              { catalog with
                arena := arena
                known := ((source, target), answer) :: catalog.known })

/-- The plain class of a declared name. -/
def lookup (catalog : Catalog) (name : String) : Option TypeId × Catalog :=
  match catalog.decls.find? name with
  | none => (none, catalog)
  | some _ =>
      let (type, arena) := catalog.arena.classType name []
      (some type, { catalog with arena := arena })

/-- The catalog as a view of its program. -/
def view : ProgramView Catalog where
  arena := Catalog.arena
  withArena catalog arena := { catalog with arena := arena }
  expected catalog cursor := (catalog.siteOf cursor).expected
  bindings catalog cursor := (catalog.siteOf cursor).bindings
  namesNewType catalog cursor := (catalog.siteOf cursor).namesNewType
  callSite catalog cursor := (catalog.siteOf cursor).callSite
  members := Catalog.members
  assignable := assignable
  lookup := lookup
  arena_withArena _ _ := rfl

end Catalog

end ChainCompletion
