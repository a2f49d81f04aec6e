/-
# ProgramView -- the questions a search asks about a program

A view answers questions about one snapshot of a program: what is expected and
visible at a cursor, which members a type has, whether a value of one type can
stand where another is expected, and what type a name belongs to.  The program
itself is a state of any type `σ`.  Answering may change it -- new types join the
arena, answers may be remembered -- so these questions return the state after
them.  Nothing obliges a view to give the same answer twice.

`ProgramView.overlay` lays recorded answers over a view: questions that have one
are answered from the record, and all others by the view below.
-/
import ChainCompletion.Member
import ChainCompletion.Text.Position

namespace ChainCompletion

open Text

set_option autoImplicit false

/-- Why a question about a type has no answer. -/
inductive LookupError where
  | unresolvedType (name : String)
  | unresolvedMember (owner member : String)
  | speculative (reason : String)
  deriving DecidableEq

/-- The wording of an error. -/
def LookupError.message : LookupError → String
  | .unresolvedType name => "cannot resolve type `" ++ name ++ "`"
  | .unresolvedMember owner member =>
      "cannot resolve member `" ++ member ++ "` of `" ++ owner ++ "`"
  | .speculative reason => "speculative analysis failed: " ++ reason

/-- Answers about a program whose state is a `σ`. -/
structure ProgramView (σ : Type) where
  /-- The arena that all types of the answers belong to. -/
  arena : σ → TypeArena
  /-- The state with another arena. -/
  withArena : σ → TypeArena → σ
  /-- The type expected at a cursor, if that can be told. -/
  expected : σ → Cursor → Option TypeId
  /-- What is in reach of a cursor. -/
  bindings : σ → Cursor → List Binding
  /-- Whether a cursor stands in the type name of an object creation. -/
  namesNewType : σ → Cursor → Bool
  /-- The call site at a cursor. -/
  callSite : σ → Cursor → CallSite
  /-- The members of a type, marked accessible or not for a call site. -/
  members : σ → TypeId → CallSite → Except LookupError (List Member) × σ
  /-- Whether a value of the first type can stand where the second is expected. -/
  assignable : σ → TypeId → TypeId → Except LookupError Bool × σ
  /-- The type with a qualified name. -/
  lookup : σ → String → Option TypeId × σ
  arena_withArena : ∀ state other, arena (withArena state other) = other

/-- Recorded answers to some of the questions. -/
structure Overlay where
  members : List (TypeId × Except LookupError (List Member))
  assignable : List ((TypeId × TypeId) × Except LookupError Bool)
  /-- Whether call sites and names stay unknown. -/
  bare : Bool

/-- The overlay that changes nothing. -/
def Overlay.none : Overlay := ⟨[], [], false⟩

/-- The view that answers from the record first; of several entries for one
question the first counts. -/
def ProgramView.overlay {σ : Type} (view : ProgramView σ) (record : Overlay) : ProgramView σ where
  arena := view.arena
  withArena := view.withArena
  expected := view.expected
  bindings := view.bindings
  namesNewType := view.namesNewType
  callSite state cursor :=
    if record.bare then CallSite.unknown else view.callSite state cursor
  members state type site :=
    match record.members.lookup type with
    | some answer => (answer, state)
    | Option.none => view.members state type site
  assignable state source target :=
    match record.assignable.lookup (source, target) with
    | some answer => (answer, state)
    | Option.none => view.assignable state source target
  lookup state name := if record.bare then (Option.none, state) else view.lookup state name
  arena_withArena := view.arena_withArena

end ChainCompletion
