/-
# Origins -- what to look for, and from where

Before a search the cursor tells the target, the type expected there, and the
roots: what is in reach, and the types named in the settings, as far as the
program knows them.  Some targets have factories, types whose static members make
them; a factory that is not a root already becomes a companion, which is searched
less deeply.

There is no search while a type name is being written, without a target, or for a
target that nearly everything leads to: built-in values, their boxes, strings,
plain objects, and what the settings exclude.  Excluded types are no static roots
either.
-/
import ChainCompletion.Distinct
import ChainCompletion.ProgramView
import ChainCompletion.Settings.Basic
import ChainCompletion.Thread

namespace ChainCompletion

open Text

set_option autoImplicit false

/-- Types that too many members lead to. -/
def trivialNames : List String :=
  ["java.lang.Object", "java.lang.String", "java.lang.Boolean", "java.lang.Byte",
   "java.lang.Character", "java.lang.Short", "java.lang.Integer", "java.lang.Long",
   "java.lang.Float", "java.lang.Double"]

/-- Types with a factory, each with the factory's name. -/
def factories : List (String × String) :=
  [("java.util.List", "java.util.Collections"),
   ("java.util.Set", "java.util.Collections"),
   ("java.util.Map", "java.util.Collections"),
   ("java.util.stream.Collector", "java.util.stream.Collectors")]

/-- The word after which a type name is written. -/
def creationWord : String := "new"

namespace Settings

/-- Whether a type of this name is passed over. -/
def excludesName (settings : Settings) (name : String) : Bool :=
  name ∈ trivialNames || name ∈ settings.excludedTypes

/-- Whether a type is not searched for.  Arrays always are, and unknown types
never. -/
def excludesTarget (settings : Settings) (arena : TypeArena) (type : TypeId) : Bool :=
  match arena.shape? type with
  | none => true
  | some shape =>
      if 0 < shape.dims then false
      else
        match shape.kind with
        | .primitive => true
        | .void => true
        | .typeVariable => false
        | .wildcard => false
        | .classType => settings.excludesName shape.name

/-- Whether a binding is a static root of an excluded type. -/
def excludesRoot (settings : Settings) (arena : TypeArena) (binding : Binding) : Bool :=
  binding.isStatic && settings.excludesName (arena.qualifiedName binding.type)

end Settings

/-- What a search starts from. -/
structure Origins where
  target : TypeId
  roots : List Binding
  /-- Factories of the target that are not among the roots. -/
  companions : List Binding
  deriving DecidableEq

namespace Origins

variable {σ : Type}

/-- The static root of a qualified name, if the program knows a type of that name
and the settings do not exclude it. -/
def staticRoot (view : ProgramView σ) (settings : Settings) (state : σ) (name : String) :
    Option Binding × σ :=
  match view.lookup state name with
  | (none, state) => (none, state)
  | (some type, state) =>
      let arena := view.arena state
      let binding := Binding.ofStaticType (arena.simpleName type) type
      (if settings.excludesRoot arena binding then none else some binding, state)

/-- The static roots of a list of names, without those that have none. -/
def staticRoots (view : ProgramView σ) (settings : Settings) (state : σ) (names : List String) :
    List Binding × σ :=
  let (bindings, state) := threadMap (staticRoot view settings) state names
  (bindings.filterMap id, state)

/-- The names of the factories of a type. -/
def factoriesOf (arena : TypeArena) (type : TypeId) : List String :=
  match arena.shape? type with
  | none => []
  | some shape =>
      if 0 < shape.dims then []
      else (factories.filter fun entry => entry.1 = shape.name).map (·.2)

/-- The roots for a target at a cursor. -/
def forTarget (view : ProgramView σ) (settings : Settings) (state : σ) (cursor : Cursor)
    (target : TypeId) : Origins × σ :=
  let arena := view.arena state
  let visible := (view.bindings state cursor).filter fun binding =>
    !settings.excludesRoot arena binding
  let (named, state) := staticRoots view settings state settings.staticRoots
  let roots := distinct (visible ++ named)
  let (makers, state) := staticRoots view settings state (factoriesOf arena target)
  (⟨target, roots, distinct (makers.filter fun binding => binding ∉ roots)⟩, state)

/-- The target and the roots at a cursor, with the text typed before it; none when
there is nothing to search for. -/
def collect (view : ProgramView σ) (settings : Settings) (state : σ) (cursor : Cursor)
    (typed : String) : Option Origins × σ :=
  if typed = creationWord || view.namesNewType state cursor then (none, state)
  else
    match view.expected state cursor with
    | none => (none, state)
    | some target =>
        let arena := view.arena state
        if arena.isVoid target || settings.excludesTarget arena target then (none, state)
        else
          let (set, state) := forTarget view settings state cursor target
          (some set, state)

end Origins

end ChainCompletion
