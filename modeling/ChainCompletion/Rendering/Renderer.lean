/-
# Rendering.Renderer -- chains as text

A chain is shown in four texts.  The inserted text has a placeholder for each
argument and each array index.  The label has their types and names instead, and
the type of the whole.  The filter text is what typed text is compared with.  The
detail is the label with the full name of the root, or after the full type of the
root where that is a value.

Array indices are named `i`, `i2`, `i3` and so on in order.

A static root is written as the imports of the document allow, and may bring a
new one with it.  The renderer of a request remembers how it wrote each static
root, by qualified name.
-/
import ChainCompletion.Chain
import ChainCompletion.Imports.Scope
import ChainCompletion.Rendering.ParameterName
import ChainCompletion.Rendering.Snippet
import ChainCompletion.TypeArena.Written

namespace ChainCompletion

set_option autoImplicit false

/-- The texts of a chain, and the edits that it needs elsewhere. -/
structure ChainTexts where
  label : String
  detail : String
  insertText : String
  filterText : String
  edits : List TextEdit
  deriving DecidableEq

/-- How a root is written. -/
structure RootSpelling where
  text : String
  edit : Option TextEdit
  deriving DecidableEq

/-! ## Accesses -/

/-- The name of the array index with this number, counted from one. -/
def indexName (number : Nat) : String :=
  if number = 1 then "i" else "i" ++ Nat.repr number

/-- A list of texts with a comma and a space between neighbours. -/
def Fragment.commaSeparated : List (List Fragment) → List Fragment
  | [] => []
  | [item] => item
  | item :: items => item ++ .literal ", ".toList :: commaSeparated items

namespace Access

/-- The number of array indices up to an access, given the number before it. -/
def indicesAfter (indices : Nat) (access : Access) : Nat :=
  match access.member.kind with
  | .arrayElement => indices + 1
  | _ => indices

/-- What is inserted for an access that follows so many array indices. -/
def fragments (arena : TypeArena) (indices : Nat) (access : Access) : List Fragment :=
  let member := access.member
  match member.kind with
  | .field => [.literal ('.' :: member.name.toList)]
  | .method =>
      let arguments := member.params.map fun param =>
        [Fragment.placeholder (param.shownName arena).toList]
      .literal ('.' :: member.name.toList ++ ['(']) ::
        Fragment.commaSeparated arguments ++ [.literal [')']]
  | .arrayElement =>
      [.literal ['['], .placeholder (indexName (indices + 1)).toList, .literal [']']]

/-- What the label shows of an access that follows so many array indices. -/
def label (arena : TypeArena) (indices : Nat) (access : Access) : String :=
  let member := access.member
  match member.kind with
  | .field => "." ++ member.name
  | .method =>
      let params := member.params.map fun param =>
        arena.written .simple param.type ++ " " ++ param.shownName arena
      "." ++ member.name ++ "(" ++ String.intercalate ", " params ++ ")"
  | .arrayElement => "[" ++ indexName (indices + 1) ++ "]"

/-- What the filter text has of an access. -/
def filterText (access : Access) : String :=
  match access.member.kind with
  | .arrayElement => "[]"
  | _ => "." ++ access.member.name

/-- What is inserted for accesses in a row. -/
def fragmentsFrom (arena : TypeArena) : Nat → List Access → List Fragment
  | _, [] => []
  | indices, access :: later =>
      access.fragments arena indices ++ fragmentsFrom arena (access.indicesAfter indices) later

/-- What the label shows of accesses in a row. -/
def labelFrom (arena : TypeArena) : Nat → List Access → String
  | _, [] => ""
  | indices, access :: later =>
      access.label arena indices ++ labelFrom arena (access.indicesAfter indices) later

end Access

/-! ## Roots and chains -/

/-- A value root as text. -/
def Binding.valueText (root : Binding) : String :=
  if root.needsThis then "this." ++ root.name else root.name

/-- How a document can write the static members' type of this name. -/
def ImportScope.spellStatic (scope : ImportScope) (qualified simple : String) : RootSpelling :=
  match scope.useOf qualified with
  | .visible => ⟨simple, none⟩
  | .importable => ⟨simple, some (scope.newImport qualified)⟩
  | .conflict => ⟨qualified, none⟩

/-- What is inserted for a chain whose root is written as given. -/
def Chain.fragments (arena : TypeArena) (root : String) (chain : Chain) : List Fragment :=
  .literal root.toList :: Access.fragmentsFrom arena 0 chain.accesses

/-- Writes the chains of one request. -/
structure Renderer where
  arena : TypeArena
  scope : ImportScope
  /-- Whether the client understands placeholders. -/
  snippets : Bool
  /-- How static roots have been written so far, by qualified name. -/
  known : List (String × RootSpelling)
  deriving DecidableEq

namespace Renderer

/-- A renderer that has written nothing yet. -/
def fresh (arena : TypeArena) (scope : ImportScope) (snippets : Bool) : Renderer :=
  ⟨arena, scope, snippets, []⟩

/-- How a root is written. -/
def spellRoot (renderer : Renderer) (root : Binding) : RootSpelling × Renderer :=
  if root.isStatic then
    let qualified := renderer.arena.qualifiedName root.type
    match renderer.known.lookup qualified with
    | some text => (text, renderer)
    | none =>
        let text := renderer.scope.spellStatic qualified (renderer.arena.simpleName root.type)
        (text, { renderer with known := (qualified, text) :: renderer.known })
  else (⟨root.valueText, none⟩, renderer)

/-- Fragments in the form that the client understands. -/
def form (renderer : Renderer) (fragments : List Fragment) : String :=
  String.ofList (if renderer.snippets then Fragment.snippet fragments else Fragment.plain fragments)

/-- The inserted text of a chain. -/
def inserted (renderer : Renderer) (chain : Chain) : String × Renderer :=
  let (root, renderer) := renderer.spellRoot chain.root
  (renderer.form (chain.fragments renderer.arena root.text), renderer)

/-- The detail of a chain, given its label and what follows the root there. -/
def detail (renderer : Renderer) (chain : Chain) (label rest : String) : String :=
  let root := chain.root
  if root.isStatic then renderer.arena.qualifiedName root.type ++ rest
  else renderer.arena.written .qualified root.type ++ " " ++ label

/-- All texts of a chain. -/
def render (renderer : Renderer) (chain : Chain) : ChainTexts × Renderer :=
  let (root, renderer) := renderer.spellRoot chain.root
  let arena := renderer.arena
  let rest :=
    Access.labelFrom arena 0 chain.accesses ++ " : " ++ arena.written .simple chain.result
  let label := root.text ++ rest
  ({ label := label
     detail := renderer.detail chain label rest
     insertText := renderer.form (chain.fragments arena root.text)
     filterText := root.text ++ String.join (chain.accesses.map Access.filterText)
     edits := root.edit.toList },
    renderer)

end Renderer

end ChainCompletion
