/-
# Ranking -- the best chains

Chains that insert the same text are one proposal, of which the first stays.  The
others are put in order -- fewer accesses first, then fewer arguments to write,
then by text -- and as many are kept as are asked for.  Since texts differ, no two
chains share a place.
-/
import ChainCompletion.Rendering.Renderer
import ChainCompletion.Runs
import ChainCompletion.Text.Order
import ChainCompletion.Thread

namespace ChainCompletion

set_option autoImplicit false

/-- A chain with the text that it inserts. -/
structure RankedChain where
  chain : Chain
  text : String
  deriving DecidableEq

namespace RankedChain

/-- Whether the first chain goes before the second. -/
def precedes (first second : RankedChain) : Bool :=
  match compare first.chain.length second.chain.length with
  | .lt => true
  | .gt => false
  | .eq =>
      match compare first.chain.paramCount second.chain.paramCount with
      | .lt => true
      | .gt => false
      | .eq => Text.precedes first.text.toList second.text.toList

/-- Whether the text of the first chain comes before that of the second. -/
def textPrecedes (first second : RankedChain) : Bool :=
  Text.precedes first.text.toList second.text.toList

/-- The first chain of each text, in order. -/
def ranked (entries : List RankedChain) : List RankedChain :=
  ordered precedes (ordered textPrecedes entries)

end RankedChain

namespace Renderer

/-- A chain with its text. -/
def withText (renderer : Renderer) (chain : Chain) : RankedChain × Renderer :=
  let (text, renderer) := renderer.inserted chain
  (⟨chain, text⟩, renderer)

/-- The best chains of a list, at most `count`, as this renderer writes them. -/
def best (renderer : Renderer) (count : Nat) (chains : List Chain) : List Chain × Renderer :=
  let (entries, renderer) := threadMap withText renderer chains
  (((RankedChain.ranked entries).take count).map (·.chain), renderer)

end Renderer

end ChainCompletion
