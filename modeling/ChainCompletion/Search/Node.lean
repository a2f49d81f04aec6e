/-
# Search.Node -- places that a chain has reached

A node remembers where its chain started, how long that chain may become, and the
accesses so far.  A member leads on from it in one of two ways: it completes a
chain, or it gives a node one access further, provided that the chain stays within
its bound and does not come back to a type that it has passed.

Chains from the roots of a request may be as long as the search is deep, chains
from its companions at most `companionDepth`.
-/
import ChainCompletion.Chain
import ChainCompletion.Search.Limits

namespace ChainCompletion.Search

set_option autoImplicit false

/-- What to search for. -/
structure Request where
  target : TypeId
  roots : List Binding
  /-- Roots from which only short chains start. -/
  companions : List Binding
  callSite : CallSite
  /-- The text typed before the cursor. -/
  typed : String
  deriving DecidableEq

/-- A place that a chain has reached. -/
structure Node where
  root : Binding
  /-- The most accesses of a chain from this root. -/
  bound : Nat
  type : TypeId
  path : List Access
  deriving DecidableEq

namespace Node

/-- The place where a chain from a root starts. -/
def ofRoot (bound : Nat) (root : Binding) : Node := ⟨root, bound, root.type, []⟩

/-- Whether the node is a type that stands for its static members. -/
def isStatic (node : Node) : Bool :=
  node.path.isEmpty && node.root.isStatic

/-- Whether a member of the node's type is worth following. -/
def admits (node : Node) (arena : TypeArena) (member : Member) : Bool :=
  member.accessible && member.isStatic = node.isStatic &&
    !arena.isVoid member.result && !arena.isPrimitive member.result

/-- The path with one access more. -/
def pathTo (node : Node) (member : Member) : List Access :=
  node.path ++ [⟨member, node.type⟩]

/-- Whether the type is that of the root or of an access on the way. -/
def hasPassed (node : Node) (type : TypeId) : Bool :=
  node.root.type = type || node.path.any fun access => access.member.result = type

/-- The chain that a member completes. -/
def complete (node : Node) (member : Member) : Chain :=
  ⟨node.root, node.pathTo member, member.result⟩

/-- The place that a member leads to. -/
def extend (node : Node) (member : Member) : Node :=
  ⟨node.root, node.bound, member.result, node.pathTo member⟩

/-- Whether a chain through a member may go on after it. -/
def mayExtend (node : Node) (member : Member) : Bool :=
  node.path.length + 1 < node.bound && !node.hasPassed member.result

end Node

/-- The nodes of the first round: the roots, then the companions. -/
def Request.firstNodes (request : Request) (limits : Limits) : List Node :=
  request.roots.map (Node.ofRoot limits.maxDepth) ++
    request.companions.map (Node.ofRoot (min limits.maxDepth companionDepth))

end ChainCompletion.Search
