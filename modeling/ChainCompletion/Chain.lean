/-
# Chain -- a root and the accesses that lead from it

A chain is written from left to right: the root, then one access after the other.
Each access remembers the type it was made on, its receiver.
-/
import ChainCompletion.Member

namespace ChainCompletion

set_option autoImplicit false

/-- An access to a member of a receiver. -/
structure Access where
  member : Member
  receiver : TypeId
  deriving DecidableEq

/-- A root, accesses and the type of the whole. -/
structure Chain where
  root : Binding
  accesses : List Access
  result : TypeId
  deriving DecidableEq

namespace Chain

/-- The number of accesses. -/
def length (chain : Chain) : Nat :=
  chain.accesses.length

/-- Whether the chain is its root alone. -/
def isEmpty (chain : Chain) : Bool :=
  chain.accesses.isEmpty

/-- The number of arguments that the methods of the chain take together. -/
def paramCount (chain : Chain) : Nat :=
  chain.accesses.foldr (fun access count => access.member.params.length + count) 0

/-- The member accessed last. -/
def lastMember? (chain : Chain) : Option Member :=
  chain.accesses.getLast?.map (·.member)

end Chain

end ChainCompletion
