/-
# Search.Limits -- how far a search may go

A search is limited in the length of chains, the number of results, the number of
nodes that wait to be looked at, and in time.  From outside it can be cancelled.
Both are noticed before a node is looked at, and only there.

A search does not read a clock itself.  `Signals` tells, for each number of nodes
looked at so far, how much time has passed, and after how many of them the request
was cancelled; what has been cancelled stays so.
-/
import ChainCompletion.Settings.Basic

namespace ChainCompletion.Search

set_option autoImplicit false

/-- The limits of a search. -/
structure Limits where
  maxDepth : Nat
  maxResults : Nat
  /-- The most nodes that may wait when another one joins them. -/
  maxFrontier : Nat
  timeoutMs : Nat
  deriving DecidableEq

/-- How many nodes may wait in an ordinary search. -/
def standardFrontier : Nat := 50000

/-- The most accesses after a companion root. -/
def companionDepth : Nat := 2

/-- The limits that settings ask for, unless they are at fault. -/
def Limits.ofSettings (settings : Settings) : Except SettingsFault Limits :=
  match settings.fault? with
  | some fault => .error fault
  | none => .ok ⟨settings.maxDepth, settings.maxResults, standardFrontier, settings.timeoutMs⟩

/-- Why a search ended. -/
inductive StopReason where
  /-- No node was left. -/
  | exhausted
  /-- There were enough results. -/
  | resultLimit
  /-- Time was up. -/
  | deadline
  /-- The request was cancelled. -/
  | cancelled
  deriving DecidableEq

/-- What reaches a search from outside while it runs. -/
structure Signals where
  /-- The milliseconds that have passed once so many nodes have been looked at. -/
  elapsedMs : Nat → Nat
  /-- The number of nodes looked at when the request was cancelled, if it was. -/
  cancelledAfter : Option Nat

namespace Signals

/-- No time passes and nothing is cancelled. -/
def quiet : Signals := ⟨fun _ => 0, none⟩

/-- Whether the request is cancelled once so many nodes have been looked at. -/
def isCancelled (signals : Signals) (expanded : Nat) : Bool :=
  signals.cancelledAfter.any (· ≤ expanded)

/-- Why a search must end now, if it must; being cancelled comes before being late. -/
def interruption? (signals : Signals) (limits : Limits) (expanded : Nat) : Option StopReason :=
  if signals.isCancelled expanded then some .cancelled
  else if limits.timeoutMs ≤ signals.elapsedMs expanded then some .deadline
  else none

end Signals

end ChainCompletion.Search
