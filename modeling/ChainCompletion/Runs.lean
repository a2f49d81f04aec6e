/-
# Runs -- elements in order, every place taken once

Where it is told which elements come before which, those that do not come before each
other share a place.  `ordered` puts the elements of a list in order; of elements that
share a place the first stays.

A run is a list that is in order already.  Runs are merged two by two, as equal in size
as they can be, so that long lists take few comparisons.
-/

namespace ChainCompletion

set_option autoImplicit false

variable {α : Type} (before : α → α → Bool)

/-- Two runs as one.  An element of the second whose place is taken is left out. -/
def mergeRuns : List α → List α → List α
  | first, [] => first
  | first, item :: second =>
      let late := first.dropWhile (before · item)
      first.takeWhile (before · item) ++
        -- if the place is taken, then by the first of the late elements
        if late.head?.all (before item) then item :: mergeRuns late second
        else mergeRuns late second

/-- Adds a run to others, the latest and smallest of them first, and merges it with those
of its size. -/
def addRun (run : List α) : List (List α) → List (List α)
  | [] => [run]
  | [] :: runs => run :: runs
  | other :: runs => [] :: addRun (mergeRuns before other run) runs

/-- The elements of a list in order, of each place the first. -/
def ordered (items : List α) : List α :=
  let runs := items.foldl (fun runs item => addRun before [item] runs) []
  runs.foldl (fun later run => mergeRuns before run later) []

end ChainCompletion
