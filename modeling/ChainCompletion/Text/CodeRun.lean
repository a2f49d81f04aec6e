/-
# Text.CodeRun -- classes of characters as tables of code points

A class of characters is a list of runs.  A run holds every `step`-th code point
from `first` to `last`: a block of neighbours has step 1, and the scripts that
alternate capital and small letters give long runs of step 2.

Tables are written in ascending order and their runs do not overlap, so a search
stops at the first run that starts beyond the code point it looks for.
-/

namespace ChainCompletion.Text

set_option autoImplicit false

/-- The code points `first`, `first + step`, … that do not exceed `last`. -/
structure CodeRun where
  first : Nat
  last : Nat
  step : Nat
  deriving DecidableEq

namespace CodeRun

/-- Whether a code point belongs to the run. -/
def contains (run : CodeRun) (code : Nat) : Bool :=
  run.first ≤ code && code ≤ run.last && (code - run.first) % run.step == 0

/-- Whether a code point belongs to one of the runs of an ascending table. -/
def covers : List CodeRun → Nat → Bool
  | [], _ => false
  | run :: runs, code =>
      if code < run.first then false
      else if run.contains code then true
      else covers runs code

end CodeRun

end ChainCompletion.Text
