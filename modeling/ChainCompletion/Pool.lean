/-
# Pool -- every value once, under a number of its own

A pool stores values in the order in which they first arrive and numbers them
from zero.  Adding a value that is already there gives its number back and
changes nothing.  So the value of a number is the one it was given for
(`get?_add_self`).
-/

namespace ChainCompletion

set_option autoImplicit false

/-- The stored values; a value's number is its place in the list. -/
structure Pool (α : Type) where
  values : List α
  deriving DecidableEq

namespace Pool

variable {α : Type}

/-- The pool without values. -/
def empty : Pool α := ⟨[]⟩

/-- The number of values. -/
def size (pool : Pool α) : Nat :=
  pool.values.length

/-- Whether there are no values. -/
def isEmpty (pool : Pool α) : Bool :=
  pool.values.isEmpty

/-- The value with a number, if that number has been given out. -/
def get? (pool : Pool α) (number : Nat) : Option α :=
  pool.values[number]?

/-- The number of a value, which is stored unless it is there already. -/
def add [DecidableEq α] (pool : Pool α) (value : α) : Nat × Pool α :=
  match pool.values.findIdx? (· = value) with
  | some number => (number, pool)
  | none => (pool.size, ⟨pool.values ++ [value]⟩)

/-- The number that a value gets is the number of that value. -/
theorem get?_add_self [DecidableEq α] (pool : Pool α) (value : α) :
    (pool.add value).2.get? (pool.add value).1 = some value := by
  rw [add]
  split
  · next number found =>
      obtain ⟨bound, holds, -⟩ := List.findIdx?_eq_some_iff_getElem.1 found
      simp only [decide_eq_true_eq] at holds
      simp [get?, List.getElem?_eq_getElem bound, holds]
  · simp [get?, size]

/-- The one-line description of a pool. -/
def text (pool : Pool α) : String :=
  "Interner \x7b count: " ++ Nat.repr pool.size ++ " \x7d"

end Pool

end ChainCompletion
