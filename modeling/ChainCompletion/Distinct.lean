/-
# Distinct -- lists without repetition, in order of arrival

Sets whose order shows are lists that hold each element once, where it came first:
`distinct` keeps the elements of a list (`mem_distinct`) and repeats none
(`nodup_distinct`).
-/

namespace ChainCompletion

set_option autoImplicit false

variable {α : Type} [DecidableEq α]

/-- The list with an element at its end, unless it is there already. -/
def addNew (items : List α) (item : α) : List α :=
  if item ∈ items then items else items ++ [item]

/-- The first occurrences of a list's elements. -/
def distinct (items : List α) : List α :=
  items.foldl addNew []

@[simp] theorem mem_addNew {items : List α} {item other : α} :
    other ∈ addNew items item ↔ other ∈ items ∨ other = item := by
  rw [addNew]
  split
  · next present =>
      constructor
      · exact Or.inl
      · rintro (old | rfl)
        · exact old
        · exact present
  · simp

theorem nodup_addNew {items : List α} (unique : items.Nodup) (item : α) :
    (addNew items item).Nodup := by
  rw [addNew]
  split
  · exact unique
  · next absent =>
      rw [List.nodup_append]
      refine ⟨unique, by simp, ?_⟩
      rintro old member new (_ | ⟨_, ⟨⟩⟩) rfl
      exact absent member

theorem mem_foldl_addNew {items seen : List α} {item : α} :
    item ∈ items.foldl addNew seen ↔ item ∈ seen ∨ item ∈ items := by
  induction items generalizing seen with
  | nil => simp
  | cons first rest ih => simp [ih, or_assoc]

theorem nodup_foldl_addNew {items seen : List α} (unique : seen.Nodup) :
    (items.foldl addNew seen).Nodup := by
  induction items generalizing seen with
  | nil => exact unique
  | cons first rest ih => exact ih (nodup_addNew unique first)

@[simp] theorem mem_distinct {items : List α} {item : α} :
    item ∈ distinct items ↔ item ∈ items := by
  simp [distinct, mem_foldl_addNew]

theorem nodup_distinct (items : List α) : (distinct items).Nodup :=
  nodup_foldl_addNew (by simp)

end ChainCompletion
