/-
# Thread -- lists worked off one element after the other

Questions about types may add types to an arena, so a list of questions is asked
from left to right and each answer sees the state that the one before it left
(`threadMap`).  Work that can end early carries its reason along (`workOff`).
-/

namespace ChainCompletion

set_option autoImplicit false

variable {σ α β ρ : Type}

/-- The answers for the elements of a list, in order, and the state after the
last of them. -/
def threadMap (ask : σ → α → β × σ) : σ → List α → List β × σ
  | state, [] => ([], state)
  | state, item :: items =>
      let (answer, state) := ask state item
      let (answers, state) := threadMap ask state items
      (answer :: answers, state)

@[simp] theorem threadMap_nil (ask : σ → α → β × σ) (state : σ) :
    threadMap ask state [] = ([], state) := rfl

theorem threadMap_cons (ask : σ → α → β × σ) (state : σ) (item : α) (items : List α) :
    threadMap ask state (item :: items) =
      ((ask state item).1 :: (threadMap ask (ask state item).2 items).1,
        (threadMap ask (ask state item).2 items).2) := rfl

/-- Every element has one answer. -/
@[simp] theorem length_threadMap (ask : σ → α → β × σ) (state : σ) (items : List α) :
    (threadMap ask state items).1.length = items.length := by
  induction items generalizing state with
  | nil => rfl
  | cons item items ih => simp [threadMap_cons, ih]

/-- What every question keeps, a list of questions keeps. -/
theorem threadMap_keeps {keep : σ → Prop} {ask : σ → α → β × σ} {items : List α}
    (kept : ∀ item ∈ items, ∀ state, keep state → keep (ask state item).2)
    {state : σ} (start : keep state) : keep (threadMap ask state items).2 := by
  induction items generalizing state with
  | nil => exact start
  | cons item items ih =>
      rw [threadMap_cons]
      exact ih (fun other member => kept other (by simp [member])) (kept item (by simp) state start)

/-- Questions whose answers do not depend on the state are answered one by one. -/
theorem threadMap_eq_map {keep : σ → Prop} {ask : σ → α → β × σ} {answer : α → β}
    {items : List α}
    (kept : ∀ item ∈ items, ∀ state, keep state → keep (ask state item).2)
    (answered : ∀ item ∈ items, ∀ state, keep state → (ask state item).1 = answer item)
    {state : σ} (start : keep state) : (threadMap ask state items).1 = items.map answer := by
  induction items generalizing state with
  | nil => rfl
  | cons item items ih =>
      rw [threadMap_cons, List.map_cons, answered item (by simp) state start,
        ih (fun other member => kept other (by simp [member]))
          (fun other member => answered other (by simp [member])) (kept item (by simp) state start)]

/-- The state after working off a list, or after the element that gave a reason to
stop, together with that reason. -/
def workOff (work : σ → α → σ × Option ρ) : σ → List α → σ × Option ρ
  | state, [] => (state, none)
  | state, item :: items =>
      match work state item with
      | (state, some reason) => (state, some reason)
      | (state, none) => workOff work state items

@[simp] theorem workOff_nil (work : σ → α → σ × Option ρ) (state : σ) :
    workOff work state [] = (state, none) := rfl

/-- Working off a list that continues another goes on where that one left off,
unless there was a reason to stop before. -/
theorem workOff_append (work : σ → α → σ × Option ρ) (state : σ) (first second : List α) :
    workOff work state (first ++ second) =
      match workOff work state first with
      | (state, some reason) => (state, some reason)
      | (state, none) => workOff work state second := by
  induction first generalizing state with
  | nil => rfl
  | cons item items ih =>
      rw [List.cons_append, workOff, workOff]
      split
      · rfl
      · exact ih _

/-- What every piece of work keeps, working off a list keeps. -/
theorem workOff_keeps {keep : σ → Prop} {work : σ → α → σ × Option ρ} {items : List α}
    (kept : ∀ item ∈ items, ∀ state, keep state → keep (work state item).1)
    {state : σ} (start : keep state) : keep (workOff work state items).1 := by
  induction items generalizing state with
  | nil => exact start
  | cons item items ih =>
      have after := kept item (by simp) state start
      rw [workOff]
      split
      · next stopped => simpa [stopped] using after
      · next going =>
          rw [going] at after
          exact ih (fun other member => kept other (by simp [member])) after

/-- What holds as long as work goes on, and what holds when it ends early, also hold of
working off a list. -/
theorem workOff_outcome {going : σ → Prop} {ended : σ → ρ → Prop} {work : σ → α → σ × Option ρ}
    {items : List α}
    (step : ∀ item ∈ items, ∀ state, going state →
      ((work state item).2 = none → going (work state item).1) ∧
      ∀ reason, (work state item).2 = some reason → ended (work state item).1 reason)
    {state : σ} (start : going state) :
    ((workOff work state items).2 = none → going (workOff work state items).1) ∧
    ∀ reason, (workOff work state items).2 = some reason →
      ended (workOff work state items).1 reason := by
  induction items generalizing state with
  | nil => exact ⟨fun _ => start, by simp⟩
  | cons item items ih =>
      obtain ⟨goes, ends⟩ := step item (by simp) state start
      rw [workOff]
      split
      · next stopped =>
          rw [stopped] at ends
          exact ⟨by simp, ends⟩
      · next going' =>
          rw [going'] at goes
          exact ih (fun other member => step other (by simp [member])) (goes rfl)

/-- Work that is mirrored piece by piece is mirrored on the whole, and ends for the same
reason. -/
theorem workOff_mirrors {τ γ : Type} {mirror : σ → τ → Prop} {work : σ → α → σ × Option ρ}
    {work' : τ → γ → τ × Option ρ} {image : α → γ} {items : List α}
    (step : ∀ item ∈ items, ∀ state other, mirror state other →
      mirror (work state item).1 (work' other (image item)).1 ∧
        (work state item).2 = (work' other (image item)).2)
    {state : σ} {other : τ} (start : mirror state other) :
    mirror (workOff work state items).1 (workOff work' other (items.map image)).1 ∧
      (workOff work state items).2 = (workOff work' other (items.map image)).2 := by
  induction items generalizing state other with
  | nil => exact ⟨start, rfl⟩
  | cons item items ih =>
      obtain ⟨mirrored, same⟩ := step item (by simp) state other start
      rw [List.map_cons, workOff, workOff]
      cases done : work state item with
      | mk after stop =>
          cases done' : work' other (image item) with
          | mk after' stop' =>
              rw [done, done'] at mirrored same
              simp only at mirrored same
              subst same
              cases stop with
              | some reason => exact ⟨mirrored, rfl⟩
              | none => exact ih (fun later isThere => step later (by simp [isThere])) mirrored

end ChainCompletion
