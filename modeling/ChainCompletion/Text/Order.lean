/-
# Text.Order -- texts in order

Texts are ordered by their first difference: the one with the smaller code point
there comes first, and a text comes before all that continue it.  `precedes` is
this order without equality; of two different texts one precedes the other
(`precedes_or_precedes`), and never both (`not_precedes_of_precedes`).
-/

namespace ChainCompletion.Text

set_option autoImplicit false

/-- Whether the first text comes before the second. -/
def precedes : List Char → List Char → Bool
  | _, [] => false
  | [], _ :: _ => true
  | a :: first, b :: second => a.toNat < b.toNat || (a = b && precedes first second)

/-- No text comes before itself. -/
theorem not_precedes_self (text : List Char) : precedes text text = false := by
  induction text with
  | nil => rfl
  | cons c rest ih => simp [precedes, ih]

/-- Of two different texts one comes before the other. -/
theorem precedes_or_precedes {first second : List Char} (differ : first ≠ second) :
    precedes first second = true ∨ precedes second first = true := by
  induction first generalizing second with
  | nil =>
      cases second with
      | nil => exact absurd rfl differ
      | cons b second => exact Or.inl rfl
  | cons a first ih =>
      cases second with
      | nil => exact Or.inr rfl
      | cons b second =>
          by_cases same : a = b
          · subst same
            have rest : first ≠ second := fun equal => differ (by rw [equal])
            rcases ih rest with before | after
            · exact Or.inl (by simp [precedes, before])
            · exact Or.inr (by simp [precedes, after])
          · have codes : a.toNat ≠ b.toNat := fun equal => same (Char.toNat_inj.1 equal)
            rcases Nat.lt_or_gt_of_ne codes with less | greater
            · exact Or.inl (by simp [precedes, less])
            · exact Or.inr (by simp [precedes, greater])

/-- Two texts do not come before each other. -/
theorem not_precedes_of_precedes {first second : List Char}
    (before : precedes first second = true) : precedes second first = false := by
  induction first generalizing second with
  | nil => cases second <;> rfl
  | cons a first ih =>
      cases second with
      | nil => simp [precedes] at before
      | cons b second =>
          simp only [precedes, Bool.or_eq_true, decide_eq_true_eq, Bool.and_eq_true] at before
          rcases before with less | ⟨same, later⟩
          · have apart : b ≠ a := fun equal => by rw [equal] at less; omega
            have notLess : ¬ b.toNat < a.toNat := by omega
            simp [precedes, notLess, apart]
          · subst same
            simp [precedes, ih later]

/-- Whatever comes before a text comes before all that this one comes before. -/
theorem precedes_trans {first second third : List Char}
    (before : precedes first second = true) (after : precedes second third = true) :
    precedes first third = true := by
  induction first generalizing second third with
  | nil =>
      cases third with
      | nil => cases second <;> simp [precedes] at after
      | cons c third => rfl
  | cons a first ih =>
      cases second with
      | nil => simp [precedes] at before
      | cons b second =>
          cases third with
          | nil => simp [precedes] at after
          | cons c third =>
              simp only [precedes, Bool.or_eq_true, decide_eq_true_eq, Bool.and_eq_true]
                at before after ⊢
              rcases before with less | ⟨rfl, later⟩
              · rcases after with less' | ⟨rfl, _⟩
                · exact Or.inl (Nat.lt_trans less less')
                · exact Or.inl less
              · rcases after with less' | ⟨rfl, later'⟩
                · exact Or.inl less'
                · exact Or.inr ⟨rfl, ih later later'⟩

end ChainCompletion.Text
