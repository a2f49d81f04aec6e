/-
# Proofs.Lines -- texts line by line

A text is empty, or one line without a break, or a line, its break and another text
(`line_induction`).  So a text that continues another behind a line break has the lines of
both (`lines_append`), lines taken from the start or the end of a text are the lines of what
they make up (`lines_flatten_take`, `lines_flatten_drop`), and only the last line can lack
its break (`drop_eq_nil_of_unbroken`, `ended_of_lines`).

Where lines count without the blanks around them, a break at the end of a text makes no
difference (`map_trim_lines_break`).
-/
import ChainCompletion.Text.Blank
import ChainCompletion.Text.Pieces

namespace ChainCompletion.Text

set_option autoImplicit false

/-! ## Lines -/

theorem lines_ne_nil {text : List Char} (given : text ≠ []) : lines text ≠ [] := by
  cases text with
  | nil => exact absurd rfl given
  | cons c rest =>
      rw [lines]
      split
      · exact List.cons_ne_nil _ _
      · split <;> exact List.cons_ne_nil _ _

/-- A text without breaks is one line. -/
theorem lines_of_not_mem {text : List Char} (given : text ≠ []) (unbroken : '\n' ∉ text) :
    lines text = [text] := by
  induction text with
  | nil => exact absurd rfl given
  | cons c rest ih =>
      rw [List.mem_cons, not_or] at unbroken
      have differs : c ≠ '\n' := fun same => unbroken.1 same.symm
      rw [lines, if_neg differs]
      cases rest with
      | nil => rfl
      | cons d rest => rw [ih (List.cons_ne_nil _ _) unbroken.2]

/-- What follows a break does not change the lines before it. -/
theorem lines_append_break (first second : List Char) :
    lines (first ++ '\n' :: second) = lines (first ++ ['\n']) ++ lines second := by
  induction first with
  | nil => simp [lines]
  | cons c first ih =>
      rw [List.cons_append, List.cons_append, lines, lines, ih]
      split
      · rfl
      · obtain ⟨line, later, found⟩ := List.exists_cons_of_ne_nil
          (lines_ne_nil (List.append_ne_nil_of_right_ne_nil first (List.cons_ne_nil '\n' [])))
        rw [found]
        rfl

/-- The first line of a text with a break ends with that. -/
theorem lines_body {body : List Char} (unbroken : '\n' ∉ body) (rest : List Char) :
    lines (body ++ '\n' :: rest) = (body ++ ['\n']) :: lines rest := by
  induction body with
  | nil => simp [lines]
  | cons c body ih =>
      rw [List.mem_cons, not_or] at unbroken
      have differs : c ≠ '\n' := fun same => unbroken.1 same.symm
      rw [List.cons_append, lines, if_neg differs, ih unbroken.2]
      rfl

/-- A text is read line by line. -/
@[elab_as_elim]
theorem line_induction {motive : List Char → Prop} (text : List Char) (empty : motive [])
    (last : ∀ tail, tail ≠ [] → '\n' ∉ tail → motive tail)
    (line : ∀ body rest, '\n' ∉ body → motive rest → motive (body ++ '\n' :: rest)) :
    motive text := by
  by_cases given : text = []
  · rw [given]
    exact empty
  by_cases broken : '\n' ∈ text
  · obtain ⟨body, rest, split, unbroken⟩ := List.eq_append_cons_of_mem broken
    rw [split]
    exact line body rest unbroken (line_induction rest empty last line)
  · exact last text given broken
termination_by text.length
decreasing_by
  rw [split, List.length_append, List.length_cons]
  omega

/-- A text that continues another behind a break has the lines of both. -/
theorem lines_append {first : List Char} (ended : first = [] ∨ first.getLast? = some '\n')
    (second : List Char) : lines (first ++ second) = lines first ++ lines second := by
  rcases ended with rfl | ended
  · rfl
  · obtain ⟨before, rfl⟩ := List.getLast?_eq_some_iff.1 ended
    rw [List.append_assoc, List.singleton_append, lines_append_break]

/-- Lines from the start of a text are the lines of what they make up. -/
theorem lines_flatten_take (text : List Char) (count : Nat) :
    lines ((lines text).take count).flatten = (lines text).take count := by
  induction text using line_induction generalizing count with
  | empty => simp [lines]
  | last tail given unbroken =>
      rw [lines_of_not_mem given unbroken]
      cases count with
      | zero => rfl
      | succ count => simpa using lines_of_not_mem given unbroken
  | line body rest unbroken ih =>
      rw [lines_body unbroken]
      cases count with
      | zero => rfl
      | succ count => simp [lines_body unbroken, ih]

/-- Lines up to the end of a text are the lines of what they make up. -/
theorem lines_flatten_drop (text : List Char) (count : Nat) :
    lines ((lines text).drop count).flatten = (lines text).drop count := by
  induction text using line_induction generalizing count with
  | empty => simp [lines]
  | last tail given unbroken =>
      rw [lines_of_not_mem given unbroken]
      cases count with
      | zero => simpa using lines_of_not_mem given unbroken
      | succ count => simp [lines]
  | line body rest unbroken ih =>
      rw [lines_body unbroken]
      cases count with
      | zero => simp [lines_body unbroken, flatten_lines]
      | succ count => exact ih count

/-- No line is empty. -/
theorem ne_nil_of_mem_lines {text line : List Char} (isLine : line ∈ lines text) : line ≠ [] := by
  induction text using line_induction with
  | empty => simp [lines] at isLine
  | last tail given unbroken =>
      rw [lines_of_not_mem given unbroken, List.mem_singleton] at isLine
      rwa [isLine]
  | line body rest unbroken ih =>
      rw [lines_body unbroken, List.mem_cons] at isLine
      rcases isLine with rfl | isLater
      · simp
      · exact ih isLater

/-- Behind a line without a break there is no other. -/
theorem drop_eq_nil_of_unbroken {text line : List Char} {count : Nat}
    (isLast : ((lines text).take count).getLast? = some line)
    (unbroken : line.getLast? ≠ some '\n') : (lines text).drop count = [] := by
  induction text using line_induction generalizing count with
  | empty => simp [lines]
  | last tail given unbroken' =>
      rw [lines_of_not_mem given unbroken'] at isLast ⊢
      cases count with
      | zero => simp at isLast
      | succ count => simp
  | line body rest unbroken' ih =>
      rw [lines_body unbroken'] at isLast ⊢
      cases count with
      | zero => simp at isLast
      | succ count =>
          rw [List.take_succ_cons, List.getLast?_cons] at isLast
          cases found : ((lines rest).take count).getLast? with
          | none =>
              rw [found] at isLast
              exact absurd (by simp [← Option.some.inj isLast]) unbroken
          | some other =>
              rw [found] at isLast
              exact ih (found.trans isLast)

/-- A text made of lines ends as the last of them does. -/
theorem getLast?_flatten {parts : List (List Char)} {line : List Char}
    (isLast : parts.getLast? = some line) (given : line ≠ []) :
    parts.flatten.getLast? = line.getLast? := by
  obtain ⟨before, rfl⟩ := List.getLast?_eq_some_iff.1 isLast
  rw [List.flatten_append, List.flatten_singleton, List.getLast?_append,
    List.getLast?_eq_some_getLast given]
  rfl

/-- Only the last line of a text can lack its break. -/
theorem ended_of_lines {source above line : List Char} {below : List (List Char)}
    (split : lines source = lines above ++ line :: below) :
    above = [] ∨ above.getLast? = some '\n' := by
  by_cases given : above = []
  · exact Or.inl given
  · obtain ⟨last, isLast⟩ : ∃ last, (lines above).getLast? = some last :=
      ⟨_, List.getLast?_eq_some_getLast (lines_ne_nil given)⟩
    have ends := getLast?_flatten isLast (ne_nil_of_mem_lines (List.mem_of_getLast? isLast))
    rw [flatten_lines] at ends
    by_cases broken : last.getLast? = some '\n'
    · exact Or.inr (ends.trans broken)
    · have upTo : (lines source).take (lines above).length = lines above := by
        rw [split, List.take_left]
      have nothing := drop_eq_nil_of_unbroken (upTo.symm ▸ isLast) broken
      rw [split, List.drop_left] at nothing
      cases nothing

/-- If a text ends with a break, so does each of its lines. -/
theorem ended_of_mem_lines {text line : List Char}
    (ended : text = [] ∨ text.getLast? = some '\n') (isLine : line ∈ lines text) :
    line.getLast? = some '\n' := by
  induction text using line_induction with
  | empty => simp [lines] at isLine
  | last tail given unbroken =>
      rcases ended with rfl | ended
      · exact absurd rfl given
      · exact absurd (List.mem_of_getLast? ended) unbroken
  | line body rest unbroken ih =>
      rw [lines_body unbroken, List.mem_cons] at isLine
      rcases isLine with rfl | isLater
      · simp
      · refine ih ?_ isLater
        cases last : rest.getLast? with
        | none => exact Or.inl (List.getLast?_eq_none_iff.1 last)
        | some c => exact Or.inr (by simpa [List.getLast?_cons, last] using ended)

/-- Every text ends in a line without a break, which may be empty. -/
theorem exists_last_line (text : List Char) :
    ∃ start lead, text = start ++ lead ∧ (start = [] ∨ start.getLast? = some '\n') ∧
      '\n' ∉ lead := by
  induction text using line_induction with
  | empty => exact ⟨[], [], rfl, Or.inl rfl, List.not_mem_nil⟩
  | last tail given unbroken => exact ⟨[], tail, rfl, Or.inl rfl, unbroken⟩
  | line body rest unbroken ih =>
      obtain ⟨start, lead, rfl, ended, unbroken'⟩ := ih
      refine ⟨body ++ '\n' :: start, lead, by simp, Or.inr ?_, unbroken'⟩
      rcases ended with rfl | ended
      · simp
      · simp [List.getLast?_cons, ended]

/-! ## Lines without the blanks around them -/

/-- A text that starts with no blank is trimmed behind its first character. -/
theorem trimRight_cons {c : Char} (notBlank : isBlank c = false) (text : List Char) :
    trimRight (c :: text) = c :: trimRight text := by
  rw [trimRight, trimRight, List.reverse_cons, List.dropWhile_append]
  split
  · next empty => simp [List.isEmpty_iff.1 empty, notBlank]
  · simp

/-- A blank at the end of a text is trimmed away. -/
theorem trim_append_blank (text : List Char) {c : Char} (blank : isBlank c = true) :
    trim (text ++ [c]) = trim text := by
  rw [trim, trim, trimLeft, trimLeft, List.dropWhile_append]
  split
  · next allBlank =>
      rw [List.isEmpty_iff.1 allBlank]
      simp [trimRight, blank]
  · simp [trimRight, blank]

/-- A break at the end of a text changes none of its lines but for the blanks around them. -/
theorem map_trim_lines_break {text : List Char} (given : text ≠ [])
    (unbroken : text.getLast? ≠ some '\n') :
    (lines (text ++ ['\n'])).map trim = (lines text).map trim := by
  induction text using line_induction with
  | empty => exact absurd rfl given
  | last tail given unbroken' =>
      rw [lines_body unbroken', lines_of_not_mem given unbroken', lines]
      simp [trim_append_blank tail (show isBlank '\n' = true by decide)]
  | line body rest unbroken' ih =>
      have given' : rest ≠ [] := by
        rintro rfl
        simp at unbroken
      have unbroken'' : rest.getLast? ≠ some '\n' := by
        intro broken
        simp [List.getLast?_cons, broken] at unbroken
      rw [List.append_assoc, List.cons_append, lines_body unbroken', lines_body unbroken',
        List.map_cons, List.map_cons, ih given' unbroken'']

end ChainCompletion.Text
