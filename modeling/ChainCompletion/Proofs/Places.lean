/-
# Proofs.Places -- places in a text and what stands before them

A place leads through a text: over each character the column moves on by its bytes, and
over a line break the place moves to the start of the next line (`Place.advance`).  The
index of a text finds just this place for every offset between two characters
(`LineStarts.locate_append`), and what follows an offset has no part in it
(`LineStarts.locate_append_left`).

Going back, a text can be cut at a place (`cutAt`), unless the line ends before it or a
character reaches across it.  Cut at the place of such an offset it falls apart there
(`cutAt_placeAfter`).  An edit is carried out by cutting twice (`TextEdit.applyTo`).
-/
import ChainCompletion.Imports.Scope

namespace ChainCompletion

set_option autoImplicit false

namespace Text

/-! ## The place after a text -/

/-- The place after one more character. -/
def Place.advance (place : Place) (c : Char) : Place :=
  if c = '\n' then ⟨place.line + 1, 0⟩ else ⟨place.line, place.col + c.utf8Size⟩

/-- The place after a text. -/
def placeAfter (text : List Char) : Place :=
  text.foldl Place.advance .start

/-- Lines are counted from where one is, and columns as long as no line ends. -/
theorem foldl_advance (place : Place) (text : List Char) :
    text.foldl Place.advance place =
      ⟨place.line + (placeAfter text).line,
        if (placeAfter text).line = 0 then place.col + (placeAfter text).col
        else (placeAfter text).col⟩ := by
  induction text generalizing place with
  | nil => simp [placeAfter, Place.start]
  | cons c rest ih =>
      have first := ih (place.advance c)
      have fromStart := ih (Place.start.advance c)
      rw [placeAfter, List.foldl_cons, List.foldl_cons, first, fromStart]
      by_cases isBreak : c = '\n'
      · simp [Place.advance, Place.start, isBreak, Nat.add_assoc]
      · simp only [Place.advance, isBreak, if_false, Place.start, Nat.zero_add]
        split <;> simp_all [Nat.add_assoc]

theorem placeAfter_cons (c : Char) (rest : List Char) :
    placeAfter (c :: rest) =
      if c = '\n' then ⟨(placeAfter rest).line + 1, (placeAfter rest).col⟩
      else ⟨(placeAfter rest).line,
        if (placeAfter rest).line = 0 then c.utf8Size + (placeAfter rest).col
        else (placeAfter rest).col⟩ := by
  rw [placeAfter, List.foldl_cons, foldl_advance]
  by_cases isBreak : c = '\n'
  · simp [Place.advance, Place.start, isBreak, Nat.add_comm]
  · simp [Place.advance, Place.start, isBreak]

/-! ## Finding the place of an offset -/

namespace LineStarts

theorem startsAfter_append (offset : Nat) (first second : List Char) :
    startsAfter offset (first ++ second) =
      startsAfter offset first ++ startsAfter (offset + byteLength first) second := by
  induction first generalizing offset with
  | nil => simp [startsAfter]
  | cons c first ih =>
      simp only [List.cons_append, startsAfter, ih, byteLength_cons, Nat.add_assoc]
      split <;> rfl

/-- Lines that start in a text start after its first character and not after its end. -/
theorem mem_startsAfter {offset start : Nat} {text : List Char}
    (isThere : start ∈ startsAfter offset text) :
    offset < start ∧ start ≤ offset + byteLength text := by
  induction text generalizing offset with
  | nil => simp [startsAfter] at isThere
  | cons c text ih =>
      have positive := c.utf8Size_pos
      rw [byteLength_cons]
      simp only [startsAfter] at isThere
      split at isThere
      · rcases List.mem_cons.1 isThere with rfl | later
        · omega
        · have bounds := ih later
          omega
      · have bounds := ih isThere
        omega

/-- The place after a text, by the lines that start in it: it is counted from the last of
them. -/
theorem foldl_advance_eq (offset : Nat) (text : List Char) (place : Place)
    (within : place.col ≤ offset) :
    text.foldl Place.advance place =
      ⟨place.line + (startsAfter offset text).length,
        offset + byteLength text - (startsAfter offset text).getLastD (offset - place.col)⟩ := by
  induction text generalizing offset place with
  | nil =>
      obtain ⟨line, col⟩ := place
      simp only [List.foldl_nil, startsAfter, List.length_nil, byteLength_nil, List.getLastD_nil,
        Place.mk.injEq] at within ⊢
      omega
  | cons c text ih =>
      rw [List.foldl_cons]
      by_cases isBreak : c = '\n'
      · have moved := ih (offset + c.utf8Size) (place.advance c) (by simp [Place.advance, isBreak])
        rw [moved]
        simp only [Place.advance, startsAfter, isBreak, if_true, List.length_cons,
          List.getLastD_cons, byteLength_cons, Nat.sub_zero, Place.mk.injEq]
        omega
      · have moved := ih (offset + c.utf8Size) (place.advance c)
          (by simp [Place.advance, isBreak]; omega)
        rw [moved]
        have same : offset + c.utf8Size - (place.col + c.utf8Size) = offset - place.col := by omega
        simp [Place.advance, startsAfter, isBreak, same, Nat.add_assoc]

/-- No line that starts behind an offset counts at it. -/
theorem takeWhile_startsAfter {offset place : Nat} (behind : place ≤ offset) (text : List Char) :
    (startsAfter offset text).takeWhile (fun start => decide (start ≤ place)) = [] := by
  cases found : startsAfter offset text with
  | nil => rfl
  | cons start later =>
      have bounds : offset < start := (mem_startsAfter (by rw [found]; simp)).1
      apply List.takeWhile_cons_of_neg
      simp only [decide_eq_true_eq]
      omega

/-- An offset is found at the same place whatever follows in the text. -/
theorem locate_append_left (first second : List Char) {offset : Nat}
    (within : offset ≤ byteLength first) :
    (ofChars (first ++ second)).locate offset = (ofChars first).locate offset := by
  have starts : (ofChars (first ++ second)).starts =
      (0 :: startsAfter 0 first) ++ startsAfter (byteLength first) second := by
    simp [ofChars, startsAfter_append]
  have length : (ofChars (first ++ second)).length = byteLength first + byteLength second :=
    byteLength_append first second
  have counted : ((0 :: startsAfter 0 first) ++ startsAfter (byteLength first) second).takeWhile
      (fun start => decide (start ≤ offset)) =
        (0 :: startsAfter 0 first).takeWhile fun start => decide (start ≤ offset) := by
    rw [List.takeWhile_append, takeWhile_startsAfter within, List.append_nil]
    split
    · next all => exact (List.takeWhile_prefix _).eq_of_length all |>.symm
    · rfl
  have short : ((0 :: startsAfter 0 first).takeWhile fun start => decide (start ≤ offset)).length ≤
      (0 :: startsAfter 0 first).length := (List.takeWhile_prefix _).length_le
  have isLine : ((0 :: startsAfter 0 first).takeWhile
      fun start => decide (start ≤ offset)).length - 1 < (0 :: startsAfter 0 first).length := by
    rw [List.length_cons] at short ⊢
    omega
  rw [locate, locate, length, starts, Nat.min_eq_left (by omega), counted,
    List.getD_eq_getElem?_getD, List.getElem?_append_left isLine]
  simp only [ofChars, Nat.min_eq_left within, List.getD_eq_getElem?_getD]

/-- An offset between two characters is found at the place after what stands before it. -/
theorem locate_append (first second : List Char) :
    (ofChars (first ++ second)).locate (byteLength first) = placeAfter first := by
  have before : ∀ start ∈ 0 :: startsAfter 0 first, decide (start ≤ byteLength first) = true := by
    intro start isThere
    rcases List.mem_cons.1 isThere with rfl | later
    · simp
    · have bounds := mem_startsAfter later
      simp only [decide_eq_true_eq]
      omega
  have last : (0 :: startsAfter 0 first).getD (startsAfter 0 first).length 0 =
      (startsAfter 0 first).getLastD 0 := by
    rw [List.getD_eq_getElem?_getD, ← List.getLastD_cons, List.getLastD_eq_getLast?,
      List.getLast?_eq_getElem?]
    rfl
  have counted : (0 :: startsAfter 0 first).takeWhile
      (fun start => decide (start ≤ byteLength first)) = 0 :: startsAfter 0 first := by
    rw [← List.append_nil (0 :: startsAfter 0 first), List.takeWhile_append_of_pos before]
    rfl
  rw [locate_append_left first second (Nat.le_refl _), placeAfter,
    foldl_advance_eq 0 first .start (Nat.le_refl _), locate]
  simp only [ofChars, Nat.min_self, counted, List.length_cons, Nat.add_sub_cancel, last]
  simp [Place.start]

end LineStarts

/-! ## Cutting a text at a place -/

/-- What stands before a place and what follows it.  There is no such place where its line
or the text ends before it, or where a character reaches across it. -/
def cutAt : Place → List Char → Option (List Char × List Char)
  | ⟨0, 0⟩, text => some ([], text)
  | _, [] => none
  | ⟨0, col + 1⟩, c :: rest =>
      if c = '\n' ∨ col + 1 < c.utf8Size then none
      else (cutAt ⟨0, col + 1 - c.utf8Size⟩ rest).map fun (before, after) => (c :: before, after)
  | ⟨line + 1, col⟩, c :: rest =>
      (cutAt ⟨if c = '\n' then line else line + 1, col⟩ rest).map fun (before, after) =>
        (c :: before, after)

/-- At the place after its first part a text falls apart into its parts. -/
theorem cutAt_placeAfter (first second : List Char) :
    cutAt (placeAfter first) (first ++ second) = some (first, second) := by
  induction first with
  | nil => rw [List.nil_append, placeAfter, List.foldl_nil, Place.start, cutAt]
  | cons c rest ih =>
      rw [placeAfter_cons, List.cons_append]
      generalize placeAfter rest = place at ih ⊢
      obtain ⟨line, col⟩ := place
      by_cases isBreak : c = '\n'
      · simp [cutAt, isBreak, ih]
      · simp only [isBreak, if_false]
        cases line with
        | succ line => simp [cutAt, isBreak, ih]
        | zero =>
            have positive := c.utf8Size_pos
            obtain ⟨width, isWidth⟩ := Nat.exists_eq_add_one_of_ne_zero
              (Nat.pos_iff_ne_zero.1 (Nat.add_pos_left positive col))
            have enough : ¬ (c = '\n' ∨ width + 1 < c.utf8Size) := by
              rintro (isBreak' | short)
              · exact isBreak isBreak'
              · omega
            have left : width + 1 - c.utf8Size = col := by omega
            rw [if_pos rfl, isWidth, cutAt, if_neg enough, left, ih]
            rfl

end Text

open Text

/-- The text after an edit, if the edit has a place in it. -/
def TextEdit.applyTo (edit : TextEdit) (source : String) : Option String :=
  match cutAt edit.start source.toList, cutAt edit.stop source.toList with
  | some (before, _), some (_, after) => some (String.ofList (before ++ edit.text.toList ++ after))
  | _, _ => none

/-- A text inserted at an offset between two characters comes to stand there. -/
theorem TextEdit.applyTo_insertion {source : String} {first second : List Char}
    (whole : source.toList = first ++ second) (text : String) :
    (insertion ((LineStarts.ofChars source.toList).locate (byteLength first)) text).applyTo
      source = some (String.ofList (first ++ text.toList ++ second)) := by
  simp only [applyTo, insertion, whole, LineStarts.locate_append, cutAt_placeAfter]

end ChainCompletion
