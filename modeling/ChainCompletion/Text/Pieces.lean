/-
# Text.Pieces -- cutting a text into pieces

Texts are lists of characters here.  `splitAtEach` cuts at every occurrence of a
separator and drops it, so joining the pieces again gives the text back
(`joinWith_splitAtEach`), and joined pieces without separators are found again
(`splitAtEach_joinWith`); `lines` cuts after every line break and keeps it, so the
lines concatenate to the text (`flatten_lines`).  `stripStart?` and `stripEnd?`
remove a known start or end, and `occursIn` looks for a contiguous occurrence.
-/

namespace ChainCompletion.Text

set_option autoImplicit false

/-- The pieces between the occurrences of `separator`, as the first piece and the
pieces after it.  A text without the separator is one piece. -/
def splitPieces (separator : Char) : List Char → List Char × List (List Char)
  | [] => ([], [])
  | c :: rest =>
      let (piece, pieces) := splitPieces separator rest
      if c = separator then ([], piece :: pieces) else (c :: piece, pieces)

/-- All pieces between the occurrences of `separator`; never an empty list. -/
def splitAtEach (separator : Char) (text : List Char) : List (List Char) :=
  (splitPieces separator text).1 :: (splitPieces separator text).2

/-- The pieces with `separator` written between neighbours. -/
def joinWith (separator : Char) : List (List Char) → List Char
  | [] => []
  | [piece] => piece
  | piece :: pieces => piece ++ separator :: joinWith separator pieces

theorem joinWith_cons {separator : Char} (piece : List Char) {pieces : List (List Char)}
    (given : pieces ≠ []) :
    joinWith separator (piece :: pieces) = piece ++ separator :: joinWith separator pieces := by
  rw [joinWith]
  exact given

/-- Joining the pieces of a text gives the text back. -/
theorem joinWith_splitAtEach (separator : Char) (text : List Char) :
    joinWith separator (splitAtEach separator text) = text := by
  induction text with
  | nil => rfl
  | cons c rest ih =>
      simp only [splitAtEach, splitPieces] at ih ⊢
      split
      · next isSeparator => rw [joinWith, List.nil_append, ih, isSeparator]; simp
      · cases later : (splitPieces separator rest).2 with
        | nil => simpa [later, joinWith] using ih
        | cons piece pieces => simpa [later, joinWith] using ih

/-- A text without the separator is one piece. -/
theorem splitPieces_of_not_mem {separator : Char} {text : List Char}
    (absent : separator ∉ text) : splitPieces separator text = (text, []) := by
  induction text with
  | nil => rfl
  | cons c rest ih =>
      rw [List.mem_cons, not_or] at absent
      have differs : c ≠ separator := fun same => absent.1 same.symm
      simp [splitPieces, ih absent.2, differs]

/-- No piece between separators holds one. -/
theorem not_mem_of_mem_splitAtEach {separator : Char} {text piece : List Char}
    (isPiece : piece ∈ splitAtEach separator text) : separator ∉ piece := by
  induction text generalizing piece with
  | nil =>
      rw [splitAtEach, splitPieces, List.mem_singleton] at isPiece
      rw [isPiece]
      exact List.not_mem_nil
  | cons c rest ih =>
      simp only [splitAtEach, splitPieces] at isPiece ih
      split at isPiece
      · rcases List.mem_cons.1 isPiece with rfl | later
        · exact List.not_mem_nil
        · exact ih later
      · next differs =>
          rcases List.mem_cons.1 isPiece with rfl | later
          · rw [List.mem_cons, not_or]
            exact ⟨fun same => differs same.symm, ih List.mem_cons_self⟩
          · exact ih (List.mem_cons_of_mem _ later)

theorem splitAtEach_append {separator : Char} {piece : List Char} (absent : separator ∉ piece)
    (rest : List Char) :
    splitAtEach separator (piece ++ separator :: rest) = piece :: splitAtEach separator rest := by
  induction piece with
  | nil => simp [splitAtEach, splitPieces]
  | cons c piece ih =>
      rw [List.mem_cons, not_or] at absent
      have differs : c ≠ separator := fun same => absent.1 same.symm
      have later := ih absent.2
      simp only [splitAtEach, List.cons.injEq] at later
      simp [splitAtEach, splitPieces, differs, later]

/-- Joined pieces are cut apart again where they were joined. -/
theorem splitAtEach_joinWith {separator : Char} {pieces : List (List Char)} (given : pieces ≠ [])
    (absent : ∀ piece ∈ pieces, separator ∉ piece) :
    splitAtEach separator (joinWith separator pieces) = pieces := by
  induction pieces with
  | nil => exact absurd rfl given
  | cons piece pieces ih =>
      have first : separator ∉ piece := absent piece (by simp)
      cases pieces with
      | nil => simp [joinWith, splitAtEach, splitPieces_of_not_mem first]
      | cons next pieces =>
          have later := ih (by simp) fun other isThere => absent other (by simp [isThere])
          rw [joinWith_cons piece (by simp), splitAtEach_append first, later]

/-- A separator stands between two lists of pieces that are joined together. -/
theorem joinWith_append {separator : Char} {first second : List (List Char)} (given : first ≠ [])
    (given' : second ≠ []) :
    joinWith separator (first ++ second) =
      joinWith separator first ++ separator :: joinWith separator second := by
  induction first with
  | nil => exact absurd rfl given
  | cons piece first ih =>
      cases first with
      | nil => exact joinWith_cons piece given'
      | cons next first =>
          rw [List.cons_append, joinWith_cons piece (by simp), ih (by simp),
            joinWith_cons piece (by simp), List.append_assoc, List.cons_append]

/-- The lines of a text, each with the line break that ends it; the last line may
have none.  The empty text has no lines. -/
def lines : List Char → List (List Char)
  | [] => []
  | c :: rest =>
      if c = '\n' then [c] :: lines rest
      else match lines rest with
        | [] => [[c]]
        | line :: later => (c :: line) :: later

/-- The lines of a text concatenate to it. -/
theorem flatten_lines (text : List Char) : (lines text).flatten = text := by
  induction text with
  | nil => rfl
  | cons c rest ih =>
      rw [lines]
      split
      · rw [List.flatten_cons, ih]; rfl
      · split <;> simp_all

/-- What follows `start`, when the text starts with it. -/
def stripStart? (start text : List Char) : Option (List Char) :=
  if start.isPrefixOf text then some (text.drop start.length) else none

theorem stripStart?_eq_some_iff {start text rest : List Char} :
    stripStart? start text = some rest ↔ text = start ++ rest := by
  rw [stripStart?]
  split
  · next starts =>
      obtain ⟨tail, rfl⟩ := List.isPrefixOf_iff_prefix.1 starts
      simp
  · next differs =>
      constructor
      · intro found; cases found
      · intro same
        exact absurd (List.isPrefixOf_iff_prefix.2 ⟨rest, same.symm⟩) differs

/-- What precedes `ending`, when the text ends with it. -/
def stripEnd? (ending text : List Char) : Option (List Char) :=
  if ending.isSuffixOf text then some (text.take (text.length - ending.length)) else none

/-- Whether `part` occurs contiguously in the text. -/
def occursIn (part : List Char) : List Char → Bool
  | [] => part.isEmpty
  | c :: rest => part.isPrefixOf (c :: rest) || occursIn part rest

/-- What stands before the first `mark`, or the whole text when there is none. -/
def before (mark : Char) (text : List Char) : List Char :=
  text.takeWhile (· ≠ mark)

/-- The number of bytes of a text in UTF-8. -/
def byteLength : List Char → Nat
  | [] => 0
  | c :: text => c.utf8Size + byteLength text

@[simp] theorem byteLength_nil : byteLength [] = 0 := rfl

@[simp] theorem byteLength_cons (c : Char) (text : List Char) :
    byteLength (c :: text) = c.utf8Size + byteLength text := rfl

@[simp] theorem byteLength_append (first second : List Char) :
    byteLength (first ++ second) = byteLength first + byteLength second := by
  induction first with
  | nil => simp
  | cons c first ih => simp [ih, Nat.add_assoc]

end ChainCompletion.Text
