/-
# Proofs.LineNumbers -- lines and columns, counted in bytes

An offset counts bytes, and it may well point into the middle of a character.  Seen as bytes, a
text has its line breaks where the byte `breakByte` is, since no other character has that byte in
its encoding (`breakByte_not_mem`).  So the starts of lines are the places just after such bytes
(`LineStarts.mem_starts_iff`), in order (`LineStarts.starts_increasing`), and as many of them lie at
or before an offset as there are breaks before it, and one more (`LineStarts.length_starts_upTo`).

Whatever way is taken to the last start at or before an offset, there is one such, and what
follows it up to the offset has no break (`LineStarts.locate_finds`).  Hence the place of an offset
tells the offset, and places are in the order of their offsets (`LineStarts.locate_exact`).
-/
import Mathlib.Algebra.Group.Nat.Defs
import ChainCompletion.Proofs.Places

namespace ChainCompletion.Text

set_option autoImplicit false

/-! ## Bytes -/

/-- A line break as a byte. -/
def breakByte : UInt8 := 10

/-- The bytes of characters in UTF-8. -/
def encode (text : List Char) : List UInt8 :=
  text.flatMap String.utf8EncodeChar

/-- The bytes of a text. -/
def bytesOf (text : String) : List UInt8 :=
  text.toByteArray.data.toList

theorem bytesOf_eq (text : String) : bytesOf text = encode text.toList := by
  rw [bytesOf, ← String.utf8Encode_toList, List.utf8Encode, List.toList_data_toByteArray, encode]

theorem length_encode (text : List Char) : (encode text).length = byteLength text := by
  induction text with
  | nil => rfl
  | cons c rest ih =>
      rw [encode, List.flatMap_cons, List.length_append, String.length_utf8EncodeChar, ← encode, ih,
        byteLength_cons]

theorem length_bytesOf (text : String) : (bytesOf text).length = text.utf8ByteSize := by
  rw [bytesOf, Array.length_toList, ← String.size_toByteArray]
  rfl

/-- No other character has the byte of a line break in its encoding. -/
theorem breakByte_not_mem {c : Char} (differs : c ≠ '\n') :
    breakByte ∉ String.utf8EncodeChar c := by
  have code : c.val.toNat ≠ 10 := by
    intro same
    exact differs (Char.ext (UInt32.toNat_inj.1 same))
  have apart : ∀ number < 256, number ≠ 10 → breakByte ≠ UInt8.ofNat number := by
    intro number small differs' same
    have values := congrArg UInt8.toNat same
    rw [UInt8.toNat_ofNat', Nat.mod_eq_of_lt small] at values
    exact differs' values.symm
  -- one byte for a small code, and otherwise bytes that are all too large
  simp only [String.utf8EncodeChar]
  split
  · simp only [List.mem_singleton]
    exact apart _ (by omega) code
  · split
    · simp only [List.mem_cons, List.not_mem_nil, or_false, not_or]
      refine ⟨?_, ?_⟩ <;> exact apart _ (by omega) (by omega)
    · split
      · simp only [List.mem_cons, List.not_mem_nil, or_false, not_or]
        refine ⟨?_, ?_, ?_⟩ <;> exact apart _ (by omega) (by omega)
      · simp only [List.mem_cons, List.not_mem_nil, or_false, not_or]
        refine ⟨?_, ?_, ?_, ?_⟩ <;> exact apart _ (by omega) (by omega)

/-! ## Breaks -/

/-- The places just after the breaks among bytes that begin at `offset`. -/
def breakEnds (offset : Nat) : List UInt8 → List Nat
  | [] => []
  | byte :: rest =>
      if byte = breakByte then (offset + 1) :: breakEnds (offset + 1) rest
      else breakEnds (offset + 1) rest

theorem breakEnds_of_not_mem {bytes : List UInt8} (absent : breakByte ∉ bytes) (offset : Nat)
    (rest : List UInt8) :
    breakEnds offset (bytes ++ rest) = breakEnds (offset + bytes.length) rest := by
  induction bytes generalizing offset with
  | nil => rfl
  | cons byte bytes ih =>
      rw [List.mem_cons, not_or] at absent
      rw [List.cons_append, breakEnds, if_neg (fun same => absent.1 same.symm), ih absent.2,
        List.length_cons, Nat.add_assoc, Nat.add_comm 1]

/-- Lines start just after the bytes of breaks. -/
theorem LineStarts.startsAfter_eq (offset : Nat) (text : List Char) :
    startsAfter offset text = breakEnds offset (encode text) := by
  induction text generalizing offset with
  | nil => rfl
  | cons c rest ih =>
      have bytes : encode (c :: rest) = String.utf8EncodeChar c ++ encode rest := rfl
      simp only [startsAfter]
      rw [bytes, ih]
      by_cases isBreak : c = '\n'
      · subst isBreak
        rfl
      · rw [if_neg isBreak, breakEnds_of_not_mem (breakByte_not_mem isBreak),
          String.length_utf8EncodeChar]

theorem mem_breakEnds_iff {offset start : Nat} {bytes : List UInt8} :
    start ∈ breakEnds offset bytes ↔
      offset < start ∧ bytes[start - offset - 1]? = some breakByte := by
  induction bytes generalizing offset with
  | nil => simp [breakEnds]
  | cons byte rest ih =>
      -- before the end of the first byte, just at it, or among the bytes that follow
      rcases Nat.lt_trichotomy start (offset + 1) with early | rfl | late
      · have first : ¬ start = offset + 1 := by omega
        rw [breakEnds]
        split <;> simp [ih, first] <;> omega
      · rw [breakEnds]
        split <;> simp_all
      · have number : start - offset - 1 = start - (offset + 1) - 1 + 1 := by omega
        have first : ¬ start = offset + 1 := by omega
        rw [breakEnds, number, List.getElem?_cons_succ]
        split <;> simp [ih, first, late] <;> omega

theorem breakEnds_increasing (offset : Nat) (bytes : List UInt8) :
    (breakEnds offset bytes).Pairwise (· < ·) := by
  induction bytes generalizing offset with
  | nil => exact .nil
  | cons byte rest ih =>
      rw [breakEnds]
      split
      · exact List.pairwise_cons.2 ⟨fun start isThere => (mem_breakEnds_iff.1 isThere).1, ih _⟩
      · exact ih _

/-- Every break ends once. -/
theorem length_breakEnds (offset : Nat) (bytes : List UInt8) :
    (breakEnds offset bytes).length = bytes.count breakByte := by
  induction bytes generalizing offset with
  | nil => rfl
  | cons byte rest ih =>
      rw [breakEnds, List.count_cons]
      split
      · next isBreak => simp [isBreak, ih]
      · next differs => simp [differs, ih]

/-- The breaks that end at or before a limit are the breaks among the bytes before it. -/
theorem takeWhile_breakEnds (offset limit : Nat) (bytes : List UInt8) :
    (breakEnds offset bytes).takeWhile (· ≤ limit) =
      breakEnds offset (bytes.take (limit - offset)) := by
  induction bytes generalizing offset with
  | nil => simp [breakEnds]
  | cons byte rest ih =>
      have rest' := ih (offset + 1)
      by_cases before : offset + 1 ≤ limit
      · have number : limit - offset = limit - (offset + 1) + 1 := by omega
        rw [number, List.take_succ_cons, breakEnds, breakEnds]
        split
        · simp [before, rest']
        · exact rest'
      · have none : limit - offset = 0 ∧ limit - (offset + 1) = 0 := by omega
        rw [none.2, List.take_zero] at rest'
        rw [none.1, List.take_zero]
        simp only [breakEnds] at rest' ⊢
        split
        · simp [before]
        · exact rest'

/-- In an increasing list, those up to a limit are the first ones. -/
theorem le_iff_lt_length_takeWhile {starts : List Nat} (increasing : starts.Pairwise (· < ·))
    {number start : Nat} (found : starts[number]? = some start) (limit : Nat) :
    start ≤ limit ↔ number < (starts.takeWhile (· ≤ limit)).length := by
  induction starts generalizing number with
  | nil => simp at found
  | cons first later ih =>
      rw [List.pairwise_cons] at increasing
      cases number with
      | zero =>
          rw [List.getElem?_cons_zero, Option.some.injEq] at found
          rw [← found, List.takeWhile_cons]
          split <;> simp_all
      | succ number =>
          rw [List.getElem?_cons_succ] at found
          have above := increasing.1 start (List.mem_of_getElem? found)
          rw [List.takeWhile_cons, ih increasing.2 found]
          split
          · simp
          · next far =>
              have behind : ¬ start ≤ limit := by
                rw [decide_eq_true_eq] at far
                omega
              rw [ih increasing.2 found] at behind
              simp [behind]

/-- Whether the line of an offset starts here: at the start of the text or just after a break,
with no break between here and the offset. -/
structure OpensLine (bytes : List UInt8) (start offset : Nat) : Prop where
  notBehind : start ≤ offset
  opens : start = 0 ∨ bytes[start - 1]? = some breakByte
  unbroken : ∀ place, start ≤ place → place < offset → bytes[place]? ≠ some breakByte

namespace LineStarts

/-- Whether a place is that of an offset of a text with these bytes, and was found in the index
without leaving its bounds: the line is the number of breaks before the offset and the last one
that starts at or before it, and the column is the distance from its start. -/
structure Finds (index : LineStarts) (bytes : List UInt8) (offset : Nat) (place : Place) : Prop where
  line_eq : place.line = (bytes.take offset).count breakByte
  last : ∀ number start, index.starts[number]? = some start →
    (start ≤ offset ↔ number ≤ place.line)
  opened : ∃ start, index.starts[place.line]? = some start ∧ OpensLine bytes start offset ∧
    place.col = offset - start

variable {text : String}

theorem starts_ofText (text : String) : (ofText text).starts = 0 :: breakEnds 0 (bytesOf text) := by
  rw [ofText, ofChars, startsAfter_eq, bytesOf_eq]

theorem length_ofText (text : String) : (ofText text).length = (bytesOf text).length := by
  rw [ofText, ofChars, bytesOf_eq, length_encode]

theorem starts_increasing (text : String) : (ofText text).starts.Pairwise (· < ·) := by
  rw [starts_ofText]
  exact List.pairwise_cons.2
    ⟨fun start isThere => (mem_breakEnds_iff.1 isThere).1, breakEnds_increasing _ _⟩

theorem mem_starts_iff {start : Nat} :
    start ∈ (ofText text).starts ↔
      start = 0 ∨ (0 < start ∧ (bytesOf text)[start - 1]? = some breakByte) := by
  rw [starts_ofText, List.mem_cons, mem_breakEnds_iff]
  simp

theorem lineCount_ofText (text : String) :
    (ofText text).lineCount = (bytesOf text).count breakByte + 1 := by
  rw [lineCount, starts_ofText, List.length_cons, length_breakEnds]

/-- At or before an offset, as many lines start as there are breaks before it, and one more. -/
theorem length_starts_upTo (text : String) (offset : Nat) :
    ((ofText text).starts.takeWhile (· ≤ offset)).length =
      ((bytesOf text).take offset).count breakByte + 1 := by
  rw [starts_ofText, List.takeWhile_cons_of_pos (by simp), List.length_cons, takeWhile_breakEnds,
    length_breakEnds, Nat.sub_zero]

/-- The place of an offset is found in the index, by its start of a line. -/
theorem locate_finds (text : String) (offset : Nat) :
    (ofText text).Finds (bytesOf text) (min offset (bytesOf text).length)
      ((ofText text).locate offset) := by
  have upTo := length_starts_upTo text (min offset (bytesOf text).length)
  have lineEq : ((ofText text).locate offset).line =
      ((bytesOf text).take (min offset (bytesOf text).length)).count breakByte := by
    simp only [locate, length_ofText, upTo, Nat.add_sub_cancel]
  have colEq : ((ofText text).locate offset).col = min offset (bytesOf text).length -
      (ofText text).starts.getD ((ofText text).locate offset).line 0 := by
    simp only [locate, length_ofText]
  generalize (ofText text).locate offset = place at lineEq colEq ⊢
  generalize min offset (bytesOf text).length = limit at upTo lineEq colEq ⊢
  rw [← lineEq] at upTo
  have last : ∀ number start, (ofText text).starts[number]? = some start →
      (start ≤ limit ↔ number ≤ place.line) := by
    intro number start found
    rw [le_iff_lt_length_takeWhile (starts_increasing text) found, upTo, Nat.lt_succ_iff]
  have inRange : place.line < (ofText text).starts.length := by
    have most := (@List.takeWhile_prefix _ (ofText text).starts (· ≤ limit)).length_le
    omega
  have found := List.getElem?_eq_getElem inRange
  generalize (ofText text).starts[place.line] = start at found
  have isStart := mem_starts_iff.1 (List.mem_of_getElem? found)
  refine ⟨lineEq, last, start, found, ⟨(last _ _ found).2 (Nat.le_refl _), ?_, ?_⟩, ?_⟩
  · exact isStart.imp_right And.right
  · intro between behind before isBreak
    -- a later line would start after such a break
    have opens : between + 1 ∈ (ofText text).starts :=
      mem_starts_iff.2 (Or.inr ⟨Nat.succ_pos _, isBreak⟩)
    obtain ⟨number, found'⟩ := List.mem_iff_getElem?.1 opens
    have first := (le_iff_lt_length_takeWhile (starts_increasing text) found start).1 (Nat.le_refl _)
    have early := (le_iff_lt_length_takeWhile (starts_increasing text) found' start).2
      (Nat.lt_of_le_of_lt ((last _ _ found').1 before) first)
    omega
  · rw [colEq, List.getD_eq_getElem?_getD, found, Option.getD_some]

/-! ## The order of places -/

/-- The start of a line and the column give the offset back. -/
theorem Finds.start_add_col {index : LineStarts} {bytes : List UInt8} {offset : Nat} {place : Place}
    (finds : index.Finds bytes offset place) {start : Nat}
    (found : index.starts[place.line]? = some start) : start + place.col = offset := by
  obtain ⟨start', found', opens, col⟩ := finds.opened
  obtain rfl : start = start' := Option.some.inj (found.symm.trans found')
  have notBehind := opens.notBehind
  omega

/-- A later offset has a later place. -/
theorem Finds.compare_eq_lt {index : LineStarts} {bytes : List UInt8} {early late : Nat}
    {place place' : Place} (finds : index.Finds bytes early place)
    (finds' : index.Finds bytes late place') (before : early < late) :
    compare place place' = .lt := by
  show (compare place.line place'.line).then (compare place.col place'.col) = .lt
  have lines : place.line ≤ place'.line := by
    rw [finds.line_eq, finds'.line_eq]
    exact (List.take_sublist_take_left (Nat.le_of_lt before)).count_le _
  rcases Nat.lt_or_eq_of_le lines with earlier | same
  · rw [Nat.compare_eq_lt.2 earlier]
    rfl
  · -- within one line the offsets are counted from one start
    obtain ⟨start, found, -, -⟩ := finds.opened
    have offset := finds.start_add_col found
    have offset' := finds'.start_add_col (same ▸ found)
    have cols : place.col < place'.col := by omega
    rw [same, Nat.compare_eq_lt.2 cols, Nat.compare_eq_eq.2 rfl]
    rfl

/-- **Lines and columns are exact on every text.**  In a text of less than `2 ^ 32` bytes all
numbers that come up are below `2 ^ 32`, and there is one line more than there are line breaks.
Any offset, up to the end of the text, is found without leaving the index: its line is the number
of line breaks before it, and is a line of the index, whose start and the column add up to the
offset; that start is just after the last line break before the offset, or zero.  On the offsets
of the text places increase strictly, and from its end on they stay the same. -/
theorem locate_exact (text : String) (small : text.utf8ByteSize < 2 ^ 32) :
    let index := ofText text
    let bytes := bytesOf text
    index.lineCount = bytes.count breakByte + 1 ∧
    (index.length < 2 ^ 32 ∧ ∀ start ∈ index.starts, start < 2 ^ 32) ∧
    (∀ offset,
      let place := index.locate offset
      index.Finds bytes (min offset bytes.length) place ∧
      (∃ start, index.starts[place.line]? = some start ∧
        start + place.col = min offset bytes.length) ∧
      place.line < index.lineCount ∧ place.line < 2 ^ 32 ∧ place.col < 2 ^ 32) ∧
    (∀ early late, early < late → late ≤ bytes.length →
      compare (index.locate early) (index.locate late) = .lt) ∧
    ∀ offset, bytes.length ≤ offset → index.locate offset = index.locate bytes.length := by
  intro index bytes
  have small' : bytes.length < 2 ^ 32 := by rwa [length_bytesOf]
  have finds : ∀ offset, index.Finds bytes (min offset bytes.length) (index.locate offset) :=
    locate_finds text
  refine ⟨lineCount_ofText text, ⟨?_, ?_⟩, ?_, ?_, ?_⟩
  · rwa [length_ofText]
  · intro start isStart
    rcases mem_starts_iff.1 isStart with rfl | ⟨-, isBreak⟩
    · decide
    · have inText : start - 1 < bytes.length := (List.getElem?_eq_some_iff.1 isBreak).1
      omega
  · intro offset place
    obtain ⟨start, found, -, -⟩ := (finds offset).opened
    have sum : start + place.col = min offset bytes.length := (finds offset).start_add_col found
    have few : place.line ≤ bytes.length := by
      rw [(finds offset).line_eq]
      exact Nat.le_trans List.count_le_length (List.length_take_le' _ _)
    exact ⟨finds offset, ⟨start, found, sum⟩, (List.getElem?_eq_some_iff.1 found).1, by omega,
      by omega⟩
  · intro early late before inText
    have finds' := finds late
    rw [Nat.min_eq_left inText] at finds'
    refine (finds early).compare_eq_lt finds' ?_
    omega
  · intro offset behind
    simp only [index, locate, length_ofText]
    rw [Nat.min_eq_right behind, Nat.min_self]

/-- An offset may lie inside a character, on a line break, or behind the end. -/
theorem locate_exact_accents :
    "é\n\nàb\n".utf8ByteSize < 2 ^ 32 ∧
    [1, 2, 3, 5, 8, 40].map (ofText "é\n\nàb\n").locate =
      [⟨0, 1⟩, ⟨0, 2⟩, ⟨1, 0⟩, ⟨2, 1⟩, ⟨3, 0⟩, ⟨3, 0⟩] ∧
    (ofText "é\n\nàb\n").Finds (bytesOf "é\n\nàb\n") 5 ⟨2, 1⟩ := by
  have small : "é\n\nàb\n".utf8ByteSize < 2 ^ 32 := by decide
  have found := ((locate_exact "é\n\nàb\n" small).2.2.1 5).1
  exact ⟨small, by decide, found⟩

end LineStarts

end ChainCompletion.Text
