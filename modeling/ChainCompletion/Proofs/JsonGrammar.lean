/-
# Proofs.JsonGrammar -- the texts of JSON values

The grammar is given apart from the reader: which texts spell a value (`Json.Spells`), with any
blanks between tokens, and when a whole text is that of a value (`Json.Written`).  Items of an
array and fields of an object stand in the same kind of row (`Row`), and are read in the same
way (`row`).

The reader takes these texts and no others.  What it reads at the start of a text is spelled
there (`value_sound`), and what is spelled at the start of a text is read there
(`value_complete`): a value is shorter than the text that it stands in, so that the length of the
text bounds its depth and its items.  So reading a text gives a value exactly if the text is that
of the value (`ofText?_eq_some_iff`).
-/
import ChainCompletion.Proofs.JsonTokens

namespace ChainCompletion.Settings.Json

set_option autoImplicit false

variable {α : Type}

/-! ## The grammar -/

/-- Things with blanks around them, one or more, with commas between them. -/
inductive Row (spells : α → List Char → Prop) : List α → List Char → Prop
  | last {item : α} {before text after : List Char} (blank : Blank before)
      (isItem : spells item text) (blank' : Blank after) :
      Row spells [item] (before ++ text ++ after)
  | next {item : α} {items : List α} {before text after more : List Char} (blank : Blank before)
      (isItem : spells item text) (blank' : Blank after) (rest : Row spells items more) :
      Row spells (item :: items) (before ++ text ++ after ++ ',' :: more)

/-- The fields of an object: a key, a colon and a value. -/
inductive SpellsField (spells : Json → List Char → Prop) : Option String × Json → List Char → Prop
  | mk {key : Option String} {json : Json} {name before after text : List Char}
      (isKey : SpellsString key name) (blank : Blank before) (blank' : Blank after)
      (isValue : spells json text) :
      SpellsField spells (key, json) (name ++ before ++ ':' :: (after ++ text))

/-- Which texts spell a value. -/
inductive Spells : Json → List Char → Prop
  | null : Spells .null ['n', 'u', 'l', 'l']
  | yes : Spells (.bool true) ['t', 'r', 'u', 'e']
  | no : Spells (.bool false) ['f', 'a', 'l', 's', 'e']
  | number {plain : Option Nat} {text : List Char} (isNumeral : Numeral plain text) :
      Spells (.number plain) text
  | string {content : Option String} {text : List Char} (isString : SpellsString content text) :
      Spells (.string content) text
  | emptyArray {inner : List Char} (blank : Blank inner) :
      Spells (.array []) ('[' :: (inner ++ [']']))
  | array {items : List Json} {inner : List Char} (row : Row Spells items inner) :
      Spells (.array items) ('[' :: (inner ++ [']']))
  | emptyObject {inner : List Char} (blank : Blank inner) :
      Spells (.object []) ('\x7b' :: (inner ++ ['\x7d']))
  | object {fields : List (Option String × Json)} {inner : List Char}
      (row : Row (SpellsField Spells) fields inner) :
      Spells (.object fields) ('\x7b' :: (inner ++ ['\x7d']))

/-- Whether a text is that of a value, with any blanks around it. -/
def Written (json : Json) (text : String) : Prop :=
  ∃ before spelled after, text.toList = before ++ spelled ++ after ∧ Blank before ∧
    Spells json spelled ∧ Blank after

/-! ## Rows -/

/-- Whether what is read at the start of a text is spelled there, after any blanks. -/
def ReadsOnly (read : List Char → Option (α × List Char)) (spells : α → List Char → Prop) : Prop :=
  ∀ ⦃text item rest⦄, read text = some (item, rest) →
    ∃ before spelled, text = before ++ spelled ++ rest ∧ Blank before ∧ spells item spelled

/-- Whether what is spelled in a bounded text is read there, after any blanks. -/
def ReadsAll (read : List Char → Option (α × List Char)) (spells : α → List Char → Prop)
    (bound : Nat) : Prop :=
  ∀ ⦃item before spelled rest⦄, Blank before → spells item spelled → spelled.length < bound →
    Stops rest → read (before ++ spelled ++ rest) = some (item, rest)

/-- Reads things with commas between them up to a closing character, given how to read one. -/
def row (closing : Char) (read : List Char → Option (α × List Char)) :
    Nat → List Char → Option (List α × List Char)
  | 0, _ => none
  | length + 1, text => do
      let (item, rest) ← read text
      match skipSpace rest with
      | [] => none
      | c :: rest =>
          if c = ',' then
            let (later, rest) ← row closing read length rest
            return (item :: later, rest)
          else if c = closing then return ([item], rest)
          else none

theorem items_eq_row (read : List Char → Option (Json × List Char)) (length : Nat) :
    items read length = row ']' read length := by
  induction length with
  | zero => rfl
  | succ length ih =>
      funext text
      simp only [items, row, ih]
      refine congrArg (Option.bind (read text)) (funext fun ⟨item, rest⟩ => ?_)
      dsimp only
      cases skipSpace rest with
      | nil => rfl
      | cons c after => split <;> simp_all

theorem fields_eq_row (read : List Char → Option (Json × List Char)) (length : Nat) :
    fields read length = row '\x7d' (field read) length := by
  induction length with
  | zero => rfl
  | succ length ih =>
      funext text
      simp only [fields, row, ih]
      refine congrArg (Option.bind (field read text)) (funext fun ⟨entry, rest⟩ => ?_)
      dsimp only
      cases skipSpace rest with
      | nil => rfl
      | cons c after => split <;> simp_all

theorem row_sound {closing : Char} {read : List Char → Option (α × List Char)}
    {spells : α → List Char → Prop} (reads : ReadsOnly read spells) {length : Nat}
    {text rest : List Char} {items : List α}
    (found : row closing read length text = some (items, rest)) :
    ∃ inner, text = inner ++ closing :: rest ∧ Row spells items inner := by
  induction length generalizing text items with
  | zero => cases found
  | succ length ih =>
      obtain ⟨⟨item, left⟩, readItem, afterItem⟩ := Option.bind_eq_some_iff.mp found
      obtain ⟨before, spelled, sameText, blank, isItem⟩ := reads readItem
      dsimp only at afterItem
      split at afterItem
      · cases afterItem
      · next c more sameRest =>
          obtain ⟨after, blank', rfl⟩ := exists_blank sameRest
          rw [sameText]
          split at afterItem
          · next isComma =>
              subst isComma
              obtain ⟨later, foundLater, rfl⟩ := consRead_eq_some_iff.mp afterItem
              obtain ⟨inner, rfl, isRow⟩ := ih foundLater
              exact ⟨_, by simp, .next blank isItem blank' isRow⟩
          · split at afterItem
            · next closes =>
                subst closes
                cases afterItem
                exact ⟨_, by simp, .last blank isItem blank'⟩
            · cases afterItem

/-- Whether a character can close a row: it is no comma, no blank, and ends a number. -/
structure Closes (closing : Char) : Prop where
  notComma : closing ≠ ','
  visible : isSpace closing = false
  stops (rest : List Char) : Stops (closing :: rest)

theorem row_complete {closing : Char} (closes : Closes closing)
    {read : List Char → Option (α × List Char)} {spells : α → List Char → Prop} {bound : Nat}
    (reads : ReadsAll read spells bound) {items : List α} {inner : List Char}
    (isRow : Row spells items inner) (rest : List Char) (short : inner.length < bound)
    {length : Nat} (enough : inner.length < length) :
    row closing read length (inner ++ closing :: rest) = some (items, rest) := by
  -- Each item but the last has a comma, so a row has no more items than `length` allows.
  induction isRow generalizing length with
  | @last item before spelled after blank isItem blank' =>
      obtain ⟨length, rfl⟩ := Nat.exists_eq_add_one_of_ne_zero (Nat.ne_zero_of_lt enough)
      simp only [List.length_append] at short
      have readItem : read (before ++ spelled ++ (after ++ closing :: rest)) =
          some (item, after ++ closing :: rest) :=
        reads blank isItem (by omega) (stops_append blank' (closes.stops rest))
      rw [List.append_assoc (before ++ spelled), row, readItem]
      simp [skipSpace_to blank' closes.visible, closes.notComma]
  | @next item items before spelled after more blank isItem blank' _ ih =>
      obtain ⟨length, rfl⟩ := Nat.exists_eq_add_one_of_ne_zero (Nat.ne_zero_of_lt enough)
      simp only [List.length_append, List.length_cons] at short enough
      have readItem : read (before ++ spelled ++ (after ++ ',' :: (more ++ closing :: rest))) =
          some (item, after ++ ',' :: (more ++ closing :: rest)) :=
        reads blank isItem (by omega) (stops_append blank' (stops_cons (by decide) _))
      have readMore : row closing read length (more ++ closing :: rest) = some (items, rest) :=
        ih (by omega) (by omega)
      rw [List.append_assoc _ (',' :: more), List.append_assoc (before ++ spelled),
        List.cons_append, row, readItem]
      simp [readMore, skipSpace_to blank' (show isSpace ',' = false by decide)]

/-- Whether a text starts with something visible that closes nothing. -/
def Opens (text : List Char) : Prop :=
  ∃ c tail, text = c :: tail ∧ isSpace c = false ∧ c ≠ ']' ∧ c ≠ '\x7d'

/-- A row starts with its first item, after any blanks. -/
theorem Row.first {spells : α → List Char → Prop} {items : List α} {inner : List Char}
    (isRow : Row spells items inner) :
    ∃ item before spelled more, inner = before ++ (spelled ++ more) ∧ Blank before ∧
      spells item spelled := by
  cases isRow with
  | last blank isItem _ => exact ⟨_, _, _, _, List.append_assoc .., blank, isItem⟩
  | next blank isItem _ _ =>
      exact ⟨_, _, _, _, by simp only [List.append_assoc]; rfl, blank, isItem⟩

theorem Row.opens {spells : α → List Char → Prop}
    (itemOpens : ∀ item spelled, spells item spelled → Opens spelled) {items : List α}
    {inner : List Char} (isRow : Row spells items inner) (rest : List Char) :
    Opens (skipSpace (inner ++ rest)) := by
  obtain ⟨item, before, spelled, more, rfl, blank, isItem⟩ := isRow.first
  obtain ⟨c, tail, rfl, visible, opens⟩ := itemOpens item spelled isItem
  refine ⟨c, tail ++ more ++ rest, ?_, visible, opens⟩
  rw [List.append_assoc, List.append_assoc, List.cons_append, skipSpace_to blank visible,
    List.append_assoc]

/-! ## Fields -/

theorem SpellsField.opens {spells : Json → List Char → Prop} (entry : Option String × Json)
    (text : List Char) (isField : SpellsField spells entry text) : Opens text := by
  cases isField with
  | mk isKey =>
      obtain ⟨inner, rfl, -⟩ := stringText_complete isKey
      exact ⟨'\x22', _, rfl, by decide⟩

theorem field_readsOnly {read : List Char → Option (Json × List Char)}
    {spells : Json → List Char → Prop} (reads : ReadsOnly read spells) :
    ReadsOnly (field read) (SpellsField spells) := by
  intro text entry rest found
  unfold field at found
  split at found
  · next inner start =>
      obtain ⟨before, blank, rfl⟩ := exists_blank start
      obtain ⟨⟨key, left⟩, readKey, found⟩ := Option.bind_eq_some_iff.mp found
      obtain ⟨name, sameKey, isKey⟩ := stringText_sound readKey
      dsimp only at found
      split at found
      · next value colon =>
          obtain ⟨between, blankBetween, rfl⟩ := exists_blank colon
          obtain ⟨⟨json, last⟩, readValue, same⟩ := Option.bind_eq_some_iff.mp found
          cases same
          obtain ⟨after, spelled, rfl, blankAfter, isValue⟩ := reads readValue
          refine ⟨before, _, ?_, blank, .mk isKey blankBetween blankAfter isValue⟩
          rw [sameKey]
          simp
      · cases found
  · cases found

theorem field_readsAll {read : List Char → Option (Json × List Char)}
    {spells : Json → List Char → Prop} {bound : Nat} (reads : ReadsAll read spells bound) :
    ReadsAll (field read) (SpellsField spells) bound := by
  intro entry before text rest blank isField short stops
  cases isField with
  | @mk key json name between after spelled isKey blankBetween blankAfter isValue =>
      obtain ⟨inner, rfl, readKey⟩ := stringText_complete isKey
      simp only [List.length_append, List.length_cons] at short
      have readValue : read (after ++ spelled ++ rest) = some (json, rest) :=
        reads blankAfter isValue (by omega) stops
      have start :
          skipSpace (before ++ ('\x22' :: inner ++ between ++ ':' :: (after ++ spelled)) ++ rest) =
            '\x22' :: (inner ++ (between ++ ':' :: (after ++ spelled ++ rest))) := by
        simpa using skipSpace_to blank (show isSpace '\x22' = false by decide) _
      simp only [field, start, readKey, Option.bind_eq_bind, Option.bind_some,
        skipSpace_to blankBetween (show isSpace ':' = false by decide), readValue]
      rfl

/-! ## Values -/

theorem isSpace_of_isDigit {c : Char} (isDigit : c.isDigit = true) : isSpace c = false := by
  rw [Bool.eq_false_iff]
  intro space
  simp only [isSpace, Bool.or_eq_true, decide_eq_true_eq, or_assoc] at space
  rcases space with rfl | rfl | rfl | rfl <;> cases isDigit

theorem Spells.opens (json : Json) (text : List Char) (spelled : Spells json text) :
    Opens text := by
  cases spelled with
  | number isNumeral =>
      obtain ⟨c, tail, rfl, isDigit | rfl⟩ := isNumeral.head
      · refine ⟨c, tail, rfl, isSpace_of_isDigit isDigit, ?_, ?_⟩ <;>
        · rintro rfl
          cases isDigit
      · exact ⟨'-', _, rfl, by decide⟩
  | string isString =>
      obtain ⟨inner, rfl, -⟩ := stringText_complete isString
      exact ⟨'\x22', _, rfl, by decide⟩
  | _ => exact ⟨_, _, rfl, by decide⟩

theorem value_sound (length depth : Nat) : ReadsOnly (value length depth) Spells := by
  induction depth with
  | zero =>
      intro text json rest found
      cases found
  | succ depth ih =>
      intro text json rest found
      obtain ⟨before, blank, sameText⟩ := exists_blank (Eq.refl (skipSpace text))
      -- The blanks come off first; then there is a case for each way to start a value.
      suffices ∃ spelled, skipSpace text = spelled ++ rest ∧ Spells json spelled by
        obtain ⟨spelled, sameStart, isSpelled⟩ := this
        exact ⟨before, spelled, by rw [List.append_assoc, ← sameStart, ← sameText], blank,
          isSpelled⟩
      rw [value] at found
      split at found
      · next sameStart =>
          cases found
          exact ⟨_, sameStart, .null⟩
      · next sameStart =>
          cases found
          exact ⟨_, sameStart, .yes⟩
      · next sameStart =>
          cases found
          exact ⟨_, sameStart, .no⟩
      · next inner sameStart =>
          obtain ⟨⟨content, after⟩, readString, same⟩ := Option.map_eq_some_iff.mp found
          cases same
          obtain ⟨spelled, sameString, isString⟩ := stringText_sound readString
          exact ⟨spelled, sameStart.trans sameString, .string isString⟩
      · next inner sameStart =>
          rw [sameStart]
          split at found
          · next after closes =>
              cases found
              obtain ⟨between, blankBetween, rfl⟩ := exists_blank closes
              exact ⟨'[' :: (between ++ [']']), by simp, .emptyArray blankBetween⟩
          · obtain ⟨⟨items, after⟩, readItems, same⟩ := Option.map_eq_some_iff.mp found
            cases same
            rw [items_eq_row] at readItems
            obtain ⟨row, rfl, isRow⟩ := row_sound ih readItems
            exact ⟨'[' :: (row ++ [']']), by simp, .array isRow⟩
      · next inner sameStart =>
          rw [sameStart]
          split at found
          · next after closes =>
              cases found
              obtain ⟨between, blankBetween, rfl⟩ := exists_blank closes
              exact ⟨'\x7b' :: (between ++ ['\x7d']), by simp, .emptyObject blankBetween⟩
          · obtain ⟨⟨fields, after⟩, readFields, same⟩ := Option.map_eq_some_iff.mp found
            cases same
            rw [fields_eq_row] at readFields
            obtain ⟨row, rfl, isRow⟩ := row_sound (field_readsOnly ih) readFields
            exact ⟨'\x7b' :: (row ++ ['\x7d']), by simp, .object isRow⟩
      · obtain ⟨⟨plain, after⟩, readNumeral, same⟩ := Option.map_eq_some_iff.mp found
        cases same
        obtain ⟨spelled, sameNumeral, isNumeral⟩ := numeral_sound readNumeral
        exact ⟨spelled, sameNumeral, .number isNumeral⟩

theorem closes_array : Closes ']' := ⟨by decide, by decide, stops_cons (by decide)⟩

theorem closes_object : Closes '\x7d' := ⟨by decide, by decide, stops_cons (by decide)⟩

theorem value_complete {length depth : Nat} (enough : depth ≤ length) :
    ReadsAll (value length depth) Spells depth := by
  induction depth with
  | zero =>
      intro json before spelled rest _ _ short
      cases short
  | succ depth ih =>
      have reads := ih (Nat.le_of_succ_le enough)
      intro json before spelled rest blank isSpelled short stops
      have start : skipSpace (before ++ spelled ++ rest) = spelled ++ rest := by
        obtain ⟨c, tail, rfl, visible, -⟩ := isSpelled.opens
        rw [List.append_assoc, List.cons_append, skipSpace_to blank visible]
      rw [value, start]
      cases isSpelled with
      | null => rfl
      | yes => rfl
      | no => rfl
      | number isNumeral =>
          have readNumeral := numeral_complete isNumeral stops
          obtain ⟨c, tail, rfl, starts⟩ := isNumeral.head
          -- No other value starts with a digit or a sign, so the reader comes to its last case.
          split
          case h_7 => rw [readNumeral, Option.map_some]
          all_goals
            rename_i same
            obtain rfl : c = _ := (List.cons.inj same).1
            exact absurd starts (by decide)
      | string isString =>
          obtain ⟨inner, rfl, readString⟩ := stringText_complete isString
          simp [readString]
      | emptyArray blankInner =>
          simp [skipSpace_to blankInner closes_array.visible]
      | @array items inner isRow =>
          simp only [List.length_cons, List.length_append, List.length_nil] at short
          have readItems : row ']' (value length depth) length (inner ++ ']' :: rest) =
              some (items, rest) :=
            row_complete closes_array reads isRow rest (by omega) (by omega)
          -- What follows the bracket is an item, so the reader does not take the array for empty.
          obtain ⟨c, tail, first, -, notClosing, -⟩ := isRow.opens Spells.opens (']' :: rest)
          simp [items_eq_row, readItems, first, notClosing]
      | emptyObject blankInner =>
          simp [skipSpace_to blankInner closes_object.visible]
      | @object fields inner isRow =>
          simp only [List.length_cons, List.length_append, List.length_nil] at short
          have readFields :
              row '\x7d' (field (value length depth)) length (inner ++ '\x7d' :: rest) =
                some (fields, rest) :=
            row_complete closes_object (field_readsAll reads) isRow rest (by omega) (by omega)
          obtain ⟨c, tail, first, -, -, notClosing⟩ :=
            isRow.opens SpellsField.opens ('\x7d' :: rest)
          simp [fields_eq_row, readFields, first, notClosing]

/-- Reading a text gives a value exactly if the text is that of the value. -/
theorem ofText?_eq_some_iff {text : String} {json : Json} :
    ofText? text = some json ↔ json.Written text := by
  constructor
  · intro found
    simp only [ofText?] at found
    split at found
    · next json' after read =>
        split at found
        · next blank' =>
            cases found
            obtain ⟨before, spelled, sameText, blank, isSpelled⟩ := value_sound _ _ read
            exact ⟨before, spelled, after, sameText, blank, isSpelled,
              isEmpty_skipSpace_iff.mp blank'⟩
        · cases found
    · cases found
  · rintro ⟨before, spelled, after, sameText, blank, isSpelled, blank'⟩
    have short : spelled.length < text.toList.length + 1 := by
      simp only [sameText, List.length_append]
      omega
    have read :=
      value_complete (Nat.le_refl _) blank isSpelled short (stops_append blank' stops_nil)
    rw [List.append_nil, ← sameText] at read
    simp only [ofText?, read, isEmpty_skipSpace_iff.mpr blank', if_true]

end ChainCompletion.Settings.Json
