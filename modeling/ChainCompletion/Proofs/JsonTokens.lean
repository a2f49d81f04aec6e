/-
# Proofs.JsonTokens -- strings and numbers of JSON texts

The grammar of tokens is given apart from the reader.  A string is spelled item by item
(`StringBody`), and its items stand for characters, the two units of a pair for one
(`StandFor`); where a unit lacks its partner the string is still spelled, but has no text
(`SpellsString`).  A number has a whole part, a fraction and an exponent (`Numeral`), and keeps
its value where it is nothing but its whole part, has no sign and fits 64 bits (`plainValue`).

The reader takes these tokens and no others.  What it reads at the start of a text is spelled
there (`stringText_sound`, `numeral_sound`), and what is spelled at the start of a text is read
there (`stringText_complete`, `numeral_complete`).  A number would go on with a digit, a point or
an exponent, so the text after it must not start with one (`Stops`).
-/
import ChainCompletion.Settings.Json
import Mathlib.Data.List.TakeWhile

namespace ChainCompletion.Settings.Json

set_option autoImplicit false

variable {α : Type}

/-! ## The grammar -/

/-- Whether a text holds nothing but blanks. -/
def Blank (text : List Char) : Prop :=
  ∀ c ∈ text, isSpace c = true

/-- Whether a text is a row of decimal digits. -/
structure IsDigits (text : List Char) : Prop where
  notEmpty : text ≠ []
  digits : ∀ c ∈ text, c.isDigit = true

/-- Whether a text is the whole part of a number: a zero alone, or digits that start otherwise. -/
inductive IsWhole : List Char → Prop
  | zero : IsWhole ['0']
  | other {text : List Char} (isDigits : IsDigits text) (start : text.head? ≠ some '0') :
      IsWhole text

/-- Whether a text is the fraction of a number, which may be missing. -/
inductive IsFraction : List Char → Prop
  | none : IsFraction []
  | digits {digits : List Char} (isDigits : IsDigits digits) : IsFraction ('.' :: digits)

/-- Whether a text is the sign of an exponent, which may be missing. -/
inductive IsSign : List Char → Prop
  | none : IsSign []
  | plus : IsSign ['+']
  | minus : IsSign ['-']

/-- Whether a text is the exponent of a number, which may be missing. -/
inductive IsExponent : List Char → Prop
  | none : IsExponent []
  | digits {letter : Char} {sign digits : List Char} (isLetter : letter = 'e' ∨ letter = 'E')
      (isSign : IsSign sign) (isDigits : IsDigits digits) :
      IsExponent (letter :: (sign ++ digits))

/-- The value of a number that is whole and fits 64 bits, given its parts. -/
def plainValue (whole fraction exponent : List Char) : Option Nat :=
  if fraction = [] ∧ exponent = [] ∧ Nat.ofDigitChars 10 whole 0 < UInt64.size then
    some (Nat.ofDigitChars 10 whole 0)
  else none

/-- The numbers without a sign. -/
inductive Unsigned : Option Nat → List Char → Prop
  | mk {whole fraction exponent : List Char} (isWhole : IsWhole whole)
      (isFraction : IsFraction fraction) (isExponent : IsExponent exponent) :
      Unsigned (plainValue whole fraction exponent) (whole ++ (fraction ++ exponent))

/-- The numbers; one with a sign has no plain value. -/
inductive Numeral : Option Nat → List Char → Prop
  | unsigned {plain : Option Nat} {text : List Char} (isUnsigned : Unsigned plain text) :
      Numeral plain text
  | negative {plain : Option Nat} {text : List Char} (isUnsigned : Unsigned plain text) :
      Numeral none ('-' :: text)

/-- What stands between the quotes of a string, item by item. -/
inductive StringBody : List StringItem → List Char → Prop
  | nil : StringBody [] []
  | plain {c : Char} {items : List StringItem} {text : List Char} (printable : 0x20 ≤ c.toNat)
      (notQuote : c ≠ '\x22') (notEscape : c ≠ '\x5c') (rest : StringBody items text) :
      StringBody (.plain c :: items) (c :: text)
  | escape {letter c : Char} {items : List StringItem} {text : List Char}
      (isEscape : escaped? letter = some c) (rest : StringBody items text) :
      StringBody (.plain c :: items) ('\x5c' :: letter :: text)
  | unit {a b c d : Char} {code : Nat} {items : List StringItem} {text : List Char}
      (isUnit : hexUnit? a b c d = some code) (rest : StringBody items text) :
      StringBody (.unit code :: items) ('\x5c' :: 'u' :: a :: b :: c :: d :: text)

/-- The characters that the items of a string stand for. -/
inductive StandFor : List StringItem → List Char → Prop
  | nil : StandFor [] []
  | plain {c : Char} {items : List StringItem} {chars : List Char} (rest : StandFor items chars) :
      StandFor (.plain c :: items) (c :: chars)
  | unit {code : Nat} {items : List StringItem} {chars : List Char}
      (notHigh : isHighUnit code = false) (notLow : isLowUnit code = false)
      (rest : StandFor items chars) : StandFor (.unit code :: items) (Char.ofNat code :: chars)
  | pair {high low : Nat} {items : List StringItem} {chars : List Char}
      (isHigh : isHighUnit high = true) (isLow : isLowUnit low = true)
      (rest : StandFor items chars) :
      StandFor (.unit high :: .unit low :: items)
        (Char.ofNat (0x10000 + (high - 0xD800) * 0x400 + (low - 0xDC00)) :: chars)

/-- The strings, with their text unless a unit lacks its partner. -/
inductive SpellsString : Option String → List Char → Prop
  | text {items : List StringItem} {body chars : List Char} (isBody : StringBody items body)
      (stand : StandFor items chars) :
      SpellsString (some (String.ofList chars)) ('\x22' :: (body ++ ['\x22']))
  | unpaired {items : List StringItem} {body : List Char} (isBody : StringBody items body)
      (unmatched : ∀ chars, ¬ StandFor items chars) :
      SpellsString none ('\x22' :: (body ++ ['\x22']))

/-! ## Blanks -/

/-- What is left of a text comes after blanks. -/
theorem exists_blank {text rest : List Char} (left : skipSpace text = rest) :
    ∃ before, Blank before ∧ text = before ++ rest :=
  ⟨text.takeWhile isSpace, fun _ isThere => List.mem_takeWhile_imp isThere,
    left ▸ List.takeWhile_append_dropWhile.symm⟩

/-- Blanks before something visible are passed over. -/
theorem skipSpace_to {before : List Char} (blank : Blank before) {c : Char}
    (visible : isSpace c = false) (text : List Char) :
    skipSpace (before ++ c :: text) = c :: text := by
  rw [skipSpace, List.dropWhile_append_of_pos blank]
  exact List.dropWhile_cons_of_neg (by simp [visible])

theorem isEmpty_skipSpace_iff {text : List Char} :
    (skipSpace text).isEmpty = true ↔ Blank text := by
  rw [List.isEmpty_iff, skipSpace, List.dropWhile_eq_nil_iff]
  rfl

/-! ## Where a value ends -/

/-- Whether a number that comes before a text ends there. -/
def Stops (rest : List Char) : Prop :=
  ∀ c ∈ rest.head?, c.isDigit = false ∧ c ≠ '.' ∧ c ≠ 'e' ∧ c ≠ 'E'

theorem stops_nil : Stops [] := by
  intro c isFirst
  cases isFirst

theorem stops_cons {c : Char} (ends : c.isDigit = false ∧ c ≠ '.' ∧ c ≠ 'e' ∧ c ≠ 'E')
    (rest : List Char) : Stops (c :: rest) := by
  rintro _ ⟨⟩
  exact ends

theorem stops_append {after rest : List Char} (blank : Blank after) (stops : Stops rest) :
    Stops (after ++ rest) := by
  cases after with
  | nil => exact stops
  | cons c after =>
      have space := blank c (by simp)
      simp only [isSpace, Bool.or_eq_true, decide_eq_true_eq, or_assoc] at space
      refine stops_cons ?_ _
      rcases space with rfl | rfl | rfl | rfl <;> decide

/-! ## Strings -/

/-- What is read item by item starts with its first item. -/
theorem consRead_eq_some_iff {item : α} {later : Option (List α × List Char)} {items : List α}
    {rest : List Char} :
    (do let (items, rest) ← later; return (item :: items, rest)) = some (items, rest) ↔
      ∃ tail, later = some (tail, rest) ∧ items = item :: tail := by
  cases later with
  | none => simp
  | some found =>
      simp only [Option.pure_def, Option.bind_eq_bind, Option.bind_some, Option.some.injEq,
        Prod.ext_iff]
      exact ⟨fun ⟨same, ends⟩ => ⟨found.1, ⟨rfl, ends⟩, same.symm⟩,
        fun ⟨_, ⟨same, ends⟩, whole⟩ => ⟨by rw [whole, same], ends⟩⟩

theorem stringItems_sound {text rest : List Char} {items : List StringItem}
    (read : stringItems text = some (items, rest)) :
    ∃ body, text = body ++ '\x22' :: rest ∧ StringBody items body := by
  fun_induction stringItems text generalizing items with
  | case1 => cases read
  | case2 =>
      cases read
      exact ⟨[], rfl, .nil⟩
  | case3 a b c d after ih =>
      obtain ⟨code, isUnit, read⟩ := Option.bind_eq_some_iff.mp read
      obtain ⟨later, readLater, rfl⟩ := consRead_eq_some_iff.mp read
      obtain ⟨body, rfl, isBody⟩ := ih readLater
      exact ⟨_, rfl, .unit isUnit isBody⟩
  | case4 letter after _ ih =>
      obtain ⟨c, isEscape, read⟩ := Option.bind_eq_some_iff.mp read
      obtain ⟨later, readLater, rfl⟩ := consRead_eq_some_iff.mp read
      obtain ⟨body, rfl, isBody⟩ := ih readLater
      exact ⟨_, rfl, .escape isEscape isBody⟩
  | case5 => cases read
  | case6 c after notQuote _ _ allowed ih =>
      obtain ⟨later, readLater, rfl⟩ := consRead_eq_some_iff.mp read
      obtain ⟨body, rfl, isBody⟩ := ih readLater
      simp only [Bool.or_eq_true, decide_eq_true_eq, not_or, not_lt] at allowed
      exact ⟨_, rfl, .plain allowed.2 notQuote allowed.1 isBody⟩

theorem stringItems_complete {items : List StringItem} {body : List Char}
    (isBody : StringBody items body) (rest : List Char) :
    stringItems (body ++ '\x22' :: rest) = some (items, rest) := by
  induction isBody with
  | nil => rfl
  | plain printable notQuote notEscape _ ih =>
      rw [List.cons_append, stringItems.eq_5 _ _ notQuote
        (fun _ _ _ _ _ isEscape => absurd isEscape notEscape)
        (fun _ _ isEscape => absurd isEscape notEscape)]
      simp [notEscape, printable, ih]
  | @escape letter c _ _ isEscape _ ih =>
      have notUnit : letter ≠ 'u' := by
        rintro rfl
        cases isEscape
      rw [List.cons_append, List.cons_append, stringItems.eq_4 _ _
        (fun _ _ _ _ _ isUnit => absurd isUnit notUnit)]
      simp [isEscape, ih]
  | unit isUnit _ ih => simp [stringItems, isUnit, ih]

/-- A unit that belongs to no pair stands for its own character. -/
theorem characters?_unit {code : Nat} (notHigh : isHighUnit code = false)
    (notLow : isLowUnit code = false) (items : List StringItem) :
    characters? (.unit code :: items) = (characters? items).map (Char.ofNat code :: ·) := by
  rcases items with _ | ⟨_ | _, _⟩ <;> simp [characters?, notHigh, notLow]

theorem characters?_eq_some_iff {items : List StringItem} {chars : List Char} :
    characters? items = some chars ↔ StandFor items chars := by
  constructor
  · intro found
    fun_induction characters? items generalizing chars with
    | case1 =>
        cases found
        exact .nil
    | case2 c items ih =>
        obtain ⟨later, foundLater, rfl⟩ := Option.map_eq_some_iff.mp found
        exact .plain (ih foundLater)
    | case3 high low items paired ih =>
        obtain ⟨later, foundLater, rfl⟩ := Option.map_eq_some_iff.mp found
        obtain ⟨isHigh, isLow⟩ := Bool.and_eq_true_iff.mp paired
        exact .pair isHigh isLow (ih foundLater)
    | case4 => cases found
    | case5 high low items _ alone ih =>
        obtain ⟨later, foundLater, rfl⟩ := Option.map_eq_some_iff.mp found
        obtain ⟨notHigh, notLow⟩ := Bool.or_eq_false_iff.mp (Bool.eq_false_iff.mpr alone)
        exact .unit notHigh notLow (ih foundLater)
    | case6 => cases found
    | case7 code items _ alone ih =>
        obtain ⟨later, foundLater, rfl⟩ := Option.map_eq_some_iff.mp found
        obtain ⟨notHigh, notLow⟩ := Bool.or_eq_false_iff.mp (Bool.eq_false_iff.mpr alone)
        exact .unit notHigh notLow (ih foundLater)
  · intro stand
    induction stand with
    | nil => rfl
    | plain _ ih => simp [characters?, ih]
    | unit notHigh notLow _ ih => simp [characters?_unit notHigh notLow, ih]
    | pair isHigh isLow _ ih => simp [characters?, isHigh, isLow, ih]

/-- The text of a string is what its items stand for. -/
theorem spellsString_iff {content : Option String} {text : List Char} :
    SpellsString content text ↔ ∃ items body, StringBody items body ∧
      text = '\x22' :: (body ++ ['\x22']) ∧ content = (characters? items).map String.ofList := by
  constructor
  · intro isString
    cases isString with
    | text isBody stand =>
        exact ⟨_, _, isBody, rfl, by rw [characters?_eq_some_iff.mpr stand]; rfl⟩
    | @unpaired items _ isBody unmatched =>
        have nothing : characters? items = none :=
          Option.eq_none_iff_forall_ne_some.mpr fun chars found =>
            unmatched chars (characters?_eq_some_iff.mp found)
        exact ⟨_, _, isBody, rfl, by rw [nothing]; rfl⟩
  · rintro ⟨items, body, isBody, rfl, rfl⟩
    cases found : characters? items with
    | some chars => exact .text isBody (characters?_eq_some_iff.mp found)
    | none =>
        refine .unpaired isBody fun chars stand => ?_
        simp [characters?_eq_some_iff.mpr stand] at found

theorem stringText_sound {text rest : List Char} {content : Option String}
    (read : stringText text = some (content, rest)) :
    ∃ spelled, '\x22' :: text = spelled ++ rest ∧ SpellsString content spelled := by
  obtain ⟨⟨items, after⟩, readItems, same⟩ := Option.bind_eq_some_iff.mp read
  cases same
  obtain ⟨body, rfl, isBody⟩ := stringItems_sound readItems
  exact ⟨'\x22' :: (body ++ ['\x22']), by simp,
    spellsString_iff.mpr ⟨items, body, isBody, rfl, rfl⟩⟩

/-- A string starts with a quote, and after the quote it is read to its end. -/
theorem stringText_complete {content : Option String} {spelled : List Char}
    (isString : SpellsString content spelled) :
    ∃ inner, spelled = '\x22' :: inner ∧
      ∀ rest, stringText (inner ++ rest) = some (content, rest) := by
  obtain ⟨items, body, isBody, rfl, rfl⟩ := spellsString_iff.mp isString
  refine ⟨_, rfl, fun rest => ?_⟩
  rw [List.append_assoc, List.singleton_append, stringText, stringItems_complete isBody rest]
  rfl

/-! ## Numbers -/

/-- Digits that end where a text goes on with something else are all that is taken. -/
theorem takeWhile_digits {digits rest : List Char} (inside : ∀ c ∈ digits, c.isDigit = true)
    (ends : ∀ c ∈ rest.head?, c.isDigit = false) :
    (digits ++ rest).takeWhile Char.isDigit = digits ∧
      (digits ++ rest).dropWhile Char.isDigit = rest := by
  rw [List.takeWhile_append_of_pos inside, List.dropWhile_append_of_pos inside]
  cases rest with
  | nil => simp
  | cons c rest => simp [ends c rfl]

theorem someDigits_sound {text digits rest : List Char}
    (read : someDigits text = some (digits, rest)) : text = digits ++ rest ∧ IsDigits digits := by
  unfold someDigits at read
  split at read
  · cases read
  · next some =>
      cases read
      exact ⟨List.takeWhile_append_dropWhile.symm, some,
        fun _ isThere => List.mem_takeWhile_imp isThere⟩

theorem someDigits_complete {digits rest : List Char} (isDigits : IsDigits digits)
    (ends : ∀ c ∈ rest.head?, c.isDigit = false) :
    someDigits (digits ++ rest) = some (digits, rest) := by
  obtain ⟨taken, left⟩ := takeWhile_digits isDigits.digits ends
  rw [someDigits, taken, left]
  split
  · exact absurd rfl isDigits.notEmpty
  · rfl

theorem wholePart_sound {text whole rest : List Char}
    (read : wholePart text = some (whole, rest)) : text = whole ++ rest ∧ IsWhole whole := by
  unfold wholePart at read
  split at read
  · cases read
    exact ⟨rfl, .zero⟩
  · next notZero =>
      obtain ⟨rfl, isDigits⟩ := someDigits_sound read
      refine ⟨rfl, .other isDigits fun isZero => ?_⟩
      obtain ⟨digits, rfl⟩ := List.head?_eq_some_iff.mp isZero
      exact notZero _ rfl

theorem wholePart_complete {whole rest : List Char} (isWhole : IsWhole whole)
    (ends : ∀ c ∈ rest.head?, c.isDigit = false) :
    wholePart (whole ++ rest) = some (whole, rest) := by
  cases isWhole with
  | zero => rfl
  | other isDigits start =>
      unfold wholePart
      split
      · next text _ sameText =>
          obtain ⟨c, digits, rfl⟩ := List.exists_cons_of_ne_nil isDigits.notEmpty
          cases sameText
          exact absurd rfl start
      · exact someDigits_complete isDigits ends

theorem fraction_sound {text rest : List Char} {present : Bool}
    (read : fraction text = some (present, rest)) :
    ∃ part, text = part ++ rest ∧ IsFraction part ∧ present = !part.isEmpty := by
  unfold fraction at read
  split at read
  · obtain ⟨⟨digits, after⟩, readDigits, same⟩ := Option.map_eq_some_iff.mp read
    cases same
    obtain ⟨rfl, isDigits⟩ := someDigits_sound readDigits
    exact ⟨_, rfl, .digits isDigits, rfl⟩
  · cases read
    exact ⟨[], rfl, .none, rfl⟩

theorem fraction_complete {part rest : List Char} (isFraction : IsFraction part)
    (ends : ∀ c ∈ rest.head?, c.isDigit = false ∧ c ≠ '.') :
    fraction (part ++ rest) = some (!part.isEmpty, rest) := by
  cases isFraction with
  | none =>
      unfold fraction
      split
      · next _ after sameText => exact absurd rfl (ends '.' (by simp_all)).2
      · rfl
  | digits isDigits =>
      simp [fraction, someDigits_complete isDigits fun c isFirst => (ends c isFirst).1]

theorem skipSign_sound (text : List Char) : ∃ sign, text = sign ++ skipSign text ∧ IsSign sign := by
  unfold skipSign
  split
  · exact ⟨_, rfl, .plus⟩
  · exact ⟨_, rfl, .minus⟩
  · exact ⟨_, rfl, .none⟩

theorem skipSign_complete {sign digits : List Char} (isSign : IsSign sign)
    (isDigits : IsDigits digits) (rest : List Char) :
    skipSign (sign ++ (digits ++ rest)) = digits ++ rest := by
  cases isSign with
  | plus => rfl
  | minus => rfl
  | none =>
      obtain ⟨c, tail, rfl⟩ := List.exists_cons_of_ne_nil isDigits.notEmpty
      have isDigit := isDigits.digits c (by simp)
      unfold skipSign
      split <;> simp_all

theorem exponent_sound {text rest : List Char} {present : Bool}
    (read : exponent text = some (present, rest)) :
    ∃ part, text = part ++ rest ∧ IsExponent part ∧ present = !part.isEmpty := by
  unfold exponent at read
  split at read
  · next c after =>
      split at read
      · next isLetter =>
          obtain ⟨⟨digits, after'⟩, readDigits, same⟩ := Option.map_eq_some_iff.mp read
          cases same
          obtain ⟨sign, sameText, isSign⟩ := skipSign_sound after
          obtain ⟨afterSign, isDigits⟩ := someDigits_sound readDigits
          refine ⟨c :: (sign ++ digits), ?_, .digits (by simpa using isLetter) isSign isDigits, rfl⟩
          rw [sameText, afterSign]
          simp
      · cases read
        exact ⟨[], rfl, .none, rfl⟩
  · cases read
    exact ⟨[], rfl, .none, rfl⟩

theorem exponent_complete {part rest : List Char} (isExponent : IsExponent part)
    (stops : Stops rest) : exponent (part ++ rest) = some (!part.isEmpty, rest) := by
  cases isExponent with
  | none =>
      cases rest with
      | nil => rfl
      | cons c rest =>
          obtain ⟨_, _, notSmall, notLarge⟩ := stops c rfl
          simp [exponent, notSmall, notLarge]
  | digits isLetter isSign isDigits =>
      simp [exponent, isLetter, skipSign_complete isSign isDigits,
        someDigits_complete isDigits fun c isFirst => (stops c isFirst).1]

/-- An exponent ends the digits before it, and the fraction before it. -/
theorem IsExponent.ends {part rest : List Char} (isExponent : IsExponent part)
    (stops : Stops rest) : ∀ c ∈ (part ++ rest).head?, c.isDigit = false ∧ c ≠ '.' := by
  cases isExponent with
  | none => exact fun c isFirst => ⟨(stops c isFirst).1, (stops c isFirst).2.1⟩
  | digits isLetter =>
      rintro _ ⟨⟩
      rcases isLetter with rfl | rfl <;> decide

/-- A fraction ends the digits before it. -/
theorem IsFraction.ends {part rest : List Char} (isFraction : IsFraction part)
    (ends : ∀ c ∈ rest.head?, c.isDigit = false ∧ c ≠ '.') :
    ∀ c ∈ (part ++ rest).head?, c.isDigit = false := by
  cases isFraction with
  | none => exact fun c isFirst => (ends c isFirst).1
  | digits =>
      rintro _ ⟨⟩
      decide

theorem decimalValue_eq (digits : List Char) :
    decimalValue digits = Nat.ofDigitChars 10 digits 0 := by
  simp only [decimalValue, Nat.ofDigitChars, Nat.mul_comm]

/-- What the reader makes of the parts of a number. -/
theorem unsigned_of_parts {text whole fraction exponent rest rest' rest'' : List Char}
    (readWhole : wholePart text = some (whole, rest))
    (readFraction : Json.fraction rest = some (!fraction.isEmpty, rest'))
    (readExponent : Json.exponent rest' = some (!exponent.isEmpty, rest'')) :
    unsigned text = some (plainValue whole fraction exponent, rest'') := by
  simp [unsigned, readWhole, readFraction, readExponent, plainValue, decimalValue_eq, integerLimit,
    UInt64.size, and_assoc]

theorem unsigned_sound {text rest : List Char} {plain : Option Nat}
    (read : unsigned text = some (plain, rest)) :
    ∃ spelled, text = spelled ++ rest ∧ Unsigned plain spelled := by
  obtain ⟨⟨whole, afterWhole⟩, readWhole, read'⟩ := Option.bind_eq_some_iff.mp read
  obtain ⟨⟨hasFraction, afterFraction⟩, readFraction, read'⟩ := Option.bind_eq_some_iff.mp read'
  obtain ⟨⟨hasExponent, afterExponent⟩, readExponent, -⟩ := Option.bind_eq_some_iff.mp read'
  obtain ⟨sameText, isWhole⟩ := wholePart_sound readWhole
  obtain ⟨fraction, sameWhole, isFraction, rfl⟩ := fraction_sound readFraction
  obtain ⟨exponent, sameFraction, isExponent, rfl⟩ := exponent_sound readExponent
  cases (unsigned_of_parts readWhole readFraction readExponent).symm.trans read
  refine ⟨_, ?_, .mk isWhole isFraction isExponent⟩
  rw [sameText, sameWhole, sameFraction, List.append_assoc, List.append_assoc]

theorem unsigned_complete {plain : Option Nat} {spelled rest : List Char}
    (isUnsigned : Unsigned plain spelled) (stops : Stops rest) :
    unsigned (spelled ++ rest) = some (plain, rest) := by
  obtain ⟨isWhole, isFraction, isExponent⟩ := isUnsigned
  rw [List.append_assoc, List.append_assoc]
  exact unsigned_of_parts (wholePart_complete isWhole (isFraction.ends (isExponent.ends stops)))
    (fraction_complete isFraction (isExponent.ends stops)) (exponent_complete isExponent stops)

/-- A number without a sign starts with a digit. -/
theorem Unsigned.head {plain : Option Nat} {text : List Char} (isUnsigned : Unsigned plain text) :
    ∃ c tail, text = c :: tail ∧ c.isDigit = true := by
  obtain ⟨isWhole, -, -⟩ := isUnsigned
  cases isWhole with
  | zero => exact ⟨'0', _, rfl, rfl⟩
  | other isDigits =>
      obtain ⟨c, tail, rfl⟩ := List.exists_cons_of_ne_nil isDigits.notEmpty
      exact ⟨c, _, rfl, isDigits.digits c (by simp)⟩

theorem numeral_sound {text rest : List Char} {plain : Option Nat}
    (read : numeral text = some (plain, rest)) :
    ∃ spelled, text = spelled ++ rest ∧ Numeral plain spelled := by
  unfold numeral at read
  split at read
  · obtain ⟨⟨plain', after⟩, readUnsigned, same⟩ := Option.map_eq_some_iff.mp read
    cases same
    obtain ⟨spelled, rfl, isUnsigned⟩ := unsigned_sound readUnsigned
    exact ⟨_, rfl, .negative isUnsigned⟩
  · obtain ⟨spelled, rfl, isUnsigned⟩ := unsigned_sound read
    exact ⟨_, rfl, .unsigned isUnsigned⟩

theorem numeral_complete {plain : Option Nat} {spelled rest : List Char}
    (isNumeral : Numeral plain spelled) (stops : Stops rest) :
    numeral (spelled ++ rest) = some (plain, rest) := by
  cases isNumeral with
  | negative isUnsigned => simp [numeral, unsigned_complete isUnsigned stops]
  | unsigned isUnsigned =>
      obtain ⟨c, tail, rfl, isDigit⟩ := isUnsigned.head
      unfold numeral
      split
      · next _ after sameText =>
          cases sameText
          cases isDigit
      · exact unsigned_complete isUnsigned stops

theorem Numeral.head {plain : Option Nat} {text : List Char} (isNumeral : Numeral plain text) :
    ∃ c tail, text = c :: tail ∧ (c.isDigit = true ∨ c = '-') := by
  cases isNumeral with
  | negative => exact ⟨_, _, rfl, .inr rfl⟩
  | unsigned isUnsigned =>
      obtain ⟨c, tail, rfl, isDigit⟩ := isUnsigned.head
      exact ⟨c, tail, rfl, .inl isDigit⟩

end ChainCompletion.Settings.Json
