/-
# Settings.Json -- reading JSON

Settings arrive as JSON text.  The reader takes the strict grammar: blanks are
space, tab, line feed and carriage return; there are no trailing commas and no
comments; numbers have no leading zeros; strings hold no control characters.

Two things are kept only as far as settings need them.  A number keeps its value
only when it is written as plain digits and fits 64 bits, and a string keeps its
text only when its escapes are well paired: an escaped surrogate without its
partner is good syntax but stands for no character.

`value` reads nested values to a given depth and lists to a given length; a value
is never deeper or longer than its text, so `Json.ofText?` gives it the length of
the text for both.
-/

namespace ChainCompletion.Settings

set_option autoImplicit false

/-- A JSON value. -/
inductive Json where
  | null
  | bool (value : Bool)
  /-- A number, with its value when that is a plain integer of at most 64 bits. -/
  | number (plain : Option Nat)
  /-- A string, with its text when the escapes pair up. -/
  | string (text : Option String)
  | array (items : List Json)
  | object (fields : List (Option String × Json))

namespace Json

/-- Whether a character separates tokens. -/
def isSpace (c : Char) : Bool :=
  c = ' ' || c = '\t' || c = '\n' || c = '\r'

/-- The text after the blanks it starts with. -/
def skipSpace (text : List Char) : List Char :=
  text.dropWhile isSpace

/-! ## Strings -/

/-- One item of a string: a character, or a 16-bit unit given by its number. -/
inductive StringItem where
  | plain (c : Char)
  | unit (code : Nat)
  deriving DecidableEq

/-- The character that a one-letter escape stands for. -/
def escaped? : Char → Option Char
  | '\x22' => some '\x22'
  | '\x5c' => some '\x5c'
  | '/' => some '/'
  | 'b' => some '\x08'
  | 'f' => some '\x0c'
  | 'n' => some '\n'
  | 'r' => some '\r'
  | 't' => some '\t'
  | _ => none

/-- The value of a hexadecimal digit. -/
def hexDigit? (c : Char) : Option Nat :=
  if '0' ≤ c && c ≤ '9' then some (c.toNat - '0'.toNat)
  else if 'a' ≤ c && c ≤ 'f' then some (c.toNat - 'a'.toNat + 10)
  else if 'A' ≤ c && c ≤ 'F' then some (c.toNat - 'A'.toNat + 10)
  else none

/-- The value of four hexadecimal digits. -/
def hexUnit? (a b c d : Char) : Option Nat := do
  let a ← hexDigit? a
  let b ← hexDigit? b
  let c ← hexDigit? c
  let d ← hexDigit? d
  return ((a * 16 + b) * 16 + c) * 16 + d

/-- The items of a string up to its closing quote, and the text after it. -/
def stringItems : List Char → Option (List StringItem × List Char)
  | [] => none
  | '\x22' :: rest => some ([], rest)
  | '\x5c' :: 'u' :: a :: b :: c :: d :: rest => do
      let code ← hexUnit? a b c d
      let (items, rest) ← stringItems rest
      return (.unit code :: items, rest)
  | '\x5c' :: letter :: rest => do
      let c ← escaped? letter
      let (items, rest) ← stringItems rest
      return (.plain c :: items, rest)
  | c :: rest =>
      if c = '\x5c' || c.toNat < 0x20 then none
      else do
        let (items, rest) ← stringItems rest
        return (.plain c :: items, rest)

/-- Whether a unit opens a pair that stands for one character. -/
def isHighUnit (code : Nat) : Bool := 0xD800 ≤ code && code < 0xDC00

/-- Whether a unit closes such a pair. -/
def isLowUnit (code : Nat) : Bool := 0xDC00 ≤ code && code < 0xE000

/-- The characters of a string; none when a unit lacks its partner. -/
def characters? : List StringItem → Option (List Char)
  | [] => some []
  | .plain c :: items => (characters? items).map (c :: ·)
  | .unit high :: .unit low :: items =>
      if isHighUnit high && isLowUnit low then
        (characters? items).map
          (Char.ofNat (0x10000 + (high - 0xD800) * 0x400 + (low - 0xDC00)) :: ·)
      else if isHighUnit high || isLowUnit high then none
      else (characters? (.unit low :: items)).map (Char.ofNat high :: ·)
  | .unit code :: items =>
      if isHighUnit code || isLowUnit code then none
      else (characters? items).map (Char.ofNat code :: ·)

/-- The text of a string after its opening quote, and what follows it. -/
def stringText (text : List Char) : Option (Option String × List Char) := do
  let (items, rest) ← stringItems text
  return ((characters? items).map String.ofList, rest)

/-! ## Numbers -/

/-- The value of a row of decimal digits. -/
def decimalValue (digits : List Char) : Nat :=
  digits.foldl (fun value c => value * 10 + (c.toNat - '0'.toNat)) 0

/-- The digits at the start of a text, of which there must be one, and the rest. -/
def someDigits (text : List Char) : Option (List Char × List Char) :=
  match text.takeWhile Char.isDigit with
  | [] => none
  | digits => some (digits, text.dropWhile Char.isDigit)

/-- The whole part of a number: a zero alone, or digits that start otherwise. -/
def wholePart : List Char → Option (List Char × List Char)
  | '0' :: rest => some (['0'], rest)
  | text => someDigits text

/-- Passes over the fraction of a number; tells whether there was one. -/
def fraction : List Char → Option (Bool × List Char)
  | '.' :: rest => (someDigits rest).map fun (_, rest) => (true, rest)
  | text => some (false, text)

/-- Passes over the sign of an exponent. -/
def skipSign : List Char → List Char
  | '+' :: rest => rest
  | '-' :: rest => rest
  | text => text

/-- Passes over the exponent of a number; tells whether there was one. -/
def exponent : List Char → Option (Bool × List Char)
  | c :: rest =>
      if c = 'e' || c = 'E' then
        (someDigits (skipSign rest)).map fun (_, rest) => (true, rest)
      else some (false, c :: rest)
  | [] => some (false, [])

/-- The first integer that does not fit 64 bits. -/
def integerLimit : Nat := 0x10000000000000000

/-- A number without its sign: the value of a plain integer of at most 64 bits. -/
def unsigned (text : List Char) : Option (Option Nat × List Char) := do
  let (digits, rest) ← wholePart text
  let (hasFraction, rest) ← fraction rest
  let (hasExponent, rest) ← exponent rest
  let value := decimalValue digits
  let plain := !hasFraction && !hasExponent && value < integerLimit
  return (if plain then some value else none, rest)

/-- A number; one with a sign has no plain value. -/
def numeral : List Char → Option (Option Nat × List Char)
  | '-' :: rest => (unsigned rest).map fun (_, rest) => (none, rest)
  | text => unsigned text

/-! ## Values -/

/-- The items of an array up to its closing bracket, given how to read one. -/
def items (read : List Char → Option (Json × List Char)) :
    Nat → List Char → Option (List Json × List Char)
  | 0, _ => none
  | length + 1, text => do
      let (item, rest) ← read text
      match skipSpace rest with
      | ',' :: rest =>
          let (later, rest) ← items read length rest
          return (item :: later, rest)
      | ']' :: rest => return ([item], rest)
      | _ => none

/-- One field of an object: a key, a colon and a value. -/
def field (read : List Char → Option (Json × List Char)) (text : List Char) :
    Option ((Option String × Json) × List Char) :=
  match skipSpace text with
  | '\x22' :: rest => do
      let (key, rest) ← stringText rest
      match skipSpace rest with
      | ':' :: rest =>
          let (item, rest) ← read rest
          return ((key, item), rest)
      | _ => none
  | _ => none

/-- The fields of an object up to its closing brace, given how to read a value. -/
def fields (read : List Char → Option (Json × List Char)) :
    Nat → List Char → Option (List (Option String × Json) × List Char)
  | 0, _ => none
  | length + 1, text => do
      let (entry, rest) ← field read text
      match skipSpace rest with
      | ',' :: rest =>
          let (later, rest) ← fields read length rest
          return (entry :: later, rest)
      | '\x7d' :: rest => return ([entry], rest)
      | _ => none

/-- A value after any blanks, and the text after it. -/
def value (length : Nat) : Nat → List Char → Option (Json × List Char)
  | 0, _ => none
  | depth + 1, text =>
      match skipSpace text with
      | 'n' :: 'u' :: 'l' :: 'l' :: rest => some (.null, rest)
      | 't' :: 'r' :: 'u' :: 'e' :: rest => some (.bool true, rest)
      | 'f' :: 'a' :: 'l' :: 's' :: 'e' :: rest => some (.bool false, rest)
      | '\x22' :: rest => (stringText rest).map fun (text, rest) => (.string text, rest)
      | '[' :: rest =>
          match skipSpace rest with
          | ']' :: rest => some (.array [], rest)
          | _ => (items (value length depth) length rest).map fun (items, rest) =>
              (.array items, rest)
      | '\x7b' :: rest =>
          match skipSpace rest with
          | '\x7d' :: rest => some (.object [], rest)
          | _ => (fields (value length depth) length rest).map fun (fields, rest) =>
              (.object fields, rest)
      | text => (numeral text).map fun (plain, rest) => (.number plain, rest)

/-- The value that a text holds; nothing but blanks may follow it. -/
def ofText? (text : String) : Option Json :=
  let chars := text.toList
  match value (chars.length + 1) (chars.length + 1) chars with
  | some (json, rest) => if (skipSpace rest).isEmpty then some json else none
  | none => none

end Json

end ChainCompletion.Settings
