/-
# Text.Position -- places in a text and in a set of files

A place in a text is either an offset in UTF-8 bytes or a line and a column, both
counted from zero, the column in bytes.  A `LineStarts` of a text keeps where its
lines start and turns the first into the second (`LineStarts.locate`).  A line
starts at offset zero and just after every line break, so a text that ends in a
line break has an empty last line.  Offsets past the end stand for the end.

A cursor is an offset in a file, and files are told apart by number only.
-/
import ChainCompletion.Text.Pieces

namespace ChainCompletion.Text

set_option autoImplicit false

/-- A place in a text: line and byte column, counted from zero. -/
structure Place where
  line : Nat
  col : Nat
  deriving DecidableEq

namespace Place

/-- The start of a text. -/
def start : Place := ⟨0, 0⟩

/-- Places are ordered by line, and within a line by column. -/
instance : Ord Place where
  compare a b := (compare a.line b.line).then (compare a.col b.col)

/-- The written form `line:col`. -/
def text (place : Place) : String :=
  Nat.repr place.line ++ ":" ++ Nat.repr place.col

end Place

/-- Where the lines of a text start, and how long the text is, in bytes. -/
structure LineStarts where
  starts : List Nat
  length : Nat
  deriving DecidableEq

namespace LineStarts

/-- The offsets just after the line breaks of a text that begins at `offset`. -/
def startsAfter (offset : Nat) : List Char → List Nat
  | [] => []
  | c :: rest =>
      let next := offset + c.utf8Size
      if c = '\n' then next :: startsAfter next rest else startsAfter next rest

/-- The index of a text given as its characters. -/
def ofChars (text : List Char) : LineStarts :=
  ⟨0 :: startsAfter 0 text, byteLength text⟩

/-- The index of a text. -/
def ofText (text : String) : LineStarts :=
  ofChars text.toList

/-- The number of lines. -/
def lineCount (index : LineStarts) : Nat :=
  index.starts.length

/-- The line and column of an offset: its line is the last one that starts at or
before it. -/
def locate (index : LineStarts) (offset : Nat) : Place :=
  let place := min offset index.length
  let line := (index.starts.takeWhile (· ≤ place)).length - 1
  ⟨line, place - index.starts.getD line 0⟩

end LineStarts

/-- A file, known by its number. -/
structure FileId where
  number : Nat
  deriving DecidableEq

namespace FileId

/-- Files are ordered by number. -/
instance : Ord FileId where
  compare a b := compare a.number b.number

/-- The written form `FileId(n)`. -/
def text (file : FileId) : String :=
  "FileId(" ++ Nat.repr file.number ++ ")"

end FileId

/-- A cursor: a byte offset in a file. -/
structure Cursor where
  file : FileId
  offset : Nat
  deriving DecidableEq

/-- The written form `file@offset`. -/
def Cursor.text (cursor : Cursor) : String :=
  Nat.repr cursor.file.number ++ "@" ++ Nat.repr cursor.offset

end ChainCompletion.Text
