/-
# Text.Blank -- blank characters and trimming

A character is blank when it has the Unicode property White_Space; the 25 such
characters stand in `blankRuns`.  Trimming works on lists of characters and
removes blanks from one end or from both.
-/
import ChainCompletion.Text.CodeRun

namespace ChainCompletion.Text

set_option autoImplicit false

/-- The code points with the property White_Space. -/
def blankRuns : List CodeRun :=
  [⟨0x9, 0xD, 1⟩, ⟨0x20, 0x20, 1⟩, ⟨0x85, 0x85, 1⟩, ⟨0xA0, 0xA0, 1⟩, ⟨0x1680, 0x1680, 1⟩,
   ⟨0x2000, 0x200A, 1⟩, ⟨0x2028, 0x2029, 1⟩, ⟨0x202F, 0x202F, 1⟩, ⟨0x205F, 0x205F, 1⟩,
   ⟨0x3000, 0x3000, 1⟩]

/-- Whether a character is blank. -/
def isBlank (c : Char) : Bool :=
  CodeRun.covers blankRuns c.toNat

/-- The text without the blanks it starts with. -/
def trimLeft (text : List Char) : List Char :=
  text.dropWhile isBlank

/-- The text without the blanks it ends with. -/
def trimRight (text : List Char) : List Char :=
  (text.reverse.dropWhile isBlank).reverse

/-- The text without the blanks at either end. -/
def trim (text : List Char) : List Char :=
  trimRight (trimLeft text)

end ChainCompletion.Text
