/-
# Rendering.Snippet -- text with places to fill in

What is inserted for a chain is a list of fragments: literal text, and placeholders
for what the user still has to write.  A client that understands placeholders gets
them numbered from one in order, each with a suggested name; in literal text and
names a backslash goes before the characters that mean something there.  Other
clients get the literal text alone.
-/

namespace ChainCompletion

set_option autoImplicit false

/-- A piece of what is inserted. -/
inductive Fragment where
  | literal (text : List Char)
  | placeholder (name : List Char)
  deriving DecidableEq

namespace Fragment

/-- Whether a character means something in a snippet. -/
def isSpecial (c : Char) : Bool :=
  c = '$' || c = '\x7d' || c = '\x5c'

/-- A text with a backslash before each special character. -/
def escape (text : List Char) : List Char :=
  text.flatMap fun c => if isSpecial c then ['\x5c', c] else [c]

/-- A numbered placeholder. -/
def tabStop (number : Nat) (name : List Char) : List Char :=
  '$' :: '\x7b' :: Nat.toDigits 10 number ++ ':' :: escape name ++ ['\x7d']

/-- Fragments as a snippet, with `used` placeholders before them. -/
def snippetFrom : Nat → List Fragment → List Char
  | _, [] => []
  | used, .literal text :: later => escape text ++ snippetFrom used later
  | used, .placeholder name :: later =>
      tabStop (used + 1) name ++ snippetFrom (used + 1) later

/-- Fragments as a snippet. -/
def snippet (fragments : List Fragment) : List Char :=
  snippetFrom 0 fragments

/-- Fragments as plain text. -/
def plain : List Fragment → List Char
  | [] => []
  | .literal text :: later => text ++ plain later
  | .placeholder _ :: later => plain later

@[simp] theorem plain_append (first second : List Fragment) :
    plain (first ++ second) = plain first ++ plain second := by
  induction first with
  | nil => rfl
  | cons fragment later ih => cases fragment <;> simp [plain, ih]

end Fragment

end ChainCompletion
