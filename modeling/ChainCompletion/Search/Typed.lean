/-
# Search.Typed -- the text typed before the cursor

The typed text selects chains by the name of their root or of their last member.
Names are compared in small letters and without underscores, so that `emptyL`
finds `EMPTY_LIST`.  Entries of arrays have no name to compare.
-/
import ChainCompletion.Member
import ChainCompletion.Text.LetterCase

namespace ChainCompletion.Search

open Text

set_option autoImplicit false

/-- A text in small letters, without underscores. -/
def foldName (text : String) : List Char :=
  (text.toList.filter (· ≠ '_')).flatMap lowerCase

/-- Whether a chain from `root` whose last member is `last` starts with the typed
text, which has been folded. -/
def matchesTyped (typed : List Char) (root : Binding) (last : Member) : Bool :=
  typed.isEmpty || typed.isPrefixOf (foldName root.name) ||
    (last.kind ≠ .arrayElement && typed.isPrefixOf (foldName last.name))

end ChainCompletion.Search
