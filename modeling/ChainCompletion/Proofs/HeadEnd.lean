/-
# Proofs.HeadEnd -- nothing behind the head of a document counts

The head of a document ends at the first line outside comments that is neither blank nor a
comment nor a declaration (`HeaderScan.EndsAt`).  There the scan stops, so it is the same for all
documents that agree up to that line (`HeaderScan.EndsAt.ofChars_append`).

The place of a new import is found in an index of the whole document.  It lies before the end
of the head, and the lines that start behind an offset have no part in its place
(`Text.LineStarts.locate_append_left`).  So the scope as a whole depends on the head alone
(`ImportScope.ofSource_ignores_body`).
-/
import ChainCompletion.Proofs.ImportInsertion

namespace ChainCompletion

open Text

set_option autoImplicit false

/-! ## The line that ends a head -/

/-- A line that is neither blank nor a comment nor a declaration does not belong to the head. -/
theorem HeaderLine.ofTrimmed_eq_other {text : List Char} (notBlank : text ≠ [])
    (notNote : ¬ "//".toList <+: text) (notComment : ¬ "/*".toList <+: text)
    (notPackage : ¬ "package ".toList <+: text) (notImport : ¬ "import ".toList <+: text) :
    ofTrimmed text = .other := by
  rcases ofTrimmed_cases text with ⟨-, isQuiet⟩ | ⟨-, opens, -⟩ | ⟨-, starts⟩ | isOther
  · rcases isQuiet with isBlank | isNote | isComment
    · exact absurd isBlank notBlank
    · exact absurd isNote notNote
    · exact absurd isComment notComment
  · exact absurd opens notComment
  · cases said : ofTrimmed text with
    | package name =>
        rw [said] at starts
        exact absurd starts notPackage
    | silent | opensComment | importType _ | importPackage _ | importStatic =>
        rw [said] at starts
        exact absurd starts notImport
    | other => rfl
  · exact isOther

namespace HeaderScan

/-- A line at which the head of a document ends, with what stands before it. -/
structure EndsAt (head line : List Char) : Prop where
  /-- The line starts at the top or behind a line break. -/
  opens : head = [] ∨ head.getLast? = some '\n'
  /-- It ends with its only line break. -/
  closes : ∃ body, '\n' ∉ body ∧ line = body ++ ['\n']
  /-- All lines before it have been read. -/
  reached : (workOff readLine start (lines head)).2 = none
  /-- No comment is open behind them. -/
  outside : (workOff readLine start (lines head)).1.inComment = false
  notBlank : trim line ≠ []
  notNote : ¬ "//".toList <+: trim line
  notComment : ¬ "/*".toList <+: trim line
  notPackage : ¬ "package ".toList <+: trim line
  notImport : ¬ "import ".toList <+: trim line

namespace EndsAt

variable {head line : List Char} (ends : EndsAt head line)

include ends

theorem ofTrimmed_eq : HeaderLine.ofTrimmed (trim line) = .other :=
  HeaderLine.ofTrimmed_eq_other ends.notBlank ends.notNote ends.notComment ends.notPackage
    ends.notImport

theorem lines_append (rest : List Char) :
    lines (head ++ line ++ rest) = lines head ++ line :: lines rest := by
  obtain ⟨body, unbroken, rfl⟩ := ends.closes
  rw [List.append_assoc, Text.lines_append ends.opens, List.append_assoc, List.singleton_append,
    lines_body unbroken]

/-- The scan stops at the line, whatever follows. -/
theorem ofChars_append (rest : List Char) :
    ofChars (head ++ line ++ rest) = (ofChars head).hear line .other := by
  have read : workOff readLine start (lines head) = (ofChars head, none) :=
    Prod.ext rfl ends.reached
  have outside : (ofChars head).inComment = false := ends.outside
  rw [ofChars, ends.lines_append, workOff_append, read]
  simp only
  rw [workOff_cons, outside, if_neg (by simp), if_pos ends.ofTrimmed_eq]

end EndsAt

/-- The place of a new import lies in the document. -/
theorem insertOffset_le (source : List Char) : (ofChars source).insertOffset ≤ byteLength source := by
  have whole : byteLength source = byteLength (declaredPart source).flatten +
      byteLength (otherPart source).flatten := by
    rw [← byteLength_append, ← List.flatten_append, declaredPart_append_otherPart, flatten_lines]
  rw [insertOffset_ofChars, whole]
  exact Nat.le_add_right _ _

end HeaderScan

namespace ImportScope

open HeaderScan

/-- **Nothing behind the head of a document counts.**  If the scan of a document stops at a line,
outside comments and because the line is neither blank nor a comment nor a declaration, then the
scope that the document gives -- its package, its imports, and where and how a new one is put --
is that of the document which ends with this line. -/
theorem ofSource_ignores_body (head line rest : String)
    (ends : EndsAt head.toList line.toList) :
    ofSource (head ++ line ++ rest) = ofSource (head ++ line) := by
  have sameScan : HeaderScan.ofChars (head ++ line ++ rest).toList =
      HeaderScan.ofChars (head ++ line).toList := by
    have stopped := ends.ofChars_append []
    rw [List.append_nil] at stopped
    rw [String.toList_append, String.toList_append, ends.ofChars_append, stopped]
  have samePlace : (LineStarts.ofChars (head ++ line ++ rest).toList).locate
        (HeaderScan.ofChars (head ++ line).toList).insertOffset =
      (LineStarts.ofChars (head ++ line).toList).locate
        (HeaderScan.ofChars (head ++ line).toList).insertOffset := by
    rw [show (head ++ line ++ rest).toList = (head ++ line).toList ++ rest.toList from
      String.toList_append]
    exact LineStarts.locate_append_left _ _ (insertOffset_le _)
  simp only [ofSource, sameScan, samePlace]

/-- The head of a document, with a comment over two lines. -/
def commentedHead : String := "/* import a.B;\n */\r\npackage org.acme;\n\n  import é.B; // b\n"

/-- An import in the body of a document has no part in its scope. -/
theorem ofSource_ignores_body_class :
    EndsAt commentedHead.toList "public class C \x7b\n".toList ∧
    ofSource (commentedHead ++ "public class C \x7b\n" ++ "import x.Y;\n\x7d") =
      ofSource (commentedHead ++ "public class C \x7b\n") ∧
    (ofSource (commentedHead ++ "public class C \x7b\n" ++ "import x.Y;\n\x7d")).types = ["é.B"] := by
  have ends : EndsAt commentedHead.toList "public class C \x7b\n".toList :=
    { opens := Or.inr (by decide)
      closes := ⟨"public class C \x7b".toList, by decide, by decide⟩
      reached := by decide
      outside := by decide
      notBlank := by decide
      notNote := by decide
      notComment := by decide
      notPackage := by decide
      notImport := by decide }
  have same := ofSource_ignores_body commentedHead "public class C \x7b\n" "import x.Y;\n\x7d" ends
  refine ⟨ends, same, ?_⟩
  rw [same]
  decide

end ImportScope

end ChainCompletion
