/-
# Proofs.ImportInsertion -- a new import is read back

The edit that imports a type puts one line into the document, behind its last declaration
or at the top, and a line break before it where that declaration has none.  The line says
that it imports the type (`ofTrimmed_importLine`), all other lines say what they said
(`said_withLine`), and behind the last declaration there is nothing that could be read
differently.  So a document that has been edited reads as before but for the new type, and
the type's simple name is visible in it (`newImport_scanned`).
-/
import ChainCompletion.Proofs.HeaderReading
import ChainCompletion.Proofs.Lines
import ChainCompletion.Proofs.Places

namespace ChainCompletion

open Text HeaderLine

set_option autoImplicit false

/-! ## The new line -/

/-- Whether a name can stand in an import of one type: it has no blanks and no semicolon,
and does not stand for a whole package. -/
structure ImportScope.IsTypeName (name : String) : Prop where
  unblank : ∀ c ∈ name.toList, isBlank c = false
  unended : ';' ∉ name.toList
  single : ¬ ".*".toList <:+ name.toList

section NewLine

variable {name : String}

/-- A text that starts with no blank keeps its start. -/
theorem Text.trimLeft_eq_self {text : List Char} (first : ∀ c ∈ text.head?, isBlank c = false) :
    trimLeft text = text := by
  cases text with
  | nil => rfl
  | cons c rest => exact List.dropWhile_cons_of_neg (by simp [first c rfl])

/-- A text with no blank at either end is not trimmed. -/
theorem Text.trim_eq_self {text : List Char} (first : ∀ c ∈ text.head?, isBlank c = false)
    (last : ∀ c ∈ text.getLast?, isBlank c = false) : trim text = text := by
  have backward : trimLeft text.reverse = text.reverse :=
    trimLeft_eq_self (by simpa using last)
  rw [trim, trimLeft_eq_self first, trimRight]
  show (trimLeft text.reverse).reverse = text
  rw [backward, List.reverse_reverse]

theorem trim_importLine (name : String) :
    trim (ImportScope.importLine name).toList = "import ".toList ++ (name.toList ++ [';']) := by
  have line : (ImportScope.importLine name).toList =
      ("import ".toList ++ (name.toList ++ [';'])) ++ ['\n'] := by
    simp [ImportScope.importLine]
  rw [line, trim_append_blank _ (by decide)]
  refine trim_eq_self ?_ ?_
  · intro c isFirst
    obtain rfl : 'i' = c := by simpa using isFirst
    decide
  · intro c isLast
    rw [← List.append_assoc, List.getLast?_concat] at isLast
    obtain rfl : ';' = c := by simpa using isLast
    decide

/-- What follows the keyword is the import of one type. -/
theorem ofImport_typeName (isName : ImportScope.IsTypeName name) :
    ofImport (name.toList ++ [';']) = .importType name := by
  have unblank : ∀ c ∈ name.toList ++ [';'], isBlank c = false := by
    intro c isThere
    rcases List.mem_append.1 isThere with inName | isEnd
    · exact isName.unblank c inName
    · rw [List.mem_singleton.1 isEnd]
      decide
  have notStatic : "static ".toList.isPrefixOf (name.toList ++ [';']) = false := by
    rw [Bool.eq_false_iff]
    intro starts
    have isThere : ' ' ∈ name.toList ++ [';'] :=
      (List.isPrefixOf_iff_prefix.1 starts).subset (by decide)
    exact absurd (unblank ' ' isThere) (by decide)
  have upTo : before ';' (name.toList ++ [';']) = name.toList := by
    rw [before, List.takeWhile_append_of_pos]
    · simp
    · intro c isThere
      have differs : c ≠ ';' := fun same => isName.unended (same ▸ isThere)
      simpa using differs
  have named : declaredName (name.toList ++ [';']) = name.toList := by
    rw [declaredName, upTo]
    exact trim_eq_self (fun c isFirst => isName.unblank c (List.mem_of_mem_head? isFirst))
      (fun c isLast => isName.unblank c (List.mem_of_getLast? isLast))
  have single : stripEnd? ".*".toList name.toList = none := by
    rw [stripEnd?, if_neg]
    exact fun ends => isName.single (List.isSuffixOf_iff_suffix.1 ends)
  have start : trimLeft (name.toList ++ [';']) = name.toList ++ [';'] :=
    trimLeft_eq_self fun c isFirst => unblank c (List.mem_of_mem_head? isFirst)
  simp only [ofImport, start, notStatic, Bool.false_eq_true, if_false, named, single,
    String.ofList_toList]

/-- The line says that it imports the type. -/
theorem ofTrimmed_importLine (isName : ImportScope.IsTypeName name) :
    ofTrimmed (trim (ImportScope.importLine name).toList) = .importType name := by
  have keyword : stripStart? "import ".toList ("import ".toList ++ (name.toList ++ [';'])) =
      some (name.toList ++ [';']) := stripStart?_eq_some_iff.2 rfl
  have notPackage : stripStart? "package ".toList ("import ".toList ++ (name.toList ++ [';'])) =
      none := by
    simp [stripStart?]
  rw [trim_importLine, ofTrimmed, notPackage, keyword, if_neg (by simp), if_neg (by simp)]
  exact ofImport_typeName isName

end NewLine

/-! ## The document with the new line -/

namespace HeaderScan

variable (source : List Char)

/-- What goes before the new line: a break if the last declaration has none. -/
def newBreak : List Char :=
  if (ofChars source).needsNewline then ['\n'] else []

/-- The document with a line behind its last declaration. -/
def withLine (line : List Char) : List Char :=
  (declaredPart source).flatten ++ (newBreak source ++ line) ++ (otherPart source).flatten

/-- The new line comes between the others, which stay as they are but for blanks around
them. -/
theorem map_trim_lines_withLine {body : List Char} (unbroken : '\n' ∉ body) :
    (lines (withLine source (body ++ ['\n']))).map trim =
      (declaredPart source).map trim ++ trim (body ++ ['\n']) :: (otherPart source).map trim := by
  have part : lines (declaredPart source).flatten = declaredPart source :=
    lines_flatten_take source _
  have rest : lines (body ++ '\n' :: (otherPart source).flatten) =
      (body ++ ['\n']) :: otherPart source := by
    rw [lines_body unbroken]
    exact congrArg _ (lines_flatten_drop source _)
  have needs := needsNewline_ofChars source
  cases last : (declaredPart source).getLast? with
  | none =>
      have nothing : declaredPart source = [] := List.getLast?_eq_none_iff.1 last
      rw [nothing] at needs
      simp [withLine, newBreak, needs, nothing, rest]
  | some line =>
      have given : line ≠ [] := by
        have isThere : line ∈ declaredPart source := List.mem_of_getLast? last
        exact ne_nil_of_mem_lines (List.mem_of_mem_take isThere)
      have ending := getLast?_flatten last given
      rw [last] at needs
      by_cases broken : line.getLast? = some '\n'
      · have direct : withLine source (body ++ ['\n']) =
            (declaredPart source).flatten ++ (body ++ '\n' :: (otherPart source).flatten) := by
          simp [withLine, newBreak, needs, broken]
        rw [direct, lines_append (Or.inr (ending.trans broken)), part, rest, List.map_append,
          List.map_cons]
      · -- only the last line of the document can lack its break
        have nothing : otherPart source = [] := drop_eq_nil_of_unbroken last broken
        have given' : (declaredPart source).flatten ≠ [] := by
          intro empty
          rw [empty, List.getLast?_nil] at ending
          exact given (List.getLast?_eq_none_iff.1 ending.symm)
        have behind : withLine source (body ++ ['\n']) =
            (declaredPart source).flatten ++ '\n' :: (body ++ ['\n']) := by
          simp [withLine, newBreak, needs, broken, nothing]
        rw [nothing] at rest ⊢
        rw [behind, lines_append_break, List.map_append,
          map_trim_lines_break given' (by rwa [ending]), part]
        exact congrArg (_ ++ ·) (congrArg (List.map trim) rest)

variable {source}

/-- All other lines say what they said. -/
theorem said_withLine {body : List Char} (unbroken : '\n' ∉ body) {name : String}
    (imports : ofTrimmed (trim (body ++ ['\n'])) = .importType name) :
    said (withLine source (body ++ ['\n'])) =
      (said source).take (declaredLines (said source)) ++
        .importType name :: (said source).drop (declaredLines (said source)) := by
  have split : ∀ more, readHead false ((declaredPart source).map trim ++ more) =
      (said source).take (declaredLines (said source)) ++ readHead false more := by
    intro more
    rw [declaredPart, List.map_take]
    exact readHead_append false ((lines source).map trim) more
  have later : readHead false ((otherPart source).map trim) =
      (said source).drop (declaredLines (said source)) := by
    have whole := split ((otherPart source).map trim)
    rw [← List.map_append, declaredPart_append_otherPart] at whole
    exact List.append_cancel_left (whole.symm.trans (List.take_append_drop _ _).symm)
  rw [said, map_trim_lines_withLine source unbroken, split, readHead, imports, if_neg (by simp)]
  simp [later]

/-- A line that declares nothing leaves nothing behind. -/
theorem filterMap_drop_declaredLines {what : HeaderLine → Option String}
    (declared : ∀ line, line.declares = false → what line = none) :
    ((said source).drop (declaredLines (said source))).filterMap what = [] := by
  rw [List.filterMap_eq_nil_iff]
  intro line isLater
  exact declared line (not_declares_of_mem_drop isLater)

theorem filterMap_said_withLine {body : List Char} (unbroken : '\n' ∉ body) {name : String}
    (imports : ofTrimmed (trim (body ++ ['\n'])) = .importType name)
    {what : HeaderLine → Option String}
    (declared : ∀ line, line.declares = false → what line = none) :
    (said (withLine source (body ++ ['\n']))).filterMap what =
      (said source).filterMap what ++ (what (.importType name)).toList := by
  have nothing := @filterMap_drop_declaredLines source what declared
  have whole : (said source).filterMap what =
      ((said source).take (declaredLines (said source))).filterMap what := by
    rw [← List.take_append_drop (declaredLines (said source)) (said source),
      List.filterMap_append, nothing, List.append_nil, List.take_append_drop]
  rw [said_withLine unbroken imports, List.filterMap_append, List.filterMap_cons, nothing, whole]
  cases what (.importType name) <;> rfl

end HeaderScan

/-! ## The edit -/

namespace ImportScope

open HeaderScan

section Document

variable (source : String)

theorem package_ofSource :
    (ofSource source).package = ((said source.toList).filterMap package?).getLast? :=
  package_ofChars source.toList

theorem types_ofSource : (ofSource source).types = distinct ((said source.toList).filterMap type?) :=
  types_ofChars source.toList

theorem onDemand_ofSource :
    (ofSource source).onDemand = distinct ((said source.toList).filterMap opened?) :=
  onDemand_ofChars source.toList

end Document

/-- The edit puts the line behind the last declaration. -/
theorem applyTo_newImport (source name : String) :
    ((ofSource source).newImport name).applyTo source =
      some (String.ofList (withLine source.toList (importLine name).toList)) := by
  have whole : source.toList = (declaredPart source.toList).flatten ++
      (otherPart source.toList).flatten := by
    rw [← List.flatten_append, declaredPart_append_otherPart, flatten_lines]
  have place : (ofSource source).insertAt = (LineStarts.ofChars source.toList).locate
      (byteLength (declaredPart source.toList).flatten) := by
    rw [← insertOffset_ofChars]
    rfl
  have text : ((if (ofSource source).needsNewline then "\n" else "") ++ importLine name).toList =
      newBreak source.toList ++ (importLine name).toList := by
    rw [String.toList_append, newBreak]
    show (if (ofChars source.toList).needsNewline = true then "\n" else "").toList ++ _ = _
    split <;> rfl
  rw [newImport, place, TextEdit.applyTo_insertion whole, text]
  rfl

/-- A type that is imported is visible. -/
theorem useOf_of_mem {scope : ImportScope} {name : String} (imported : name ∈ scope.types) :
    scope.useOf name = .visible := by
  rw [useOf]
  split
  · rfl
  · rw [if_pos imported]

/-- **A new import is read back.**  The edit that imports a type has a place in the document.
It puts in the line `import name;`, after a break where the last declaration has none,
behind the lines up to the last one that declares something, or at the top if none does.
The document then reads as before, with the type added to those imported one by one, at
their end if it is new; and the type is visible in it. -/
theorem newImport_scanned (source name : String) (isName : IsTypeName name) :
    ∃ (edited : String) (count : Nat),
      ((ofSource source).newImport name).applyTo source = some edited ∧
      (count = 0 ∨ ∃ line, (said source.toList)[count - 1]? = some line ∧ line.declares = true) ∧
      (∀ line ∈ (said source.toList).drop count, line.declares = false) ∧
      edited.toList = ((lines source.toList).take count).flatten ++
        ((if (ofSource source).needsNewline then ['\n'] else []) ++
          ("import " ++ name ++ ";\n").toList) ++ ((lines source.toList).drop count).flatten ∧
      (ofSource edited).package = (ofSource source).package ∧
      (ofSource edited).onDemand = (ofSource source).onDemand ∧
      (ofSource edited).types = addNew (ofSource source).types name ∧
      (ofSource edited).useOf name = .visible := by
  have imports := ofTrimmed_importLine isName
  obtain ⟨body, line, unbroken⟩ : ∃ body, (importLine name).toList = body ++ ['\n'] ∧
      '\n' ∉ body := by
    refine ⟨"import ".toList ++ name.toList ++ [';'], by simp [importLine], ?_⟩
    intro broken
    simp only [List.mem_append, List.mem_singleton] at broken
    rcases broken with (early | inName) | late
    · exact absurd early (by decide)
    · exact absurd (isName.unblank _ inName) (by decide)
    · exact absurd late (by decide)
  rw [line] at imports
  have edited := applyTo_newImport source name
  rw [line] at edited
  have reads := fun what => @filterMap_said_withLine source.toList body unbroken name imports what
  have types : (ofSource (String.ofList (withLine source.toList (body ++ ['\n'])))).types =
      addNew (ofSource source).types name := by
    rw [types_ofSource, types_ofSource, String.toList_ofList,
      reads type? (by intro line; cases line <;> simp [declares, type?])]
    exact List.foldl_append
  refine ⟨_, declaredLines (said source.toList), edited, ?_,
    fun _ isLater => not_declares_of_mem_drop isLater, ?_, ?_, ?_, types,
    useOf_of_mem (by rw [types]; simp)⟩
  · cases counted : declaredLines (said source.toList) with
    | zero => exact Or.inl rfl
    | succ count => exact Or.inr (exists_declaration counted)
  · have needs : (ofSource source).needsNewline = (ofChars source.toList).needsNewline := rfl
    rw [String.toList_ofList, ← line, needs]
    rfl
  · rw [package_ofSource, package_ofSource, String.toList_ofList,
      reads package? (by intro line; cases line <;> simp [declares, package?])]
    simp [package?]
  · rw [onDemand_ofSource, onDemand_ofSource, String.toList_ofList,
      reads opened? (by intro line; cases line <;> simp [declares, opened?])]
    simp [opened?]

/-- A document with a note at the top, whose last declaration has no break. -/
def notedSource : String :=
  "/* import a.B;\n */\r\npackage org.acme;\r\n\nimport java.util.*; // all\nimport é.B;"

/-- The new import goes to a line of its own at the end. -/
theorem newImport_scanned_noted :
    IsTypeName "java.util.List" ∧ (ofSource notedSource).needsNewline = true ∧
    ∃ edited,
      ((ofSource notedSource).newImport "java.util.List").applyTo notedSource = some edited ∧
      (ofSource edited).package = some "org.acme" ∧
      (ofSource edited).onDemand = ["java.util"] ∧
      (ofSource edited).types = ["é.B", "java.util.List"] := by
  have unblank : ("java.util.List".toList.all fun c => !isBlank c) = true := by decide
  have isName : IsTypeName "java.util.List" := ⟨by simpa using unblank, by decide, by decide⟩
  obtain ⟨edited, -, applied, -, -, -, package, onDemand, types, -⟩ :=
    newImport_scanned notedSource "java.util.List" isName
  refine ⟨isName, by decide, edited, applied, package.trans ?_, onDemand.trans ?_, types.trans ?_⟩
  · decide
  · decide
  · decide

end ImportScope

end ChainCompletion
