/-
# Proofs.CommentedDeclarations -- which declarations of a head lie in comments

The scan of a head knows of comments only what it can tell line by line.  A line that starts with
a slash and a star opens a comment, unless a star and a slash stand in it; a line in a comment ends
it if a star and a slash stand in it.  What else a line holds is not looked at.

So the scan never takes itself to be in a comment without being in one
(`HeaderScan.Follows.readLines`), but it misses comments.  Precisely, it misses a comment that has
something before it on its line -- a declaration, or the end of another comment -- and one whose
opening star is at once followed by a slash, which looks like its end (`MissesOpening`).  All
others it sees (`HeaderScan.inside_of_opening`).  A declaration that has been recorded therefore lies
in a comment exactly if a comment is open before it that has been missed
(`ImportScope.recorded_in_comment_iff`), and this happens (`ImportScope.commented_import_recorded`).
-/
import ChainCompletion.Proofs.Comments
import ChainCompletion.Proofs.ImportInsertion

namespace ChainCompletion

open Text CommentState

set_option autoImplicit false

/-! ## What a line says -/

namespace HeaderLine

theorem package?_eq_some_iff (said : HeaderLine) (name : String) :
    said.package? = some name ↔ said = .package name := by
  cases said <;> simp [package?]

theorem type?_eq_some_iff (said : HeaderLine) (name : String) :
    said.type? = some name ↔ said = .importType name := by
  cases said <;> simp [type?]

theorem opened?_eq_some_iff (said : HeaderLine) (name : String) :
    said.opened? = some name ↔ said = .importPackage name := by
  cases said <;> simp [opened?]

/-- A declaration starts with its keyword. -/
theorem keyword_prefix {text : List Char} (declares : (ofTrimmed text).declares = true) :
    (ofTrimmed text).keyword <+: text := by
  rcases ofTrimmed_cases text with ⟨said, -⟩ | ⟨said, -⟩ | ⟨-, starts⟩ | said
  · rw [said] at declares
    cases declares
  · rw [said] at declares
    cases declares
  · exact starts
  · rw [said] at declares
    cases declares

/-- A line opens a comment exactly if it starts with one and nothing in it looks like an end. -/
theorem ofTrimmed_eq_opensComment_iff {text : List Char} :
    ofTrimmed text = .opensComment ↔ "/*".toList <+: text ∧ ¬ commentEnd <:+: text := by
  rw [← occursIn_iff, Bool.not_eq_true]
  constructor
  · intro opens
    rcases ofTrimmed_cases text with ⟨said, -⟩ | ⟨-, opened⟩ | ⟨declares, -⟩ | said
    · rw [said] at opens
      cases opens
    · exact opened
    · rw [opens] at declares
      cases declares
    · rw [said] at opens
      cases opens
  · rintro ⟨⟨rest, rfl⟩, unended⟩
    rw [ofTrimmed, if_neg (by simp), if_pos (by simp), unended]
    rfl

end HeaderLine

open HeaderLine

namespace HeaderScan

/-! ## What the scan knows of comments -/

/-- Whether a scan knows no more of comments than is true: at the start of a line it takes itself
to be in a comment only if it is in one. -/
structure Follows (scan : HeaderScan) (state : CommentState) : Prop where
  start : state.atStart = true
  truly : scan.inComment = true → state.inBlock = true

theorem follows_start : Follows start code :=
  ⟨rfl, fun inside => by cases inside⟩

/-- A line on which a comment opens, as the scan sees it, leaves one open. -/
theorem inBlock_of_opensComment {line : List Char}
    (opens : ofTrimmed (trim line) = .opensComment) : (line.foldl next code).inBlock = true := by
  obtain ⟨⟨rest, starts⟩, unended⟩ := ofTrimmed_eq_opensComment_iff.1 opens
  obtain ⟨blanks, whole, -⟩ := exists_eq_trim line
  rw [← starts, List.append_assoc] at whole
  rw [commentEnd_infix_trim_iff, whole] at unended
  rw [whole]
  refine inBlock_foldl_opening (List.all_eq_true.1 List.all_takeWhile) ?_
  intro early
  apply unended
  rw [← List.append_assoc]
  exact early.trans (List.suffix_append _ _).isInfix

namespace Follows

/-- One line read. -/
theorem readLine {scan : HeaderScan} {state : CommentState} (follows : Follows scan state)
    {line : List Char} (ended : line.getLast? = some '\n') :
    Follows (scan.readLine line).1 (line.foldl next state) := by
  have still : ¬ commentEnd <:+: line → state.inBlock = true →
      (line.foldl next state).inBlock = true := by
    intro unended isOpen
    rw [eq_block_of_atStart follows.start isOpen]
    exact inBlock_foldl unended
  refine ⟨atStart_foldl ended state, ?_⟩
  intro inside
  cases place : scan.inComment with
  | true =>
      rw [readLine_inside place] at inside
      have unended : occursIn commentEnd (trim line) = false := by
        simpa [skip] using inside
      refine still ?_ (follows.truly place)
      rw [← commentEnd_infix_trim_iff, ← occursIn_iff, unended]
      simp
  | false =>
      rw [readLine_outside place] at inside
      have opens : ofTrimmed (trim line) = .opensComment := by
        simpa [hear] using inside
      -- the line stands in a comment that has been missed before, or opens one
      by_cases isOpen : state.inBlock = true
      · apply still _ isOpen
        rw [← commentEnd_infix_trim_iff]
        exact (ofTrimmed_eq_opensComment_iff.1 opens).2
      · rw [eq_code_of_atStart follows.start (Bool.not_eq_true _ ▸ isOpen)]
        exact inBlock_of_opensComment opens

/-- All lines read, up to some place. -/
theorem readLines {scan : HeaderScan} {state : CommentState} (follows : Follows scan state)
    {read : List (List Char)} (ended : ∀ line ∈ read, line.getLast? = some '\n')
    (reached : (workOff HeaderScan.readLine scan read).2 = none) :
    Follows (workOff HeaderScan.readLine scan read).1 (read.flatten.foldl next state) := by
  induction read generalizing scan state with
  | nil => exact follows
  | cons line later ih =>
      have after := follows.readLine (ended line (by simp))
      rw [workOff] at reached ⊢
      rw [List.flatten_cons, List.foldl_append]
      split
      · next stopped => simp [stopped] at reached
      · next going =>
          rw [going] at after
          simp only [going] at reached
          exact ih after (fun other isLater => ended other (by simp [isLater])) reached

end Follows

/-- In a comment nothing but its end is looked for. -/
theorem inComment_workOff {scan : HeaderScan} (inside : scan.inComment = true)
    {read : List (List Char)} (unended : ¬ commentEnd <:+: read.flatten) :
    (workOff readLine scan read).1.inComment = true := by
  have kept : ∀ line ∈ read, ∀ scan : HeaderScan, scan.inComment = true →
      (scan.readLine line).1.inComment = true := by
    intro line isRead scan inside
    have quiet : ¬ commentEnd <:+: line := by
      intro ends
      obtain ⟨before, after, rfl⟩ := List.append_of_mem isRead
      apply unended
      rw [List.flatten_append, List.flatten_cons]
      exact (ends.trans (List.prefix_append _ _).isInfix).trans (List.suffix_append _ _).isInfix
    rw [readLine_inside inside]
    show (!occursIn commentEnd (trim line)) = true
    rw [Bool.not_eq_true', ← Bool.not_eq_true, occursIn_iff, commentEnd_infix_trim_iff]
    exact quiet
  exact workOff_keeps kept inside

/-- A comment that starts a line and does not look ended is seen. -/
theorem ofTrimmed_opening {lead rest : List Char} (blank : ∀ c ∈ lead, isBlank c = true)
    (first : rest.head? ≠ some '/') (unended : ¬ commentEnd <:+: rest) :
    ofTrimmed (trim (lead ++ ("/*".toList ++ rest))) = .opensComment := by
  have opening : "/*".toList ++ rest = '/' :: '*' :: rest := rfl
  rw [ofTrimmed_eq_opensComment_iff, commentEnd_infix_trim_iff,
    commentEnd_infix_blank_append blank, opening]
  constructor
  · have start : trimLeft (lead ++ '/' :: '*' :: rest) = '/' :: '*' :: rest := by
      rw [trimLeft, List.dropWhile_append_of_pos blank]
      exact trimLeft_eq_self (by simp; decide)
    rw [trim, start, trimRight_cons (by decide), trimRight_cons (by decide)]
    exact ⟨trimRight rest, rfl⟩
  · rw [commentEnd_infix_cons, commentEnd_infix_cons]
    rintro (⟨wrong, -⟩ | ⟨-, second⟩ | later)
    · cases wrong
    · exact first second
    · exact unended later

end HeaderScan

/-- Whether the comment that is open at the end of a text is one that the scan of a head misses:
something stands before it on its line, or a slash follows its opening star. -/
def MissesOpening (text : List Char) : Prop :=
  ∃ outer inner, text = outer ++ ("/*".toList ++ inner) ∧ commentState outer = code ∧
    ¬ commentEnd <:+: inner ∧
    ((∃ before c gap, outer = before ++ c :: gap ∧ isBlank c = false ∧ '\n' ∉ gap) ∨
      inner.head? = some '/')

namespace HeaderScan

/-- Where a declaration has been recorded: a line that the scan reaches, takes to be outside
comments, and finds to declare something. -/
structure Recorded (source above line : List Char) (said : HeaderLine) : Prop where
  /-- The line follows what stands above it. -/
  placed : ∃ below, lines source = lines above ++ line :: below
  reached : (workOff readLine start (lines above)).2 = none
  outside : (workOff readLine start (lines above)).1.inComment = false
  heard : ofTrimmed (trim line) = said
  declares : said.declares = true

/-! ## Lines that declare something -/

theorem readHead_of_reached (scan : HeaderScan) {read : List (List Char)}
    (reached : (workOff readLine scan read).2 = none) (later : List (List Char)) :
    readHead scan.inComment ((read ++ later).map trim) =
      readHead scan.inComment (read.map trim) ++
        readHead (workOff readLine scan read).1.inComment (later.map trim) := by
  induction read generalizing scan with
  | nil => cases place : scan.inComment <;> simp [place, readHead]
  | cons line read ih =>
      rw [workOff] at reached ⊢
      rw [List.cons_append, List.map_cons, List.map_cons]
      cases place : scan.inComment with
      | true =>
          rw [readLine_inside place] at reached ⊢
          exact congrArg _ (ih _ reached)
      | false =>
          rw [readLine_outside place] at reached ⊢
          by_cases ends : ofTrimmed (trim line) = .other
          · simp [ends] at reached
          · rw [if_neg ends] at reached ⊢
            rw [readHead, readHead, if_neg ends, if_neg ends]
            exact congrArg _ (ih _ reached)

/-- A declaration in a head stands on a line that the scan reaches outside comments. -/
theorem exists_line_of_mem_readHead (scan : HeaderScan) {texts : List (List Char)}
    {said : HeaderLine} (declares : said.declares = true)
    (isSaid : said ∈ readHead scan.inComment (texts.map trim)) :
    ∃ read line later, texts = read ++ line :: later ∧
      (workOff readLine scan read).2 = none ∧
      (workOff readLine scan read).1.inComment = false ∧ ofTrimmed (trim line) = said := by
  induction texts generalizing scan with
  | nil => cases place : scan.inComment <;> simp [place, readHead] at isSaid
  | cons text texts ih =>
      rw [List.map_cons] at isSaid
      cases place : scan.inComment with
      | true =>
          rw [place, readHead, List.mem_cons] at isSaid
          rcases isSaid with rfl | isLater
          · cases declares
          · obtain ⟨read, line, later, rfl, reached, outside, heard⟩ :=
              ih (scan.skip text) isLater
            refine ⟨text :: read, line, later, rfl, ?_, ?_, heard⟩
            · rw [workOff, readLine_inside place]
              exact reached
            · rw [workOff, readLine_inside place]
              exact outside
      | false =>
          rw [place, readHead] at isSaid
          split at isSaid
          · cases isSaid
          · next goesOn =>
              rcases List.mem_cons.1 isSaid with rfl | isLater
              · exact ⟨[], text, texts, rfl, rfl, place, rfl⟩
              · obtain ⟨read, line, later, rfl, reached, outside, heard⟩ :=
                  ih (scan.hear text (ofTrimmed (trim text))) isLater
                refine ⟨text :: read, line, later, rfl, ?_, ?_, heard⟩
                · rw [workOff, readLine_outside place, if_neg goesOn]
                  exact reached
                · rw [workOff, readLine_outside place, if_neg goesOn]
                  exact outside

/-- What a head declares is what has been recorded somewhere. -/
theorem mem_said_iff {source : List Char} {declaration : HeaderLine}
    (declares : declaration.declares = true) :
    declaration ∈ said source ↔ ∃ above line, Recorded source above line declaration := by
  constructor
  · intro isSaid
    obtain ⟨read, line, below, split, reached, outside, heard⟩ :=
      exists_line_of_mem_readHead start declares isSaid
    have above : lines read.flatten = read := by
      have upTo : (lines source).take read.length = read := by
        rw [split, List.take_left]
      rw [← upTo]
      exact lines_flatten_take source _
    refine ⟨read.flatten, line, ⟨below, ?_⟩, ?_, ?_, heard, declares⟩
    · rw [above, split]
    · rw [above]
      exact reached
    · rw [above]
      exact outside
  · rintro ⟨above, line, recorded⟩
    obtain ⟨below, split⟩ := recorded.placed
    have goesOn : ofTrimmed (trim line) ≠ .other := by
      rw [recorded.heard]
      rintro rfl
      cases declares
    rw [said, split]
    refine readHead_of_reached start recorded.reached _ ▸ ?_
    rw [recorded.outside, List.map_cons, readHead, if_neg goesOn, recorded.heard]
    simp

/-- What a scan gathers of one kind of declaration has been recorded somewhere. -/
theorem mem_filterMap_said_iff {source : List Char} {what : HeaderLine → Option String}
    {declaration : String → HeaderLine}
    (names : ∀ said name, what said = some name ↔ said = declaration name)
    (declares : ∀ name, (declaration name).declares = true) {name : String} :
    name ∈ (said source).filterMap what ↔
      ∃ above line, Recorded source above line (declaration name) := by
  rw [List.mem_filterMap, ← mem_said_iff (declares name)]
  constructor
  · rintro ⟨line, isSaid, isName⟩
    rw [← (names line name).1 isName]
    exact isSaid
  · intro isSaid
    exact ⟨_, isSaid, (names _ name).2 rfl⟩

/-! ## Comments that are seen and comments that are missed -/

/-- Outside comments the scan takes itself to be outside. -/
theorem outside_of_code {above : List Char} (ended : above = [] ∨ above.getLast? = some '\n')
    (isCode : commentState above = code)
    (reached : (workOff readLine start (lines above)).2 = none) :
    (workOff readLine start (lines above)).1.inComment = false := by
  have follows := follows_start.readLines (fun _ => ended_of_mem_lines ended) reached
  rw [flatten_lines] at follows
  by_contra inside
  have isOpen := follows.truly (Bool.not_eq_false _ ▸ inside)
  rw [show above.foldl next code = code from isCode] at isOpen
  cases isOpen

/-- Behind a comment that starts a line, does not look ended there and has not ended since, the
scan takes itself to be in a comment. -/
theorem inside_of_opening {above lead inner : List Char}
    (ended : above = [] ∨ above.getLast? = some '\n') (isCode : commentState above = code)
    (blank : ∀ c ∈ lead, isBlank c = true) (unbroken : '\n' ∉ lead) (broken : '\n' ∈ inner)
    (first : inner.head? ≠ some '/') (unended : ¬ commentEnd <:+: inner)
    (reached :
      (workOff readLine start (lines (above ++ (lead ++ ("/*".toList ++ inner))))).2 = none) :
    (workOff readLine start (lines (above ++ (lead ++ ("/*".toList ++ inner))))).1.inComment =
      true := by
  obtain ⟨body, rest, rfl, unbroken'⟩ := List.eq_append_cons_of_mem broken
  have split : lines (above ++ (lead ++ ("/*".toList ++ (body ++ '\n' :: rest)))) =
      lines above ++ (lead ++ ("/*".toList ++ (body ++ ['\n']))) :: lines rest := by
    have whole : lead ++ ("/*".toList ++ (body ++ '\n' :: rest)) =
        (lead ++ ("/*".toList ++ body)) ++ '\n' :: rest := by simp
    have oneLine : '\n' ∉ lead ++ ("/*".toList ++ body) := by simp [unbroken, unbroken']
    rw [Text.lines_append ended, whole, lines_body oneLine]
    simp
  have opens : ofTrimmed (trim (lead ++ ("/*".toList ++ (body ++ ['\n'])))) = .opensComment := by
    refine ofTrimmed_opening blank ?_ ?_
    · cases body with
      | nil => decide
      | cons c body => exact first
    · intro early
      apply unended
      rw [← List.singleton_append, ← List.append_assoc]
      exact early.trans (List.prefix_append _ _).isInfix
  have unended' : ¬ commentEnd <:+: (lines rest).flatten := by
    intro late
    rw [flatten_lines] at late
    apply unended
    rw [← List.singleton_append, ← List.append_assoc]
    exact late.trans (List.suffix_append _ _).isInfix
  rw [split, workOff_append] at reached ⊢
  cases read : workOff readLine start (lines above) with
  | mk scan stop =>
      cases stop with
      | some stopped => simp [read] at reached
      | none =>
          have outside := outside_of_code ended isCode (by rw [read])
          rw [read] at outside
          simp only
          rw [workOff, readLine_outside outside, opens]
          exact inComment_workOff (by simp [hear]) unended'

namespace Recorded

variable {source above line : List Char} {said : HeaderLine}
  (recorded : Recorded source above line said)

include recorded

theorem ended : above = [] ∨ above.getLast? = some '\n' := by
  obtain ⟨below, split⟩ := recorded.placed
  exact ended_of_lines split

/-- The keyword of a declaration stands behind the blanks that indent its line. -/
theorem keyword_at :
    ∃ after, source = (above ++ line.takeWhile isBlank) ++ (said.keyword ++ after) := by
  obtain ⟨below, split⟩ := recorded.placed
  obtain ⟨blanks, whole, -⟩ := exists_eq_trim line
  obtain ⟨rest, starts⟩ : said.keyword <+: trim line := by
    rw [← recorded.heard]
    apply keyword_prefix
    rw [recorded.heard]
    exact recorded.declares
  refine ⟨rest ++ blanks ++ below.flatten, ?_⟩
  have joined := congrArg List.flatten split
  rw [flatten_lines, List.flatten_append, flatten_lines, List.flatten_cons] at joined
  rw [joined]
  conv_lhs => rw [whole, ← starts]
  simp only [List.append_assoc]

/-- The keyword lies in a comment exactly if one is open before its line. -/
theorem inComment_iff :
    InComment (above ++ line.takeWhile isBlank) ↔ (commentState above).inBlock = true := by
  have start := atStart_commentState recorded.ended
  rw [InComment, commentState_append,
    foldl_next_blank start (List.all_eq_true.1 List.all_takeWhile)]
  cases state : commentState above with
  | code | block | star => rfl
  | slash | line => simp [state, atStart] at start

/-- A comment that is open where something has been recorded is one that has been missed. -/
theorem missesOpening_iff : (commentState above).inBlock = true ↔ MissesOpening above := by
  rw [inBlock_iff]
  constructor
  · rintro ⟨outer, inner, rfl, isCode, unended⟩
    refine ⟨outer, inner, rfl, isCode, unended, ?_⟩
    -- a comment that starts its line has been seen, and the scan would still be in it
    by_contra seen
    rw [not_or] at seen
    obtain ⟨clear, first⟩ := seen
    obtain ⟨top, lead, rfl, topEnded, unbroken⟩ := exists_last_line outer
    have blank : ∀ c ∈ lead, isBlank c = true := by
      intro c isThere
      by_contra notBlank
      obtain ⟨before, gap, rfl⟩ := List.append_of_mem isThere
      apply clear
      refine ⟨top ++ before, c, gap, by simp, by simpa using notBlank, ?_⟩
      intro isBreak
      exact unbroken (by simp [isBreak])
    have isCode' : commentState top = code := by
      rw [commentState_append, foldl_next_blank (atStart_commentState topEnded) blank] at isCode
      exact isCode
    have broken : '\n' ∈ inner := by
      rcases recorded.ended with nothing | last
      · simp at nothing
      · cases inner with
        | nil => simp at last
        | cons c inner =>
            rw [← List.append_assoc, List.getLast?_append, List.getLast?_cons,
              Option.some_or, ← List.getLast?_cons] at last
            exact List.mem_of_getLast? last
    have inside := inside_of_opening topEnded isCode' blank unbroken broken first unended
      (by
        rw [← List.append_assoc]
        exact recorded.reached)
    have outside := recorded.outside
    rw [List.append_assoc, inside] at outside
    cases outside
  · rintro ⟨outer, inner, whole, isCode, unended, -⟩
    exact ⟨outer, inner, whole, isCode, unended⟩

end Recorded

end HeaderScan

namespace ImportScope

open HeaderScan

/-- **Which declarations of a document lie in comments.**  Every name in the scope of a document
comes from a line where it has been recorded, behind the keyword with which the line starts.  The
keyword lies in a comment exactly if the comment that is open before the line is one that the scan
misses: one with something before it on its line, or one whose opening star a slash follows. -/
theorem recorded_in_comment_iff (source : String) :
    (∀ name, (ofSource source).package = some name →
      ∃ above line, Recorded source.toList above line (.package name)) ∧
    (∀ name, name ∈ (ofSource source).types ↔
      ∃ above line, Recorded source.toList above line (.importType name)) ∧
    (∀ name, name ∈ (ofSource source).onDemand ↔
      ∃ above line, Recorded source.toList above line (.importPackage name)) ∧
    ∀ above line said, Recorded source.toList above line said →
      (∃ after, source.toList = (above ++ line.takeWhile isBlank) ++ (said.keyword ++ after)) ∧
      (InComment (above ++ line.takeWhile isBlank) ↔ MissesOpening above) := by
  refine ⟨?_, ?_, ?_, ?_⟩
  · intro name found
    have isLast := (package_ofChars source.toList).symm.trans found
    apply (mem_filterMap_said_iff package?_eq_some_iff fun _ => rfl).1
    exact List.mem_of_getLast? isLast
  · intro name
    show name ∈ (HeaderScan.ofChars source.toList).types ↔ _
    rw [types_ofChars, mem_distinct]
    exact mem_filterMap_said_iff type?_eq_some_iff fun _ => rfl
  · intro name
    show name ∈ (HeaderScan.ofChars source.toList).onDemand ↔ _
    rw [onDemand_ofChars, mem_distinct]
    exact mem_filterMap_said_iff opened?_eq_some_iff fun _ => rfl
  · intro above line said recorded
    exact ⟨recorded.keyword_at, recorded.inComment_iff.trans recorded.missesOpening_iff⟩

/-- A document with an import in a comment that another comment stands before. -/
def commentedImport : String := "/* a */ /* b\nimport c.D;\n*/\nclass E \x7b\x7d\n"

/-- An import has been recorded from a line in a comment, which has been missed. -/
theorem recorded_in_comment_iff_missed :
    Recorded commentedImport.toList "/* a */ /* b\n".toList "import c.D;\n".toList
      (.importType "c.D") ∧
    InComment "/* a */ /* b\n".toList ∧ MissesOpening "/* a */ /* b\n".toList := by
  have recorded : Recorded commentedImport.toList "/* a */ /* b\n".toList "import c.D;\n".toList
      (.importType "c.D") :=
    { placed := ⟨lines "*/\nclass E \x7b\x7d\n".toList, by decide⟩
      reached := by decide
      outside := by decide
      heard := by decide
      declares := rfl }
  have inside : InComment "/* a */ /* b\n".toList := by decide
  obtain ⟨-, -, -, lies⟩ := recorded_in_comment_iff commentedImport
  exact ⟨recorded, inside, (lies _ _ _ recorded).2.1 inside⟩

/-- There is an import in the scope of this document, though the keyword stands nowhere in it but
in a comment. -/
theorem commented_import_recorded :
    (ofSource commentedImport).types = ["c.D"] ∧
    ∀ before after, commentedImport.toList = before ++ ("import ".toList ++ after) →
      InComment before := by
  refine ⟨by decide, ?_⟩
  intro before after split
  have checked : ∀ count ≤ commentedImport.toList.length,
      "import ".toList.isPrefixOf (commentedImport.toList.drop count) = true →
        InComment (commentedImport.toList.take count) := by
    decide
  have upTo : commentedImport.toList.take before.length = before := by
    rw [split, List.take_left]
  rw [← upTo]
  apply checked
  · rw [split, List.length_append]
    exact Nat.le_add_right _ _
  · rw [split, List.drop_left, List.isPrefixOf_iff_prefix]
    exact List.prefix_append _ _

end ImportScope

end ChainCompletion
