/-
# Proofs.HeaderReading -- what the head of a document says

The head of a document is what its lines say one after the other, up to the first line
that does not belong to it (`HeaderLine.readHead`); lines inside a comment say nothing.
Only the text of a line without the blanks around it counts, and what it says shows in how it
starts (`HeaderLine.ofTrimmed_cases`).

What a scan gathers follows from this list: the package named last, the types and packages
imported, each once (`package_ofChars`, `types_ofChars`, `onDemand_ofChars`).  A new import
goes behind the lines up to the last declaration (`HeaderLine.declaredLines`), and needs a
line break there if the last of these has none (`insertOffset_ofChars`,
`needsNewline_ofChars`).
-/
import ChainCompletion.Imports.Header

namespace ChainCompletion

open Text

set_option autoImplicit false

namespace HeaderLine

/-- Whether a line declares something. -/
def declares : HeaderLine → Bool
  | package _ | importType _ | importPackage _ | importStatic => true
  | silent | opensComment | other => false

/-- The package that a line names as that of the document. -/
def package? : HeaderLine → Option String
  | package name => some name
  | _ => none

/-- The type that a line imports. -/
def type? : HeaderLine → Option String
  | importType name => some name
  | _ => none

/-- The package that a line imports. -/
def opened? : HeaderLine → Option String
  | importPackage name => some name
  | _ => none

/-- The keyword of a declaration. -/
def keyword : HeaderLine → List Char
  | package _ => "package ".toList
  | _ => "import ".toList

theorem ofImport_declares (text : List Char) :
    (ofImport text).declares = true ∧ (ofImport text).keyword = "import ".toList := by
  simp only [ofImport]
  split
  · exact ⟨rfl, rfl⟩
  · split <;> exact ⟨rfl, rfl⟩

/-- What a line can say, and what it then starts with. -/
theorem ofTrimmed_cases (text : List Char) :
    (ofTrimmed text = .silent ∧
        (text = [] ∨ "//".toList <+: text ∨ "/*".toList <+: text)) ∨
      (ofTrimmed text = .opensComment ∧ "/*".toList <+: text ∧ occursIn commentEnd text = false) ∨
      ((ofTrimmed text).declares = true ∧ (ofTrimmed text).keyword <+: text) ∨
      ofTrimmed text = .other := by
  rw [ofTrimmed]
  by_cases quiet : (text.isEmpty || "//".toList.isPrefixOf text) = true
  · rw [if_pos quiet]
    rw [Bool.or_eq_true, List.isEmpty_iff, List.isPrefixOf_iff_prefix] at quiet
    exact Or.inl ⟨rfl, quiet.imp_right Or.inl⟩
  rw [if_neg quiet]
  by_cases comment : "/*".toList.isPrefixOf text = true
  · have starts := List.isPrefixOf_iff_prefix.1 comment
    rw [if_pos comment]
    cases ended : occursIn commentEnd text with
    | true => exact Or.inl ⟨rfl, Or.inr (Or.inr starts)⟩
    | false => exact Or.inr (Or.inl ⟨rfl, starts, rfl⟩)
  rw [if_neg comment]
  cases isPackage : stripStart? "package ".toList text with
  | some rest =>
      have whole := stripStart?_eq_some_iff.1 isPackage
      exact Or.inr (Or.inr (Or.inl ⟨rfl, rest, whole.symm⟩))
  | none =>
      cases isImport : stripStart? "import ".toList text with
      | some rest =>
          have whole := stripStart?_eq_some_iff.1 isImport
          obtain ⟨declares, isKeyword⟩ := ofImport_declares rest
          refine Or.inr (Or.inr (Or.inl ⟨declares, rest, ?_⟩))
          rw [isKeyword, whole]
      | none => exact Or.inr (Or.inr (Or.inr rfl))

/-- What the lines of a head say, inside a comment at first or not, given without the
blanks around them. -/
def readHead : Bool → List (List Char) → List HeaderLine
  | _, [] => []
  | true, text :: later => silent :: readHead (!occursIn commentEnd text) later
  | false, text :: later =>
      if ofTrimmed text = other then []
      else ofTrimmed text :: readHead (ofTrimmed text = opensComment) later

/-- The number of lines up to the last declaration. -/
def declaredLines : List HeaderLine → Nat
  | [] => 0
  | said :: later =>
      match declaredLines later with
      | 0 => if said.declares then 1 else 0
      | count + 1 => count + 2

/-- After the last declaration nothing is declared. -/
theorem not_declares_of_mem_drop {said : List HeaderLine} {line : HeaderLine}
    (isLater : line ∈ said.drop (declaredLines said)) : line.declares = false := by
  induction said with
  | nil => simp at isLater
  | cons first later ih =>
      rw [declaredLines] at isLater
      split at isLater
      · next none =>
          rw [none] at ih
          split at isLater
          · exact ih (by simpa using isLater)
          · next silent =>
              rcases List.mem_cons.1 isLater with rfl | isLater
              · simpa using silent
              · exact ih isLater
      · next count some =>
          rw [some] at ih
          exact ih isLater

/-- The last line counted is a declaration. -/
theorem exists_declaration {said : List HeaderLine} {count : Nat}
    (counted : declaredLines said = count + 1) :
    ∃ line, said[count]? = some line ∧ line.declares = true := by
  induction said generalizing count with
  | nil => cases counted
  | cons first later ih =>
      rw [declaredLines] at counted
      split at counted
      · split at counted
        · next declared =>
            obtain rfl : 0 = count := Nat.succ.inj counted
            exact ⟨first, rfl, declared⟩
        · cases counted
      · next earlier some =>
          obtain rfl : earlier + 1 = count := Nat.succ.inj counted
          obtain ⟨line, found, declared⟩ := ih some
          exact ⟨line, found, declared⟩

theorem length_readHead_le (inComment : Bool) (texts : List (List Char)) :
    (readHead inComment texts).length ≤ texts.length := by
  induction texts generalizing inComment with
  | nil => cases inComment <;> exact Nat.le_refl _
  | cons text later ih =>
      cases inComment with
      | true => exact Nat.succ_le_succ (ih _)
      | false =>
          rw [readHead]
          split
          · exact Nat.zero_le _
          · exact Nat.succ_le_succ (ih _)

/-- Behind the last declaration a head is read as if it began there. -/
theorem readHead_append (inComment : Bool) (texts more : List (List Char)) :
    readHead inComment (texts.take (declaredLines (readHead inComment texts)) ++ more) =
      (readHead inComment texts).take (declaredLines (readHead inComment texts)) ++
        readHead (inComment && declaredLines (readHead inComment texts) = 0) more := by
  induction texts generalizing inComment with
  | nil => cases inComment <;> simp [readHead, declaredLines]
  | cons text later ih =>
      cases inComment with
      | true =>
          have rest := ih (!occursIn commentEnd text)
          rw [readHead, declaredLines]
          split
          · simp [declares]
          · next count counted =>
              rw [counted] at rest
              simpa [readHead] using rest
      | false =>
          by_cases outside : ofTrimmed text = other
          · simp [readHead, outside, declaredLines]
          · have rest := ih (decide (ofTrimmed text = opensComment))
            rw [readHead, if_neg outside, declaredLines]
            split
            · split
              · next declared =>
                  have closed : ofTrimmed text ≠ opensComment := by
                    intro same
                    rw [same] at declared
                    cases declared
                  simp [readHead, outside, closed]
              · simp
            · next count counted =>
                rw [counted] at rest
                simpa [readHead, outside] using rest

end HeaderLine

namespace HeaderScan

open HeaderLine

/-! ## One line -/

/-- The scan after a line inside a comment. -/
def skip (scan : HeaderScan) (line : List Char) : HeaderScan :=
  { scan with
    offset := scan.offset + byteLength line
    inComment := !occursIn commentEnd (trim line) }

/-- The scan after a line that says something, outside comments. -/
def hear (scan : HeaderScan) (line : List Char) (said : HeaderLine) : HeaderScan where
  package := said.package?.or scan.package
  types := said.type?.toList.foldl addNew scan.types
  onDemand := said.opened?.toList.foldl addNew scan.onDemand
  inComment := said = .opensComment
  offset := scan.offset + byteLength line
  insertOffset := if said.declares then scan.offset + byteLength line else scan.insertOffset
  needsNewline := if said.declares then line.getLast? ≠ some '\n' else scan.needsNewline

theorem readLine_inside {scan : HeaderScan} (inside : scan.inComment = true) (line : List Char) :
    scan.readLine line = (scan.skip line, none) := by
  simp [readLine, skip, inside]

theorem readLine_outside {scan : HeaderScan} (outside : scan.inComment = false)
    (line : List Char) :
    scan.readLine line =
      (scan.hear line (ofTrimmed (trim line)),
        if ofTrimmed (trim line) = .other then some () else none) := by
  simp only [readLine, outside]
  cases ofTrimmed (trim line) <;>
    simp [hear, declared, package?, type?, opened?, declares]

/-- Reading lines, by where the first one stands. -/
theorem workOff_cons (scan : HeaderScan) (line : List Char) (later : List (List Char)) :
    (workOff readLine scan (line :: later)).1 =
      if scan.inComment then (workOff readLine (scan.skip line) later).1
      else if ofTrimmed (trim line) = .other then scan.hear line .other
      else (workOff readLine (scan.hear line (ofTrimmed (trim line))) later).1 := by
  rw [workOff]
  cases place : scan.inComment with
  | true => simp [readLine_inside place]
  | false =>
      rw [readLine_outside place]
      by_cases ends : ofTrimmed (trim line) = .other
      · simp [ends]
      · simp [ends]

/-! ## All lines -/

/-- What a scan gathers from lines, if each adds to it what it says and a line without
that leaves it as it is. -/
theorem workOff_gathers {α β : Type} (part : HeaderScan → α) (add : α → β → α)
    (what : HeaderLine → Option β)
    (skipped : ∀ scan line, part (skip scan line) = part scan)
    (heard : ∀ scan line said, part (hear scan line said) = (what said).toList.foldl add (part scan))
    (nothing : what .silent = none) (nothing' : what .other = none)
    (scan : HeaderScan) (lines : List (List Char)) :
    part (workOff readLine scan lines).1 =
      ((readHead scan.inComment (lines.map trim)).filterMap what).foldl add (part scan) := by
  induction lines generalizing scan with
  | nil => cases scan.inComment <;> rfl
  | cons line later ih =>
      rw [workOff_cons, List.map_cons]
      cases place : scan.inComment with
      | true =>
          rw [if_pos rfl, ih, skipped, readHead, List.filterMap_cons, nothing]
          rfl
      | false =>
          rw [if_neg (by simp), readHead]
          split
          · simp [heard, nothing']
          · rw [ih, heard, List.filterMap_cons]
            cases what (ofTrimmed (trim line)) <;> rfl

/-- What a scan notes at every declaration, by the line and the offset behind it, is in the
end what it noted at the last one. -/
theorem workOff_notes {α : Type} (part : HeaderScan → α) (note : Nat → List Char → α)
    (skipped : ∀ scan line, part (skip scan line) = part scan)
    (heard : ∀ scan line said, part (hear scan line said) =
      if said.declares then note (scan.offset + byteLength line) line else part scan)
    (scan : HeaderScan) (lines : List (List Char)) :
    part (workOff readLine scan lines).1 =
      match declaredLines (readHead scan.inComment (lines.map trim)) with
      | 0 => part scan
      | count + 1 =>
          note (scan.offset + byteLength (lines.take (count + 1)).flatten) (lines.getD count []) := by
  induction lines generalizing scan with
  | nil => cases scan.inComment <;> rfl
  | cons line later ih =>
      rw [workOff_cons, List.map_cons]
      cases place : scan.inComment with
      | true =>
          rw [if_pos rfl, ih, skipped, readHead, declaredLines]
          simp only [skip]
          split <;> simp [declares, Nat.add_assoc]
      | false =>
          rw [if_neg (by simp), readHead]
          split
          · simp [heard, declaredLines, declares]
          · rw [ih, heard, declaredLines]
            simp only [hear]
            split <;> cases (ofTrimmed (trim line)).declares <;> simp [Nat.add_assoc]

/-! ## The head of a document -/

/-- Of things that replace each other the last stays. -/
theorem foldl_replace {α : Type} (things : List α) (old : Option α) :
    things.foldl (fun _ thing => some thing) old = things.getLast?.or old := by
  induction things generalizing old with
  | nil => rfl
  | cons thing things ih =>
      rw [List.foldl_cons, ih, List.getLast?_cons]
      cases things.getLast? <;> rfl

section Document

variable (source : List Char)

/-- What the head of a document says. -/
def said : List HeaderLine :=
  readHead false ((lines source).map trim)

theorem package_ofChars :
    (ofChars source).package = ((said source).filterMap package?).getLast? := by
  have gathered := workOff_gathers (·.package) (fun _ name => some name) package?
    (fun _ _ => rfl) (fun _ _ said => by cases said <;> rfl) rfl rfl start (lines source)
  rw [foldl_replace] at gathered
  exact gathered.trans Option.or_none

theorem types_ofChars : (ofChars source).types = distinct ((said source).filterMap type?) :=
  workOff_gathers (·.types) addNew type? (fun _ _ => rfl) (fun _ _ _ => rfl) rfl rfl start
    (lines source)

theorem onDemand_ofChars :
    (ofChars source).onDemand = distinct ((said source).filterMap opened?) :=
  workOff_gathers (·.onDemand) addNew opened? (fun _ _ => rfl) (fun _ _ _ => rfl) rfl rfl start
    (lines source)

/-- The lines up to the last declaration. -/
def declaredPart : List (List Char) :=
  (lines source).take (declaredLines (said source))

/-- The lines after the last declaration. -/
def otherPart : List (List Char) :=
  (lines source).drop (declaredLines (said source))

theorem declaredPart_append_otherPart : declaredPart source ++ otherPart source = lines source :=
  List.take_append_drop _ _

/-- A new import goes behind the last declaration. -/
theorem insertOffset_ofChars :
    (ofChars source).insertOffset = byteLength (declaredPart source).flatten := by
  have noted := workOff_notes (·.insertOffset) (fun offset _ => offset) (fun _ _ => rfl)
    (fun _ _ _ => rfl) start (lines source)
  refine noted.trans ?_
  show (match declaredLines (said source) with | 0 => _ | count + 1 => _) = _
  rw [declaredPart]
  cases declaredLines (said source) with
  | zero => rfl
  | succ count => simp [start]

/-- It needs a line break if the last declaration has none. -/
theorem needsNewline_ofChars :
    (ofChars source).needsNewline =
      (declaredPart source).getLast?.any fun line => line.getLast? ≠ some '\n' := by
  have noted := workOff_notes (·.needsNewline) (fun _ line => decide (line.getLast? ≠ some '\n'))
    (fun _ _ => rfl) (fun _ _ _ => by simp [hear]) start (lines source)
  refine noted.trans ?_
  show (match declaredLines (said source) with | 0 => _ | count + 1 => _) = _
  rw [declaredPart]
  cases counted : declaredLines (said source) with
  | zero => rfl
  | succ count =>
      obtain ⟨line, found, -⟩ := exists_declaration counted
      have within : count < (lines source).length := by
        have short := length_readHead_le false ((lines source).map trim)
        have bound := (List.getElem?_eq_some_iff.1 found).1
        rw [List.length_map] at short
        exact Nat.lt_of_lt_of_le bound short
      have last : ((lines source).take (count + 1)).getLast? = (lines source)[count]? := by
        rw [List.getLast?_take]
        simp [within]
      rw [last, List.getElem?_eq_getElem within]
      simp [within]

end Document

end HeaderScan

end ChainCompletion
