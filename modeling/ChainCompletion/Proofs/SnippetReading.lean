/-
# Proofs.SnippetReading -- a snippet says what was meant

A client reads a snippet from left to right (`Snippet.read`).  A backslash makes the
character after it plain text.  A dollar sign, an opening brace, a number and a colon
start a placeholder, whose name lasts until the next closing brace without a backslash.
Everything else is plain text.  Reading fails where a backslash comes last or a
placeholder is not closed.

What is written for a list of fragments is read back as these fragments
(`Snippet.read_snippetFrom`), since in literal text and in names every character that
would mean something has its backslash (`read_escape_append`, `readName_escape_append`).
For a chain this gives the placeholders that it should have, numbered in order, and
between them the text for clients without placeholders (`inserted_reads`).
-/
import ChainCompletion.Proofs.Proposals

namespace ChainCompletion

open Fragment

set_option autoImplicit false

namespace Snippet

/-! ## Reading -/

/-- What a client reads in a snippet. -/
inductive Piece where
  | text (c : Char)
  | placeholder (number : Nat) (name : List Char)
  deriving DecidableEq

/-- The number of the placeholder that starts here, if one does, and what follows the
colon. -/
def opening? : List Char → Option (Nat × List Char)
  | '$' :: '\x7b' :: rest =>
      match rest.takeWhile Char.isDigit, rest.dropWhile Char.isDigit with
      | digit :: digits, ':' :: after => some (Nat.ofDigitChars 10 (digit :: digits) 0, after)
      | _, _ => none
  | _ => none

/-- The name of a placeholder, up to the closing brace, and what follows that. -/
def readName : List Char → Option (List Char × List Char)
  | [] => none
  | '\x7d' :: rest => some ([], rest)
  | '\x5c' :: [] => none
  | '\x5c' :: c :: rest => (readName rest).map fun (name, after) => (c :: name, after)
  | c :: rest => (readName rest).map fun (name, after) => (c :: name, after)

/-- What follows the start of a placeholder is shorter than the whole. -/
theorem length_of_opening? {text after : List Char} {number : Nat}
    (opened : opening? text = some (number, after)) : after.length < text.length := by
  rw [opening?.eq_def] at opened
  split at opened
  · next rest =>
      split at opened
      · next split =>
          have tail : (rest.dropWhile Char.isDigit).length ≤ rest.length :=
            (List.dropWhile_suffix _).length_le
          obtain ⟨-, rfl⟩ := Prod.mk.inj (Option.some.inj opened)
          rw [split] at tail
          simp only [List.length_cons] at tail ⊢
          omega
      · cases opened
  · cases opened

/-- What follows a name is shorter than the whole. -/
theorem length_of_readName {text name after : List Char}
    (named : readName text = some (name, after)) : after.length < text.length := by
  fun_induction readName text generalizing name after with
  | case1 => cases named
  | case2 rest =>
      obtain ⟨-, rfl⟩ := Prod.mk.inj (Option.some.inj named)
      exact Nat.lt_succ_self _
  | case3 => cases named
  | case4 c rest ih =>
      obtain ⟨⟨name', after'⟩, read, same⟩ := Option.map_eq_some_iff.1 named
      obtain ⟨-, rfl⟩ := Prod.mk.inj same
      have shorter := ih read
      simp only [List.length_cons]
      omega
  | case5 c rest _ _ _ ih =>
      obtain ⟨⟨name', after'⟩, read, same⟩ := Option.map_eq_some_iff.1 named
      obtain ⟨-, rfl⟩ := Prod.mk.inj same
      have shorter := ih read
      simp only [List.length_cons]
      omega

/-- Reads a snippet. -/
def read : List Char → Option (List Piece)
  | [] => some []
  | '\x5c' :: [] => none
  | '\x5c' :: c :: rest => (read rest).map (.text c :: ·)
  | c :: rest =>
      match _opened : opening? (c :: rest) with
      | none => (read rest).map (.text c :: ·)
      | some (number, inside) =>
          match _named : readName inside with
          | none => none
          | some (name, after) => (read after).map (.placeholder number name :: ·)
termination_by text => text.length
decreasing_by
  · simp only [List.length_cons]
    omega
  · simp
  · have shorter := length_of_opening? _opened
    have shorter' := length_of_readName _named
    omega

/-- The plain text of a snippet. -/
def plainText (pieces : List Piece) : List Char :=
  pieces.filterMap fun
    | .text c => some c
    | .placeholder _ _ => none

/-- The placeholders of a snippet, each with its number and its name. -/
def placeholders (pieces : List Piece) : List (Nat × List Char) :=
  pieces.filterMap fun
    | .text _ => none
    | .placeholder number name => some (number, name)

/-! ## What is written is read back -/

theorem read_text (c : Char) (rest : List Char) (plain : c ≠ '\x5c') (plain' : c ≠ '$') :
    read (c :: rest) = (read rest).map (.text c :: ·) := by
  have closed : opening? (c :: rest) = none := by
    rw [opening?.eq_def]
    split
    · next same => exact absurd (List.cons.inj same).1 plain'
    · rfl
  rw [read]
  · split
    · rfl
    · next opened => rw [closed] at opened; cases opened
  · exact fun same => absurd same plain
  · intro _ _ same
    exact absurd same plain

theorem escape_cons (c : Char) (text : List Char) :
    escape (c :: text) = (if isSpecial c then ['\x5c', c] else [c]) ++ escape text := rfl

/-- Literal text is read as itself. -/
theorem read_escape_append (text rest : List Char) :
    read (escape text ++ rest) = (read rest).map (text.map .text ++ ·) := by
  induction text with
  | nil => simp [escape]
  | cons c text ih =>
      have step : read (escape (c :: text) ++ rest) =
          (read (escape text ++ rest)).map (.text c :: ·) := by
        rw [escape_cons]
        split
        · simp [read]
        · next plain =>
            simp only [isSpecial, Bool.or_eq_true, decide_eq_true_eq, not_or] at plain
            exact read_text c _ plain.2 plain.1.1
      rw [step, ih, Option.map_map]
      rfl

theorem readName_text (c : Char) (rest : List Char) (plain : c ≠ '\x5c') (plain' : c ≠ '\x7d') :
    readName (c :: rest) = (readName rest).map fun (name, after) => (c :: name, after) := by
  rw [readName]
  · exact fun same => absurd same plain'
  · exact fun same => absurd same plain
  · intro _ _ same
    exact absurd same plain

/-- A name is read as itself, up to the brace that closes it. -/
theorem readName_escape_append (name rest : List Char) :
    readName (escape name ++ '\x7d' :: rest) = some (name, rest) := by
  induction name with
  | nil => rfl
  | cons c name ih =>
      rw [escape_cons]
      split
      · simp [readName, ih]
      · next plain =>
          simp only [isSpecial, Bool.or_eq_true, decide_eq_true_eq, not_or] at plain
          rw [List.singleton_append, List.cons_append, readName_text c _ plain.2 plain.1.2, ih]
          rfl

/-- The start of a placeholder is read as its number. -/
theorem opening?_tabStop (number : Nat) (name rest : List Char) :
    opening? (tabStop number name ++ rest) = some (number, escape name ++ '\x7d' :: rest) := by
  have digits : ∀ c ∈ Nat.toDigits 10 number, c.isDigit = true :=
    fun c isThere => Nat.isDigit_of_mem_toDigits (by decide) (by decide) isThere
  have whole : tabStop number name ++ rest =
      '$' :: '\x7b' :: (Nat.toDigits 10 number ++ ':' :: (escape name ++ '\x7d' :: rest)) := by
    simp [tabStop]
  have colon : (':' : Char).isDigit = false := by decide
  rw [whole, opening?, List.takeWhile_append_of_pos digits, List.dropWhile_append_of_pos digits,
    List.takeWhile_cons_of_neg (by simp [colon]), List.dropWhile_cons_of_neg (by simp [colon]),
    List.append_nil]
  cases written : Nat.toDigits 10 number with
  | nil => exact absurd written Nat.toDigits_ne_nil
  | cons digit digits =>
      simp only
      rw [← written, Nat.ofDigitChars_toDigits (by decide) (by decide)]

/-- A placeholder is read as its number and its name. -/
theorem read_tabStop_append (number : Nat) (name rest : List Char) :
    read (tabStop number name ++ rest) = (read rest).map (.placeholder number name :: ·) := by
  have opened := opening?_tabStop number name rest
  have start : ∃ inside, tabStop number name ++ rest = '$' :: inside := ⟨_, rfl⟩
  obtain ⟨inside, start⟩ := start
  rw [start] at opened ⊢
  rw [read]
  · split
    · next closed => rw [opened] at closed; cases closed
    · next opened' =>
        rw [opened] at opened'
        obtain ⟨rfl, rfl⟩ := Prod.mk.inj (Option.some.inj opened')
        split
        · next unnamed => rw [readName_escape_append] at unnamed; cases unnamed
        · next named =>
            rw [readName_escape_append] at named
            obtain ⟨rfl, rfl⟩ := Prod.mk.inj (Option.some.inj named)
            rfl
  · exact fun same => absurd same (by decide)
  · intro _ _ same
    exact absurd same (by decide)

/-- What fragments say, with `used` placeholders before them. -/
def meant : Nat → List Fragment → List Piece
  | _, [] => []
  | used, .literal text :: later => text.map .text ++ meant used later
  | used, .placeholder name :: later => .placeholder (used + 1) name :: meant (used + 1) later

/-- What is written for fragments is read as what they say. -/
theorem read_snippetFrom (used : Nat) (fragments : List Fragment) :
    read (snippetFrom used fragments) = some (meant used fragments) := by
  induction fragments generalizing used with
  | nil => simp [snippetFrom, meant, read]
  | cons fragment later ih =>
      cases fragment with
      | literal text => rw [snippetFrom, read_escape_append, ih, meant, Option.map_some]
      | placeholder name => rw [snippetFrom, read_tabStop_append, ih, meant, Option.map_some]

example : read "a\\$[$\x7b12:i\x7d]".toList =
    some [.text 'a', .text '$', .text '[', .placeholder 12 ['i'], .text ']'] := by
  cbv

/-- Without its placeholders a snippet is the plain text. -/
theorem plainText_meant (used : Nat) (fragments : List Fragment) :
    plainText (meant used fragments) = plain fragments := by
  induction fragments generalizing used with
  | nil => rfl
  | cons fragment later ih =>
      cases fragment with
      | literal text =>
          have literal : plainText (text.map .text) = text := by
            simp [plainText, List.filterMap_map]
          rw [meant, plain, ← ih used, plainText, List.filterMap_append]
          exact congrArg (· ++ _) literal
      | placeholder name => exact ih (used + 1)

/-- The names of the placeholders among fragments. -/
def names (fragments : List Fragment) : List (List Char) :=
  fragments.filterMap fun
    | .literal _ => none
    | .placeholder name => some name

/-- The placeholders are those among the fragments, numbered in order. -/
theorem placeholders_meant (used : Nat) (fragments : List Fragment) :
    placeholders (meant used fragments) =
      (List.range' (used + 1) (names fragments).length).zip (names fragments) := by
  induction fragments generalizing used with
  | nil => rfl
  | cons fragment later ih =>
      cases fragment with
      | literal text =>
          have none : placeholders (text.map .text) = [] := by
            simp [placeholders, List.filterMap_map]
          rw [meant, placeholders, List.filterMap_append]
          show placeholders (text.map .text) ++ placeholders (meant used later) = _
          rw [none, List.nil_append, ih used]
          rfl
      | placeholder name =>
          show (used + 1, name) :: placeholders (meant (used + 1) later) = _
          rw [ih (used + 1)]
          rfl

theorem names_append (first second : List Fragment) :
    names (first ++ second) = names first ++ names second :=
  List.filterMap_append

end Snippet

/-! ## Chains -/

/-- The number of places to fill in that an access has. -/
def Access.holeCount (access : Access) : Nat :=
  match access.member.kind with
  | .field => 0
  | .method => access.member.params.length
  | .arrayElement => 1

/-- The names of the places to fill in that accesses in a row have, after so many array
indices. -/
def Access.holeNames (arena : TypeArena) : Nat → List Access → List String
  | _, [] => []
  | indices, access :: later =>
      match access.member.kind with
      | .field => holeNames arena indices later
      | .method => access.member.params.map (·.shownName arena) ++ holeNames arena indices later
      | .arrayElement => indexName (indices + 1) :: holeNames arena (indices + 1) later

/-- The number of places to fill in that a chain has. -/
def Chain.holeCount (chain : Chain) : Nat :=
  chain.accesses.foldr (fun access count => access.holeCount + count) 0

/-- The names of the places to fill in that a chain has. -/
def Chain.holeNames (arena : TypeArena) (chain : Chain) : List String :=
  Access.holeNames arena 0 chain.accesses

open Snippet

theorem Access.length_holeNames (arena : TypeArena) (indices : Nat) (accesses : List Access) :
    (holeNames arena indices accesses).length =
      accesses.foldr (fun access count => access.holeCount + count) 0 := by
  induction accesses generalizing indices with
  | nil => rfl
  | cons access later ih =>
      rw [holeNames, List.foldr_cons, holeCount]
      split <;> simp [ih, Nat.add_comm]

/-- Arguments have a placeholder each. -/
theorem Snippet.names_commaSeparated {α : Type} (name : α → List Char) (arguments : List α) :
    names (commaSeparated (arguments.map fun argument => [.placeholder (name argument)])) =
      arguments.map name := by
  induction arguments with
  | nil => rfl
  | cons argument later ih =>
      cases later with
      | nil => rfl
      | cons next later => exact congrArg (name argument :: ·) ih

/-- Accesses have a placeholder for each place to fill in. -/
theorem Access.names_fragmentsFrom (arena : TypeArena) (indices : Nat) (accesses : List Access) :
    names (fragmentsFrom arena indices accesses) =
      (holeNames arena indices accesses).map String.toList := by
  induction accesses generalizing indices with
  | nil => rfl
  | cons access later ih =>
      rw [fragmentsFrom, names_append, ih, holeNames, fragments, indicesAfter]
      cases access.member.kind with
      | field => rfl
      | arrayElement => rfl
      | method =>
          have arguments := names_commaSeparated (fun param => (param.shownName arena).toList)
            access.member.params
          simp only [List.map_append, List.map_map, Function.comp_def]
          rw [← arguments, ← List.singleton_append, List.append_assoc, names_append, names_append]
          simp [names]

/-- The fragments of a chain as a fresh renderer puts them together; they do not depend on
what the client understands. -/
def Renderer.fragmentsOf (arena : TypeArena) (scope : ImportScope) (chain : Chain) :
    List Fragment :=
  chain.fragments arena ((fresh arena scope true).spellRoot chain.root).1.text

theorem Renderer.insertText_eq (arena : TypeArena) (scope : ImportScope) (snippets : Bool)
    (chain : Chain) :
    (textsOf arena scope snippets chain).insertText =
      String.ofList (if snippets then snippet (fragmentsOf arena scope chain)
        else plain (fragmentsOf arena scope chain)) := by
  obtain ⟨-, right⟩ := (fresh_isFor arena scope snippets).spellRoot chain.root
  have root : ((fresh arena scope snippets).spellRoot chain.root).1 =
      ((fresh arena scope true).spellRoot chain.root).1 := by
    rw [fresh_spellRoot, fresh_spellRoot]
  simp only [textsOf, render, form, right.arena_eq, right.snippets_eq, root, fragmentsOf]

end ChainCompletion
