/-
# Proofs.Comments -- where comments begin and end in a source text

Read character by character, a source text has two kinds of comments.  Two slashes open one that
ends with the line, a slash and a star one that ends with the next star and slash, if these come
after the two characters that open it.  Nothing opens a comment inside another.  A reader that
goes from left to right needs to know only what the last character leaves open (`CommentState`).

What the reader knows of a comment over several lines can be said of the text alone: one is open
at its end exactly if somewhere outside comments a slash and a star stand in it, and no star and
slash behind them (`inBlock_iff`).  Blanks neither open nor close anything (`foldl_next_blank`), so
trimming a text keeps all ends of comments in it (`commentEnd_infix_trim_iff`).
-/
import Mathlib.Data.List.Induction
import ChainCompletion.Imports.Header

namespace ChainCompletion.Text

set_option autoImplicit false

open HeaderLine (commentEnd)

/-! ## Reading a text -/

/-- What the characters read so far leave open. -/
inductive CommentState where
  /-- Nothing: the reader is outside comments. -/
  | code
  /-- A slash outside comments. -/
  | slash
  /-- A comment that ends with the line. -/
  | line
  /-- A comment that ends with a star and a slash. -/
  | block
  /-- Such a comment, with a star just read. -/
  | star
  deriving DecidableEq

namespace CommentState

/-- Reads one character.  Lines end with a line feed or a carriage return. -/
def next : CommentState → Char → CommentState
  | code, c => if c = '/' then slash else code
  | slash, c => if c = '/' then line else if c = '*' then block else code
  | line, c => if c = '\n' ∨ c = '\r' then code else line
  | block, c => if c = '*' then star else block
  | star, c => if c = '/' then code else if c = '*' then star else block

/-- Whether a comment is open. -/
def inside : CommentState → Bool
  | code | slash => false
  | line | block | star => true

/-- Whether a comment that may span lines is open. -/
def inBlock : CommentState → Bool
  | code | slash | line => false
  | block | star => true

/-- At the start of a line there is code, or a comment from a line before. -/
def atStart : CommentState → Bool
  | code | block => true
  | slash | line | star => false

theorem atStart_next_break (state : CommentState) : (state.next '\n').atStart = true := by
  cases state <;> rfl

theorem eq_block_of_atStart {state : CommentState} (start : state.atStart = true)
    (isOpen : state.inBlock = true) : state = block := by
  cases state with
  | block => rfl
  | star => cases start
  | code | slash | line => cases isOpen

theorem eq_code_of_atStart {state : CommentState} (start : state.atStart = true)
    (closed : state.inBlock = false) : state = code := by
  cases state with
  | code => rfl
  | slash | line => cases start
  | block | star => cases closed

theorem eq_code_of_next_eq_slash {state : CommentState} {c : Char} (reads : state.next c = slash) :
    state = code ∧ c = '/' := by
  cases state <;> simp only [next] at reads <;> split_ifs at reads
  exact ⟨rfl, ‹_›⟩

theorem eq_star_of_next_eq_star {state : CommentState} {c : Char} (reads : state.next c = star) :
    c = '*' := by
  cases state <;> simp only [next] at reads <;> split_ifs at reads <;> assumption

/-- A star and a slash end a comment. -/
theorem next_next_of_inBlock {state : CommentState} (isOpen : state.inBlock = true) :
    (state.next '*').next '/' = code := by
  cases state with
  | block | star => rfl
  | code | slash | line => cases isOpen

/-- Only a slash behind a star ends such a comment. -/
theorem of_next_not_inBlock {state : CommentState} {c : Char} (isOpen : state.inBlock = true)
    (closed : (state.next c).inBlock = false) : state = star ∧ c = '/' := by
  cases state <;> simp only [inBlock, next] at isOpen closed <;> split_ifs at closed <;>
    simp_all

/-- Only a star behind a slash opens one. -/
theorem of_next_inBlock {state : CommentState} {c : Char} (closed : state.inBlock = false)
    (isOpen : (state.next c).inBlock = true) : state = slash ∧ c = '*' := by
  cases state <;> simp only [inBlock, next] at isOpen closed <;> split_ifs at isOpen <;>
    simp_all

end CommentState

open CommentState

/-- What a text leaves open. -/
def commentState (text : List Char) : CommentState :=
  text.foldl next code

/-- Whether what follows a text lies in a comment. -/
def InComment (text : List Char) : Prop :=
  (commentState text).inside = true

instance (text : List Char) : Decidable (InComment text) :=
  inferInstanceAs (Decidable (_ = _))

theorem commentState_append (first second : List Char) :
    commentState (first ++ second) = second.foldl next (commentState first) :=
  List.foldl_append

theorem commentState_concat (text : List Char) (c : Char) :
    commentState (text ++ [c]) = (commentState text).next c :=
  commentState_append text [c]

/-- A line that ends with its break leaves code or a comment that goes on. -/
theorem atStart_foldl {line : List Char} (ended : line.getLast? = some '\n')
    (state : CommentState) : (line.foldl next state).atStart = true := by
  obtain ⟨body, rfl⟩ := List.getLast?_eq_some_iff.1 ended
  rw [List.foldl_append]
  exact atStart_next_break _

theorem atStart_commentState {text : List Char} (ended : text = [] ∨ text.getLast? = some '\n') :
    (commentState text).atStart = true := by
  rcases ended with rfl | ended
  · rfl
  · exact atStart_foldl ended code

/-! ## Comments over several lines -/

/-- A comment stays open as long as no star and slash are read. -/
theorem inBlock_foldl {text : List Char} (unended : ¬ commentEnd <:+: text) :
    (text.foldl next block).inBlock = true := by
  induction text using List.reverseRecOn with
  | nil => rfl
  | append_singleton text c ih =>
      have isOpen := ih fun early => unended (early.trans (List.prefix_append _ _).isInfix)
      by_contra closed
      rw [List.foldl_append, List.foldl_cons, List.foldl_nil, Bool.not_eq_true] at closed
      obtain ⟨behind, rfl⟩ := of_next_not_inBlock isOpen closed
      -- the state is reached by reading a star, which the slash follows
      cases text using List.reverseRecOn with
      | nil => cases behind
      | append_singleton before d =>
          rw [List.foldl_append, List.foldl_cons, List.foldl_nil] at behind
          obtain rfl := eq_star_of_next_eq_star behind
          exact unended ⟨before, [], by simp [commentEnd]⟩

/-- An open comment was opened outside comments and has been open ever since. -/
theorem exists_opening {text : List Char} (isOpen : (commentState text).inBlock = true) :
    ∃ outer inner, text = outer ++ ("/*".toList ++ inner) ∧ commentState outer = code ∧
      ∀ read, read <+: inner → (read.foldl next block).inBlock = true := by
  induction text using List.reverseRecOn with
  | nil => cases isOpen
  | append_singleton text c ih =>
      rw [commentState_concat] at isOpen
      by_cases before : (commentState text).inBlock = true
      · obtain ⟨outer, inner, rfl, isCode, since⟩ := ih before
        refine ⟨outer, inner ++ [c], by simp, isCode, ?_⟩
        intro read isRead
        rcases List.prefix_concat_iff.1 isRead with rfl | early
        · rw [← commentState_concat, List.append_assoc, List.append_assoc, commentState_append,
            isCode] at isOpen
          exact isOpen
        · exact since read early
      · obtain ⟨behind, rfl⟩ := of_next_inBlock (Bool.not_eq_true _ ▸ before) isOpen
        -- the state is reached by reading a slash outside comments
        cases text using List.reverseRecOn with
        | nil => cases behind
        | append_singleton outer d =>
            rw [commentState_concat] at behind
            obtain ⟨isCode, rfl⟩ := eq_code_of_next_eq_slash behind
            refine ⟨outer, [], by simp, isCode, ?_⟩
            intro read isRead
            rw [List.prefix_nil.1 isRead]
            rfl

/-- A comment that may span lines is open at the end of a text exactly if a slash and a star stand
somewhere outside comments, and no star and slash behind them. -/
theorem inBlock_iff {text : List Char} :
    (commentState text).inBlock = true ↔
      ∃ outer inner, text = outer ++ ("/*".toList ++ inner) ∧ commentState outer = code ∧
        ¬ commentEnd <:+: inner := by
  constructor
  · intro isOpen
    obtain ⟨outer, inner, whole, isCode, since⟩ := exists_opening isOpen
    refine ⟨outer, inner, whole, isCode, ?_⟩
    rintro ⟨before, after, rfl⟩
    have isOpen' := since before (List.append_assoc before _ after ▸ List.prefix_append _ _)
    have closed := since (before ++ commentEnd) (List.prefix_append _ _)
    rw [List.foldl_append] at closed
    have ends : commentEnd.foldl next (before.foldl next block) = code :=
      next_next_of_inBlock isOpen'
    rw [ends] at closed
    cases closed
  · rintro ⟨outer, inner, rfl, isCode, unended⟩
    rw [commentState_append, isCode]
    exact inBlock_foldl unended

/-! ## Blanks -/

theorem ne_slash_of_isBlank {c : Char} (blank : isBlank c = true) : c ≠ '/' := by
  rintro rfl
  cases blank

theorem ne_star_of_isBlank {c : Char} (blank : isBlank c = true) : c ≠ '*' := by
  rintro rfl
  cases blank

/-- Blanks at the start of a line neither open nor close a comment. -/
theorem foldl_next_blank {state : CommentState} (start : state.atStart = true)
    {text : List Char} (blank : ∀ c ∈ text, isBlank c = true) : text.foldl next state = state := by
  induction text with
  | nil => rfl
  | cons c text ih =>
      have isBlank := blank c (by simp)
      have stays : state.next c = state := by
        cases state with
        | code => exact if_neg (ne_slash_of_isBlank isBlank)
        | block => exact if_neg (ne_star_of_isBlank isBlank)
        | slash | line | star => cases start
      rw [List.foldl_cons, stays]
      exact ih fun d isThere => blank d (by simp [isThere])

/-- A comment that starts a line goes on behind it if nothing ends it. -/
theorem inBlock_foldl_opening {lead rest : List Char} (blank : ∀ c ∈ lead, isBlank c = true)
    (unended : ¬ commentEnd <:+: rest) :
    ((lead ++ ("/*".toList ++ rest)).foldl next code).inBlock = true := by
  rw [List.foldl_append, foldl_next_blank rfl blank]
  exact inBlock_foldl unended

theorem commentEnd_infix_cons {c : Char} {text : List Char} :
    commentEnd <:+: c :: text ↔ (c = '*' ∧ text.head? = some '/') ∨ commentEnd <:+: text := by
  rw [List.infix_cons_iff, commentEnd, show "*/".toList = ['*', '/'] from rfl,
    List.cons_prefix_cons]
  cases text with
  | nil => simp
  | cons d text => simp [List.cons_prefix_cons, eq_comm]

theorem commentEnd_infix_blank_append {blanks : List Char}
    (blank : ∀ c ∈ blanks, isBlank c = true) (text : List Char) :
    commentEnd <:+: blanks ++ text ↔ commentEnd <:+: text := by
  induction blanks with
  | nil => rfl
  | cons c blanks ih =>
      have notStar := ne_star_of_isBlank (blank c (by simp))
      rw [List.cons_append, commentEnd_infix_cons, ih fun d isThere => blank d (by simp [isThere])]
      simp [notStar]

theorem commentEnd_infix_append_blank {blanks : List Char}
    (blank : ∀ c ∈ blanks, isBlank c = true) (text : List Char) :
    commentEnd <:+: text ++ blanks ↔ commentEnd <:+: text := by
  induction text with
  | nil => simpa using commentEnd_infix_blank_append blank []
  | cons c text ih =>
      rw [List.cons_append, commentEnd_infix_cons, commentEnd_infix_cons, ih]
      cases text with
      | cons d text => rfl
      | nil =>
          cases blanks with
          | nil => rfl
          | cons d blanks => simp [ne_slash_of_isBlank (blank d (by simp))]

/-- A text is its trimmed form with blanks around it. -/
theorem exists_eq_trim (text : List Char) :
    ∃ blanks, text = text.takeWhile isBlank ++ (trim text ++ blanks) ∧
      ∀ c ∈ blanks, isBlank c = true := by
  refine ⟨((trimLeft text).reverse.takeWhile isBlank).reverse, ?_, ?_⟩
  · rw [trim, trimRight, ← List.reverse_append, List.takeWhile_append_dropWhile,
      List.reverse_reverse, trimLeft, List.takeWhile_append_dropWhile]
  · intro c isThere
    exact List.all_eq_true.1 List.all_takeWhile c (List.mem_reverse.1 isThere)

/-- Trimming keeps all ends of comments. -/
theorem commentEnd_infix_trim_iff (text : List Char) :
    commentEnd <:+: trim text ↔ commentEnd <:+: text := by
  obtain ⟨blanks, whole, blank⟩ := exists_eq_trim text
  conv_rhs => rw [whole]
  rw [commentEnd_infix_blank_append (List.all_eq_true.1 List.all_takeWhile),
    commentEnd_infix_append_blank blank]

/-- A text occurs in another exactly if it is found there. -/
theorem occursIn_iff {part text : List Char} : occursIn part text = true ↔ part <:+: text := by
  induction text with
  | nil => simp [occursIn]
  | cons c text ih =>
      rw [occursIn, Bool.or_eq_true, List.isPrefixOf_iff_prefix, ih, List.infix_cons_iff]

end ChainCompletion.Text
