/-
# Proofs.Proposals -- what is proposed for the chains that were found

Writing chains and choosing among them goes through a renderer that remembers how it
wrote static roots.  What it remembers is what it would write anyway, since a simple
name follows from the qualified one (`TypeArena.simpleName_eq`).  So a renderer for an
arena and a scope (`Renderer.IsFor`) writes every chain as a fresh one does
(`Renderer.textsOf`), and proposals are a plain function of the chains
(`Settings.propose_eq`).

Of chains with one text the first stays, and ordering loses none, so as long as no more
chains were found than may be shown every text is proposed (`Settings.exists_shown`).
-/
import ChainCompletion.Completion
import ChainCompletion.Proofs.RankingOrder

namespace ChainCompletion

open Text

set_option autoImplicit false

/-! ## Simple names -/

/-- A name without dots is simple. -/
theorem QualifiedName.simple_of_not_mem {name : String} (absent : '.' ∉ name.toList) :
    simple name = name := by
  simp [simple, segments, splitAtEach, splitPieces_of_not_mem absent]

theorem TypeId.dot_not_mem_text (type : TypeId) : '.' ∉ type.text.toList := by
  intro isThere
  simp only [TypeId.text, String.toList_append, Nat.toList_repr, List.mem_append] at isThere
  rcases isThere with (early | digit) | late
  · exact absurd early (by decide)
  · exact absurd (Nat.isDigit_of_mem_toDigits (by decide) (by decide) digit) (by decide)
  · exact absurd late (by decide)

/-- The simple name of a type is that of its qualified name. -/
theorem TypeArena.simpleName_eq (arena : TypeArena) (type : TypeId) :
    arena.simpleName type = QualifiedName.simple (arena.qualifiedName type) := by
  rw [simpleName, qualifiedName]
  cases arena.shape? type with
  | some shape => rfl
  | none => exact (QualifiedName.simple_of_not_mem type.dot_not_mem_text).symm

/-! ## What a renderer remembers -/

namespace Renderer

/-- Whether a renderer writes for this arena and scope, and remembers nothing but what it
would write. -/
structure IsFor (renderer : Renderer) (arena : TypeArena) (scope : ImportScope)
    (snippets : Bool) : Prop where
  arena_eq : renderer.arena = arena
  scope_eq : renderer.scope = scope
  snippets_eq : renderer.snippets = snippets
  known_eq : ∀ name spelling, renderer.known.lookup name = some spelling →
    spelling = scope.spellStatic name (QualifiedName.simple name)

variable {renderer : Renderer} {arena : TypeArena} {scope : ImportScope} {snippets : Bool}

theorem fresh_isFor (arena : TypeArena) (scope : ImportScope) (snippets : Bool) :
    (fresh arena scope snippets).IsFor arena scope snippets where
  arena_eq := rfl
  scope_eq := rfl
  snippets_eq := rfl
  known_eq _ _ remembered := by simp [fresh] at remembered

/-- How a root is written where nothing is remembered. -/
theorem fresh_spellRoot (root : Binding) :
    ((fresh arena scope snippets).spellRoot root).1 =
      if root.isStatic then
        scope.spellStatic (arena.qualifiedName root.type)
          (QualifiedName.simple (arena.qualifiedName root.type))
      else ⟨root.valueText, none⟩ := by
  rw [spellRoot]
  split
  · simp [fresh, TypeArena.simpleName_eq]
  · rfl

/-- Every root is written as if nothing were remembered, and what is then remembered is
right again. -/
theorem IsFor.spellRoot (right : renderer.IsFor arena scope snippets) (root : Binding) :
    (renderer.spellRoot root).1 = ((fresh arena scope snippets).spellRoot root).1 ∧
      (renderer.spellRoot root).2.IsFor arena scope snippets := by
  rw [fresh_spellRoot, Renderer.spellRoot]
  cases isStatic : root.isStatic with
  | false => exact ⟨rfl, right⟩
  | true =>
      rw [right.arena_eq, right.scope_eq, TypeArena.simpleName_eq]
      simp only [if_true]
      cases remembered : renderer.known.lookup (arena.qualifiedName root.type) with
      | some spelling => exact ⟨right.known_eq _ _ remembered, right⟩
      | none =>
          refine ⟨rfl, rfl, rfl, right.snippets_eq, ?_⟩
          intro name spelling isKnown
          rw [List.lookup_cons] at isKnown
          split at isKnown
          · next same =>
              rw [← Option.some.inj isKnown, ← eq_of_beq same]
          · exact right.known_eq name spelling isKnown

/-- The texts of a chain. -/
def textsOf (arena : TypeArena) (scope : ImportScope) (snippets : Bool) (chain : Chain) :
    ChainTexts :=
  ((fresh arena scope snippets).render chain).1

/-- What is written depends on the renderer through how it writes the root. -/
theorem IsFor.render (right : renderer.IsFor arena scope snippets) (chain : Chain) :
    (renderer.render chain).1 = textsOf arena scope snippets chain ∧
      (renderer.render chain).2.IsFor arena scope snippets := by
  obtain ⟨same, after⟩ := right.spellRoot chain.root
  obtain ⟨-, fresh'⟩ := (fresh_isFor arena scope snippets).spellRoot chain.root
  refine ⟨?_, after⟩
  simp only [textsOf, Renderer.render, detail, form, same, after.arena_eq, after.snippets_eq,
    fresh'.arena_eq, fresh'.snippets_eq]

/-- The text by which chains are compared is the one that is inserted. -/
theorem inserted_eq (renderer : Renderer) (chain : Chain) :
    renderer.inserted chain = ((renderer.render chain).1.insertText, (renderer.render chain).2) :=
  rfl

theorem IsFor.withText (right : renderer.IsFor arena scope snippets) (chain : Chain) :
    (renderer.withText chain).1 = ⟨chain, (textsOf arena scope snippets chain).insertText⟩ ∧
      (renderer.withText chain).2.IsFor arena scope snippets := by
  obtain ⟨same, after⟩ := right.render chain
  rw [Renderer.withText, inserted_eq]
  exact ⟨by rw [same], after⟩

end Renderer

/-! ## Choosing -/

namespace RankedChain

/-- The chosen chains of a list, at most `count`, each with its text. -/
def chosen (count : Nat) (entries : List RankedChain) : List RankedChain :=
  (inOrder (distinctTexts entries)).take count

/-- Of the chains with one text only some stay, and only those that were there. -/
theorem foldl_addNewText_sublist (entries kept : List RankedChain) :
    (entries.foldl addNewText kept).Sublist (kept ++ entries) := by
  induction entries generalizing kept with
  | nil => simp
  | cons entry entries ih =>
      rw [List.foldl_cons, addNewText]
      split
      · exact (ih kept).trans
          ((List.Sublist.refl kept).append (List.sublist_cons_self entry entries))
      · simpa using ih (kept ++ [entry])

theorem distinctTexts_sublist (entries : List RankedChain) :
    (distinctTexts entries).Sublist entries := by
  simpa [distinctTexts] using foldl_addNewText_sublist entries []

/-- Every text that is there or comes up stays. -/
theorem text_mem_foldl_addNewText (entries kept : List RankedChain) {text : String}
    (isThere : text ∈ (kept ++ entries).map RankedChain.text) :
    text ∈ (entries.foldl addNewText kept).map RankedChain.text := by
  induction entries generalizing kept with
  | nil => simpa using isThere
  | cons entry entries ih =>
      rw [List.foldl_cons]
      apply ih
      rw [addNewText]
      split
      · next twin =>
          obtain ⟨other, isOther, same⟩ := List.any_eq_true.1 twin
          have same : other.text = entry.text := by simpa using same
          simp only [List.map_append, List.map_cons, List.mem_append, List.mem_cons] at isThere ⊢
          rcases isThere with early | rfl | late
          · exact Or.inl early
          · exact Or.inl (List.mem_map.2 ⟨other, isOther, same⟩)
          · exact Or.inr late
      · simpa using isThere

theorem text_mem_distinctTexts {entries : List RankedChain} {text : String}
    (isThere : text ∈ entries.map RankedChain.text) :
    text ∈ (distinctTexts entries).map RankedChain.text :=
  text_mem_foldl_addNewText entries [] (by simpa using isThere)

theorem mem_of_mem_chosen {count : Nat} {entries : List RankedChain} {entry : RankedChain}
    (isChosen : entry ∈ chosen count entries) : entry ∈ entries :=
  (distinctTexts_sublist entries).subset
    ((perm_inOrder _).mem_iff.1 (List.mem_of_mem_take isChosen))

/-- With room for all chains, every text is chosen. -/
theorem text_mem_chosen {count : Nat} {entries : List RankedChain} (room : entries.length ≤ count)
    {text : String} (isThere : text ∈ entries.map RankedChain.text) :
    text ∈ (chosen count entries).map RankedChain.text := by
  have short : (inOrder (distinctTexts entries)).length ≤ count := by
    rw [(perm_inOrder _).length_eq]
    exact Nat.le_trans (distinctTexts_sublist entries).length_le room
  rw [chosen, List.take_of_length_le short, ((perm_inOrder _).map _).mem_iff]
  exact text_mem_distinctTexts isThere

end RankedChain

namespace Renderer

variable {renderer : Renderer} {arena : TypeArena} {scope : ImportScope} {snippets : Bool}

open RankedChain

/-- The best chains are chosen by the texts that a fresh renderer writes. -/
theorem IsFor.best (right : renderer.IsFor arena scope snippets) (count : Nat)
    (chains : List Chain) :
    (renderer.best count chains).1 =
        (chosen count (chains.map fun chain =>
          ⟨chain, (textsOf arena scope snippets chain).insertText⟩)).map RankedChain.chain ∧
      (renderer.best count chains).2.IsFor arena scope snippets := by
  have entries : (threadMap Renderer.withText renderer chains).1 =
      chains.map fun chain => ⟨chain, (textsOf arena scope snippets chain).insertText⟩ :=
    threadMap_eq_map (fun chain _ renderer right => (IsFor.withText right chain).2)
      (fun chain _ renderer right => (IsFor.withText right chain).1) right
  have after : (threadMap Renderer.withText renderer chains).2.IsFor arena scope snippets :=
    @threadMap_keeps _ _ _ (IsFor · arena scope snippets) _ _
      (fun chain _ renderer right => (IsFor.withText right chain).2) _ right
  refine ⟨?_, after⟩
  simp only [Renderer.best, entries, ranked_eq, chosen]

end Renderer

/-! ## Proposing -/

namespace Settings

open Renderer RankedChain

variable (settings : Settings) (arena : TypeArena) (scope : ImportScope)

/-- The texts of a chain as these settings ask for them. -/
def textsOf (chain : Chain) : ChainTexts :=
  Renderer.textsOf arena scope settings.snippets chain

/-- The chains that are proposed, best first. -/
def shown (chains : List Chain) : List Chain :=
  (chosen settings.maxResults
    (chains.map fun chain => ⟨chain, (settings.textsOf arena scope chain).insertText⟩)).map
      RankedChain.chain

/-- The proposals for chains in this order. -/
def proposalsFor (rendered : List ChainTexts) : List Proposal :=
  rendered.zipIdx.map fun (texts, place) => ⟨texts, settings.format, sortKey place⟩

/-- Proposals are the texts of the chosen chains. -/
theorem propose_eq (chains : List Chain) :
    settings.propose arena scope chains =
      settings.proposalsFor
        ((settings.shown arena scope chains).map (settings.textsOf arena scope)) := by
  obtain ⟨best, after⟩ := (fresh_isFor arena scope settings.snippets).best settings.maxResults
    chains
  have written : ∀ best : List Chain,
      (threadMap render ((fresh arena scope settings.snippets).best settings.maxResults chains).2
        best).1 = best.map (settings.textsOf arena scope) := fun best =>
    threadMap_eq_map (fun chain _ renderer right => (IsFor.render right chain).2)
      (fun chain _ renderer right => (IsFor.render right chain).1) after
  simp only [propose, written, best]
  rfl

theorem proposalsFor_texts (rendered : List ChainTexts) :
    (settings.proposalsFor rendered).map Proposal.texts = rendered := by
  simp [proposalsFor, Function.comp_def]

variable {settings arena scope}

theorem mem_of_mem_shown {chains : List Chain} {chain : Chain}
    (isShown : chain ∈ settings.shown arena scope chains) : chain ∈ chains := by
  obtain ⟨entry, isChosen, rfl⟩ := List.mem_map.1 isShown
  obtain ⟨chain, isThere, rfl⟩ := List.mem_map.1 (mem_of_mem_chosen isChosen)
  exact isThere

/-- As long as no more chains were found than may be shown, the text of each of them is
the text of one that is shown. -/
theorem exists_shown {chains : List Chain} (room : chains.length ≤ settings.maxResults)
    {chain : Chain} (isThere : chain ∈ chains) :
    ∃ twin ∈ settings.shown arena scope chains,
      (settings.textsOf arena scope twin).insertText =
        (settings.textsOf arena scope chain).insertText := by
  have isText : (settings.textsOf arena scope chain).insertText ∈
      (chosen settings.maxResults (chains.map fun chain =>
        ⟨chain, (settings.textsOf arena scope chain).insertText⟩)).map RankedChain.text := by
    refine text_mem_chosen (by simpa using room) ?_
    rw [List.map_map]
    exact List.mem_map.2 ⟨chain, isThere, rfl⟩
  obtain ⟨entry, isChosen, same⟩ := List.mem_map.1 isText
  obtain ⟨twin, -, rfl⟩ := List.mem_map.1 (mem_of_mem_chosen isChosen)
  exact ⟨twin, List.mem_map.2 ⟨_, isChosen, rfl⟩, same⟩

end Settings

end ChainCompletion
