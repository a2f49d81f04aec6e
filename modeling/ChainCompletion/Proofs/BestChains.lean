/-
# Proofs.BestChains -- what ranking chooses

Chains are ranked by a key (`Chain.rankKey`): the number of accesses, then the number of
arguments, then the inserted text, compared by code points.  Of the chains with one text the
first stands for all.

The chosen chains are these first ones in the order of their keys, as many as are asked for
(`RankedChain.chosen`).  So they go up by key (`chosen_increasing`), each is the first with its
text (`find?_of_mem_chosen`), and a text that is missing was cut off: the first chain with it
comes after all that were chosen (`beyond_chosen`).

A renderer remembers roots, and whatever it has been used for before (`Renderer.Reached`), it
ranks by the texts that it would insert now (`Renderer.best_is_reference`).
-/
import Mathlib.Data.Prod.Lex
import Mathlib.Data.String.Basic
import ChainCompletion.Proofs.Proposals
import ChainCompletion.Proofs.SearchSteps

namespace ChainCompletion

set_option autoImplicit false

/-- Texts come before each other as lists of code points do. -/
theorem Text.precedes_iff_lt {first second : List Char} :
    Text.precedes first second = true ↔ first < second := by
  induction first generalizing second with
  | nil =>
      cases second with
      | nil => simp [Text.precedes]
      | cons b second => simp [Text.precedes]
  | cons a first ih =>
      cases second with
      | nil => simp [Text.precedes]
      | cons b second =>
          rw [List.cons_lt_cons_iff, Text.precedes, Bool.or_eq_true, Bool.and_eq_true,
            decide_eq_true_eq, decide_eq_true_eq, ih]
          exact Iff.rfl

/-- What chains are ranked by: fewer accesses first, then fewer arguments, then the text. -/
def Chain.rankKey (chain : Chain) (text : String) : ℕ ×ₗ ℕ ×ₗ String :=
  toLex (chain.length, toLex (chain.paramCount, text))

namespace RankedChain

/-- The key of a chain with its text. -/
def key (entry : RankedChain) : ℕ ×ₗ ℕ ×ₗ String := entry.chain.rankKey entry.text

theorem precedes_iff_key_lt {first second : RankedChain} :
    first.precedes second = true ↔ first.key < second.key := by
  rw [precedes_iff, key, key, Chain.rankKey, Chain.rankKey, Prod.Lex.toLex_lt_toLex,
    Prod.Lex.toLex_lt_toLex, textPrecedes, Text.precedes_iff_lt, ← String.lt_iff_toList_lt]

theorem find?_sharesPlace (entry : RankedChain) (entries : List RankedChain) :
    entries.find? (sharesPlace textPrecedes entry) =
      entries.find? fun other => other.text = entry.text := by
  have same : sharesPlace textPrecedes entry = fun other => decide (other.text = entry.text) := by
    funext other
    rw [Bool.eq_iff_iff, sharesPlace_textPrecedes, decide_eq_true_eq, eq_comm]
  rw [same]

section Chosen

variable {count : Nat} {entries : List RankedChain}

theorem chosen_increasing (count : Nat) (entries : List RankedChain) :
    Increasing precedes (chosen count entries) :=
  (inOrder_increasing (nodup_distinctTexts entries)).sublist (List.take_sublist _ _)

theorem nodup_chosen (count : Nat) (entries : List RankedChain) :
    ((chosen count entries).map RankedChain.text).Nodup := by
  have all : ((inOrder (distinctTexts entries)).map RankedChain.text).Nodup :=
    ((perm_inOrder _).map _).nodup_iff.2 (nodup_distinctTexts entries)
  exact all.sublist ((List.take_sublist _ _).map _)

/-- Chosen are, of the chains with one text, the first. -/
theorem find?_of_mem_chosen {entry : RankedChain} (isChosen : entry ∈ chosen count entries) :
    entries.find? (fun other => other.text = entry.text) = some entry := by
  rw [← find?_sharesPlace, ← mem_distinctTexts]
  exact (perm_inOrder _).mem_iff.1 (List.mem_of_mem_take isChosen)

/-- If no chain with a text is chosen, as many are as are asked for, and all of them go before
the first chain with that text. -/
theorem beyond_chosen {entry : RankedChain} (isThere : entry ∈ entries)
    (absent : entry.text ∉ (chosen count entries).map RankedChain.text) :
    (chosen count entries).length = count ∧
      ∃ first, entries.find? (fun other => other.text = entry.text) = some first ∧
        ∀ shown ∈ chosen count entries, shown.precedes first = true := by
  have isText := text_mem_distinctTexts (List.mem_map_of_mem isThere)
  obtain ⟨first, isFirst, same⟩ := List.mem_map.1 isText
  have isListed := (perm_inOrder _).mem_iff.2 isFirst
  -- the first chain with the text is in order, but behind those that are taken
  have isLater : first ∈ (inOrder (distinctTexts entries)).drop count := by
    have parts := isListed
    rw [← List.take_append_drop count (inOrder (distinctTexts entries)), List.mem_append] at parts
    refine parts.resolve_left ?_
    intro isTaken
    exact absent (List.mem_map.2 ⟨first, isTaken, same⟩)
  have long : count < (inOrder (distinctTexts entries)).length := by
    have some := List.length_pos_of_mem isLater
    rw [List.length_drop] at some
    omega
  have increasing := inOrder_increasing (nodup_distinctTexts entries)
  rw [← List.take_append_drop count (inOrder (distinctTexts entries)), Increasing,
    List.pairwise_append] at increasing
  refine ⟨?_, first, ?_, ?_⟩
  · rw [chosen, List.length_take]
    omega
  · rw [← same, ← find?_sharesPlace, ← mem_distinctTexts]
    exact isFirst
  · intro shown isShown
    exact increasing.2.2 shown isShown first isLater

end Chosen

/-! ## Chains -/

/-- A chain with its text, as some function gives it. -/
def ofChain (text : Chain → String) (chain : Chain) : RankedChain := ⟨chain, text chain⟩

/-- The chosen chains have the texts that the function gives them. -/
theorem map_ofChain_chosen (text : Chain → String) (count : Nat) (chains : List Chain) :
    ((chosen count (chains.map (ofChain text))).map RankedChain.chain).map (ofChain text) =
      chosen count (chains.map (ofChain text)) := by
  have same : ∀ entry ∈ chosen count (chains.map (ofChain text)),
      (ofChain text ∘ RankedChain.chain) entry = id entry := by
    intro entry isChosen
    obtain ⟨chain, -, rfl⟩ := List.mem_map.1 (mem_of_mem_chosen isChosen)
    rfl
  rw [List.map_map, List.map_congr_left same, List.map_id]

/-- The first chain with a text is the first of the chains with their texts. -/
theorem find?_ofChain {text : Chain → String} {chains : List Chain} {wanted : String}
    {first : RankedChain}
    (found : (chains.map (ofChain text)).find? (fun other => other.text = wanted) = some first) :
    chains.find? (fun other => text other = wanted) = some first.chain := by
  rw [List.find?_map, Option.map_eq_some_iff] at found
  obtain ⟨chain, isFirst, rfl⟩ := found
  exact isFirst

/-- The texts of chains, in the order of ranking. -/
def rankedTexts (text : Chain → String) (chains : List Chain) : List String :=
  (inOrder (distinctTexts (chains.map (ofChain text)))).map RankedChain.text

/-- What is ranked are the chains with their texts. -/
theorem exists_ofChain {text : Chain → String} {chains : List Chain} {entry : RankedChain}
    (isRanked : entry ∈ inOrder (distinctTexts (chains.map (ofChain text)))) :
    ∃ chain ∈ chains, ofChain text chain = entry :=
  List.mem_map.1 ((distinctTexts_sublist _).subset ((perm_inOrder _).mem_iff.1 isRanked))

theorem length_rankedTexts_le (text : Chain → String) (chains : List Chain) :
    (rankedTexts text chains).length ≤ chains.length := by
  have fewer := (distinctTexts_sublist (chains.map (ofChain text))).length_le
  rwa [rankedTexts, List.length_map, (perm_inOrder _).length_eq, ← List.length_map (ofChain text)]

theorem nodup_rankedTexts (text : Chain → String) (chains : List Chain) :
    (rankedTexts text chains).Nodup :=
  ((perm_inOrder _).map _).nodup_iff.2 (nodup_distinctTexts _)

theorem mem_rankedTexts {text : Chain → String} {chains : List Chain} {wanted : String} :
    wanted ∈ rankedTexts text chains ↔ ∃ chain ∈ chains, text chain = wanted := by
  constructor
  · intro isText
    obtain ⟨entry, isRanked, rfl⟩ := List.mem_map.1 isText
    obtain ⟨chain, isThere, rfl⟩ := exists_ofChain isRanked
    exact ⟨chain, isThere, rfl⟩
  · rintro ⟨chain, isThere, rfl⟩
    rw [rankedTexts, ((perm_inOrder _).map _).mem_iff]
    refine text_mem_distinctTexts ?_
    rw [List.map_map]
    exact List.mem_map.2 ⟨chain, isThere, rfl⟩

end RankedChain

namespace Renderer

open RankedChain

variable {arena : TypeArena} {scope : ImportScope} {snippets : Bool} {renderer : Renderer}

/-- The text of a chain where nothing is remembered. -/
def chainText (arena : TypeArena) (scope : ImportScope) (snippets : Bool) (chain : Chain) :
    String :=
  (textsOf arena scope snippets chain).insertText

/-- The text that a renderer would insert for a chain. -/
def textOf (renderer : Renderer) (chain : Chain) : String := (renderer.inserted chain).1

/-- The renderers for an arena, a scope and a client, whatever they have been used for. -/
inductive Reached (arena : TypeArena) (scope : ImportScope) (snippets : Bool) : Renderer → Prop
  | fresh : Reached arena scope snippets (fresh arena scope snippets)
  | render {renderer : Renderer} (reached : Reached arena scope snippets renderer)
      (chain : Chain) : Reached arena scope snippets (renderer.render chain).2
  | inserted {renderer : Renderer} (reached : Reached arena scope snippets renderer)
      (chain : Chain) : Reached arena scope snippets (renderer.inserted chain).2
  | best {renderer : Renderer} (reached : Reached arena scope snippets renderer) (count : Nat)
      (chains : List Chain) : Reached arena scope snippets (renderer.best count chains).2

/-- Whatever a renderer has been used for, it remembers nothing but what it would write. -/
theorem Reached.isFor (reached : Reached arena scope snippets renderer) :
    renderer.IsFor arena scope snippets := by
  induction reached with
  | fresh => exact fresh_isFor arena scope snippets
  | render reached chain ih => exact (ih.render chain).2
  | inserted reached chain ih =>
      rw [inserted_eq]
      exact (ih.render chain).2
  | best reached count chains ih => exact (ih.best count chains).2

theorem IsFor.textOf_eq (right : renderer.IsFor arena scope snippets) :
    renderer.textOf = chainText arena scope snippets := by
  funext chain
  rw [textOf, inserted_eq, (right.render chain).1, chainText]

/-- The best chains are chosen by the texts that the renderer would insert. -/
theorem IsFor.best_eq (right : renderer.IsFor arena scope snippets) (count : Nat)
    (chains : List Chain) :
    (renderer.best count chains).1 =
      (chosen count (chains.map (ofChain renderer.textOf))).map RankedChain.chain := by
  rw [(right.best count chains).1, right.textOf_eq]
  rfl

/-- **Ranking gives the best chains.**  Whatever a renderer has been used for before, what it
chooses from a list of chains (1) is from the list, (2) goes up by key, so that no text occurs
twice, (3) is no more than is asked for, (4) holds of each text the first chain with it, and
(5) misses a text only if as many chains are chosen as are asked for, all with smaller keys
than the first chain with that text. -/
theorem best_is_reference (reached : Reached arena scope snippets renderer) (count : Nat)
    (chains : List Chain) :
    (∀ chain ∈ (renderer.best count chains).1, chain ∈ chains) ∧
    ((renderer.best count chains).1.Pairwise fun first second =>
      first.rankKey (renderer.textOf first) < second.rankKey (renderer.textOf second)) ∧
    ((renderer.best count chains).1.map renderer.textOf).Nodup ∧
    (renderer.best count chains).1.length ≤ count ∧
    (∀ chain ∈ (renderer.best count chains).1,
      chains.find? (fun other => renderer.textOf other = renderer.textOf chain) = some chain) ∧
    ∀ chain ∈ chains, renderer.textOf chain ∉ (renderer.best count chains).1.map renderer.textOf →
      (renderer.best count chains).1.length = count ∧
      ∃ first,
        chains.find? (fun other => renderer.textOf other = renderer.textOf chain) = some first ∧
        ∀ shown ∈ (renderer.best count chains).1,
          shown.rankKey (renderer.textOf shown) < first.rankKey (renderer.textOf first) := by
  have chosenOnes := map_ofChain_chosen renderer.textOf count chains
  rw [← reached.isFor.best_eq] at chosenOnes
  generalize (renderer.best count chains).1 = best at chosenOnes ⊢
  have increasing := chosen_increasing count (chains.map (ofChain renderer.textOf))
  have unique := nodup_chosen count (chains.map (ofChain renderer.textOf))
  have isChosen : ∀ chain ∈ best, ofChain renderer.textOf chain ∈
      chosen count (chains.map (ofChain renderer.textOf)) := by
    intro chain isShown
    rw [← chosenOnes]
    exact List.mem_map_of_mem isShown
  have isFirst : ∀ chain ∈ best,
      chains.find? (fun other => renderer.textOf other = renderer.textOf chain) = some chain := by
    intro chain isShown
    exact find?_ofChain (find?_of_mem_chosen (isChosen chain isShown))
  rw [← chosenOnes] at increasing unique
  refine ⟨?_, ?_, ?_, ?_, isFirst, ?_⟩
  · intro chain isShown
    exact List.mem_of_find?_eq_some (isFirst chain isShown)
  · rw [Increasing, List.pairwise_map] at increasing
    exact increasing.imp precedes_iff_key_lt.1
  · rwa [List.map_map] at unique
  · rw [← List.length_map (ofChain renderer.textOf), chosenOnes, chosen, List.length_take]
    exact Nat.min_le_left _ _
  · intro chain isThere absent
    have missing : (ofChain renderer.textOf chain).text ∉
        (chosen count (chains.map (ofChain renderer.textOf))).map RankedChain.text := by
      rwa [← chosenOnes, List.map_map]
    obtain ⟨full, first, found, after⟩ :=
      beyond_chosen (List.mem_map_of_mem isThere) missing
    have same : first = ofChain renderer.textOf first.chain := by
      obtain ⟨chain, -, rfl⟩ := List.mem_map.1 (List.mem_of_find?_eq_some found)
      rfl
    refine ⟨?_, first.chain, find?_ofChain found, ?_⟩
    · rwa [← chosenOnes, List.length_map] at full
    · intro shown isShown
      have before := after _ (isChosen shown isShown)
      rw [same] at before
      exact precedes_iff_key_lt.1 before

/-- A box in reach of the cursor. -/
def boxValue : Binding := ⟨"box", ⟨0⟩, .localVariable, false⟩

/-- The box's method `goal`, which has overloads. -/
def goalCall (params : List Parameter) : Chain :=
  ⟨boxValue, [⟨Member.ofMethod ⟨0⟩ "goal" params ⟨3⟩, ⟨0⟩⟩], ⟨3⟩⟩

def spareGoal : Chain := ⟨boxValue, [⟨Member.ofField ⟨0⟩ "spare" ⟨3⟩, ⟨0⟩⟩], ⟨3⟩⟩

/-- Two overloads that take an argument of the same name, and a field. -/
def overloads : List Chain :=
  [goalCall [⟨some "n", ⟨4⟩⟩], goalCall [⟨some "n", ⟨5⟩⟩], spareGoal]

/-- A renderer that has ranked and written chains before. -/
def usedRenderer : Renderer :=
  (((fresh Search.boxArena ImportScope.empty true).best 5 overloads).2.render spareGoal).2

/-- With room for one chain the field is chosen, and the overloads, which have one text, are
cut off. -/
theorem best_is_reference_overloads :
    (usedRenderer.best 1 overloads).1 = [spareGoal] ∧
    ∃ first,
      overloads.find? (fun other => usedRenderer.textOf other =
        usedRenderer.textOf (goalCall [⟨some "n", ⟨5⟩⟩])) = some first ∧
      ∀ shown ∈ (usedRenderer.best 1 overloads).1,
        shown.rankKey (usedRenderer.textOf shown) < first.rankKey (usedRenderer.textOf first) := by
  have reached : Reached Search.boxArena ImportScope.empty true usedRenderer :=
    (Reached.fresh.best 5 overloads).render spareGoal
  obtain ⟨-, -, -, -, -, beyond⟩ := best_is_reference reached 1 overloads
  refine ⟨by decide, (beyond (goalCall [⟨some "n", ⟨5⟩⟩]) (by decide) (by decide)).2⟩

end Renderer

end ChainCompletion
