/-
# Proofs.DiscoveryOrder -- ranking and the order in which chains were found

Of the chains with one text ranking keeps the first, and this one's key decides the place of
the text (`rankedTexts`).  So it matters in which order chains were found, but only where chains
with one text have different keys: the texts come in the same order for every order of the
chains exactly if, of two texts, the same one is ahead whichever chains stand for them
(`RankedChain.Settled`).

A text shows how many accesses it goes through, as each starts with a dot or a bracket, and a
snippet shows how many arguments, as each has its placeholder.  Where names do not hide this
(`Chain.Legible`) and a text does not leave open which part of it is the root, chains with one
snippet have one key.  For clients without placeholders the arguments are not in the text, and
overloads that take different numbers of them are ranked by the one that was found first
(`Renderer.bestTexts_perm_iff`).
-/
import ChainCompletion.Proofs.BestChains
import ChainCompletion.Proofs.SnippetReading

namespace ChainCompletion

open Fragment

set_option autoImplicit false

namespace RankedChain

variable {text : Chain → String} {chains others : List Chain} {first second : Chain}

/-- Whether the same one of two texts is ahead, whichever chains stand for them. -/
def Settled (text : Chain → String) (chains : List Chain) : Prop :=
  ∀ first ∈ chains, ∀ second ∈ chains, ∀ first' ∈ chains, ∀ second' ∈ chains,
    text first' = text first → text second' = text second → text first ≠ text second →
    first.rankKey (text first) < second.rankKey (text second) →
    first'.rankKey (text first') < second'.rankKey (text second')

/-- Texts come in the order of the keys of chains that have them. -/
theorem rankedTexts_pairwise (text : Chain → String) (chains : List Chain) :
    (rankedTexts text chains).Pairwise fun early late =>
      ∃ first ∈ chains, ∃ second ∈ chains, text first = early ∧ text second = late ∧
        first.rankKey (text first) < second.rankKey (text second) := by
  rw [rankedTexts, List.pairwise_map]
  refine (inOrder_increasing (nodup_distinctTexts _)).imp_of_mem ?_
  intro early late isEarly isLate before
  obtain ⟨first, isFirst, rfl⟩ := exists_ofChain isEarly
  obtain ⟨second, isSecond, rfl⟩ := exists_ofChain isLate
  exact ⟨first, isFirst, second, isSecond, rfl, rfl, precedes_iff_key_lt.1 before⟩

/-- If it is settled which text is ahead, the order of the chains does not matter. -/
theorem Settled.rankedTexts_eq (settled : Settled text chains) (perm : others.Perm chains) :
    rankedTexts text others = rankedTexts text chains := by
  have here := rankedTexts_pairwise text chains
  have there := rankedTexts_pairwise text others
  simp only [perm.mem_iff] at there
  refine List.Perm.eq_of_pairwise ?_ there here ?_
  · rintro early late - - ⟨first, isFirst, second, isSecond, rfl, rfl, before⟩
      ⟨second', isSecond', first', isFirst', same', same, after⟩
    by_contra differ
    exact lt_asymm after
      (settled first isFirst second isSecond first' isFirst' second' isSecond' same same' differ
        before)
  · rw [List.perm_ext_iff_of_nodup (nodup_rankedTexts _ _) (nodup_rankedTexts _ _)]
    intro wanted
    rw [mem_rankedTexts, mem_rankedTexts]
    simp only [perm.mem_iff]

/-- Two chains in front stand for their texts, so the one with the smaller key is ahead. -/
theorem rankedTexts_front (differ : text first ≠ text second)
    (before : first.rankKey (text first) < second.rankKey (text second)) (rest : List Chain) :
    (rankedTexts text (first :: second :: rest)).Pairwise fun early late =>
      ¬(early = text second ∧ late = text first) := by
  have isFirst : ofChain text first ∈
      distinctTexts ((first :: second :: rest).map (ofChain text)) := by
    rw [mem_distinctTexts, find?_sharesPlace]
    simp [ofChain]
  have isSecond : ofChain text second ∈
      distinctTexts ((first :: second :: rest).map (ofChain text)) := by
    rw [mem_distinctTexts, find?_sharesPlace]
    simp [ofChain, differ]
  rw [rankedTexts, List.pairwise_map]
  refine (inOrder_increasing (nodup_distinctTexts _)).imp_of_mem ?_
  rintro early late isEarly isLate isAhead ⟨asSecond, asFirst⟩
  have unique := List.inj_on_of_nodup_map
    (nodup_distinctTexts ((first :: second :: rest).map (ofChain text)))
  rw [unique ((perm_inOrder _).mem_iff.1 isEarly) isSecond asSecond,
    unique ((perm_inOrder _).mem_iff.1 isLate) isFirst asFirst, precedes_iff_key_lt] at isAhead
  exact lt_asymm before isAhead

/-- Two chains of a list can be put in front. -/
theorem perm_front (isFirst : first ∈ chains) (isSecond : second ∈ chains)
    (differ : second ≠ first) :
    (first :: second :: (chains.erase first).erase second).Perm chains := by
  have isLeft : second ∈ chains.erase first := (List.mem_erase_of_ne differ).2 isSecond
  exact ((List.perm_cons_erase isLeft).symm.cons first).trans (List.perm_cons_erase isFirst).symm

/-- If the order of the chains does not matter, it is settled which text is ahead. -/
theorem settled_of_rankedTexts_eq
    (same : ∀ others : List Chain, others.Perm chains →
      rankedTexts text others = rankedTexts text chains) :
    Settled text chains := by
  intro first isFirst second isSecond first' isFirst' second' isSecond' asFirst asSecond differ
    before
  have differ' : text first' ≠ text second' := by rwa [asFirst, asSecond]
  have apart : second ≠ first := fun equal => differ (by rw [equal])
  have apart' : first' ≠ second' := fun equal => differ' (by rw [equal])
  by_contra notBefore
  have after : second'.rankKey (text second') < first'.rankKey (text first') := by
    refine lt_of_le_of_ne (not_lt.1 notBefore) ?_
    intro equal
    exact differ'.symm (congrArg (fun key => (ofLex (ofLex key).2).2) equal)
  -- put in front, each pair decides the place of the two texts in the one list
  have early := rankedTexts_front differ before ((chains.erase first).erase second)
  have late := rankedTexts_front differ'.symm after ((chains.erase second').erase first')
  rw [same _ (perm_front isFirst isSecond apart)] at early
  rw [same _ (perm_front isSecond' isFirst' apart')] at late
  rw [asFirst, asSecond] at late
  have : Std.Symm fun one other => ¬(one = text second ∧ other = text first) ∧
      ¬(one = text first ∧ other = text second) :=
    ⟨fun one other ⟨notEarly, notLate⟩ =>
      ⟨fun ⟨this, that⟩ => notLate ⟨that, this⟩, fun ⟨this, that⟩ => notEarly ⟨that, this⟩⟩⟩
  have neither := (early.and late).forall (mem_rankedTexts.2 ⟨first, isFirst, rfl⟩)
    (mem_rankedTexts.2 ⟨second, isSecond, rfl⟩) differ
  exact neither.2 ⟨rfl, rfl⟩

/-- Where chains with one text have one key, it is settled which text is ahead. -/
theorem settled_of_same_key
    (same : ∀ first ∈ chains, ∀ second ∈ chains, text first = text second →
      first.length = second.length ∧ first.paramCount = second.paramCount) :
    Settled text chains := by
  have key : ∀ first ∈ chains, ∀ second ∈ chains, text first = text second →
      first.rankKey (text first) = second.rankKey (text second) := by
    intro first isFirst second isSecond equal
    obtain ⟨length, count⟩ := same first isFirst second isSecond equal
    rw [Chain.rankKey, Chain.rankKey, length, count, equal]
  intro first isFirst second isSecond first' isFirst' second' isSecond' asFirst asSecond _ before
  rwa [key first' isFirst' first isFirst asFirst, key second' isSecond' second isSecond asSecond]

end RankedChain

/-! ## What texts show -/

/-- Whether a character starts an access. -/
def opensAccess (c : Char) : Bool := c = '.' || c = '['

/-- Whether the text of an access shows where it starts and what is to be filled in. -/
structure Access.Legible (access : Access) : Prop where
  named : access.member.kind ≠ .arrayElement → access.member.name.toList.any opensAccess = false
  bare : access.member.kind ≠ .method → access.member.params = []

instance (access : Access) : Decidable access.Legible :=
  decidable_of_iff ((access.member.kind ≠ .arrayElement →
      access.member.name.toList.any opensAccess = false) ∧
      (access.member.kind ≠ .method → access.member.params = []))
    ⟨fun ⟨named, bare⟩ => ⟨named, bare⟩, fun legible => ⟨legible.named, legible.bare⟩⟩

/-- Whether all accesses of a chain are legible. -/
def Chain.Legible (chain : Chain) : Prop := ∀ access ∈ chain.accesses, access.Legible

instance (chain : Chain) : Decidable chain.Legible :=
  inferInstanceAs (Decidable (∀ access ∈ chain.accesses, access.Legible))

/-- Between arguments there are commas only. -/
theorem Fragment.plain_commaSeparated {α : Type} (name : α → List Char) (arguments : List α) :
    ∀ c ∈ plain (commaSeparated (arguments.map fun argument => [.placeholder (name argument)])),
      opensAccess c = false := by
  induction arguments with
  | nil => simp [commaSeparated, plain]
  | cons argument later ih =>
      cases later with
      | nil => simp [commaSeparated, plain]
      | cons next later =>
          intro c isThere
          rw [List.map_cons, List.map_cons, commaSeparated, plain_append, List.mem_append] at isThere
          · rcases isThere with inName | inRest
            · simp [plain] at inName
            · rw [plain, List.mem_append] at inRest
              rcases inRest with inComma | inLater
              · rw [show ", ".toList = [',', ' '] from rfl] at inComma
                simp only [List.mem_cons, List.not_mem_nil, or_false] at inComma
                rcases inComma with rfl | rfl <;> decide
              · exact ih c (by rwa [List.map_cons])
          · simp

namespace Access

variable {arena : TypeArena} {access : Access} {accesses : List Access}

/-- A legible access starts with its mark, and has no other. -/
theorem Legible.plain_fragments (legible : access.Legible) (arena : TypeArena) (indices : Nat) :
    ∃ tail, plain (access.fragments arena indices) =
        (if access.member.kind = .arrayElement then '[' else '.') :: tail ∧
      ∀ c ∈ tail, opensAccess c = false := by
  have named : access.member.kind ≠ .arrayElement →
      ∀ c ∈ access.member.name.toList, opensAccess c = false := by
    intro isNamed c isThere
    simpa using List.any_eq_false.1 (legible.named isNamed) c isThere
  rw [fragments]
  cases kind : access.member.kind with
  | field =>
      exact ⟨access.member.name.toList, by simp [plain], named (by simp [kind])⟩
  | method =>
      let arguments := access.member.params.map fun param =>
        [placeholder (param.shownName arena).toList]
      refine ⟨access.member.name.toList ++ '(' :: (plain (commaSeparated arguments) ++ [')']),
        by simp [plain, arguments], ?_⟩
      intro c isThere
      simp only [List.mem_append, List.mem_cons, List.not_mem_nil, or_false] at isThere
      rcases isThere with inName | rfl | inside | rfl
      · exact named (by simp [kind]) c inName
      · decide
      · exact plain_commaSeparated (fun param : Parameter => (param.shownName arena).toList) _ c
          inside
      · decide
  | arrayElement =>
      refine ⟨[']'], by simp [plain], ?_⟩
      intro c isThere
      rw [List.mem_singleton.1 isThere]
      decide

/-- Legible accesses in a row have one mark each. -/
theorem countP_plain (legible : ∀ access ∈ accesses, access.Legible) (indices : Nat) :
    (plain (fragmentsFrom arena indices accesses)).countP opensAccess = accesses.length := by
  induction accesses generalizing indices with
  | nil => rfl
  | cons access later ih =>
      obtain ⟨tail, written, unmarked⟩ :=
        (legible access List.mem_cons_self).plain_fragments arena indices
      have rest := ih (fun access isThere => legible access (List.mem_cons_of_mem _ isThere))
        (access.indicesAfter indices)
      have none : tail.countP opensAccess = 0 :=
        List.countP_eq_zero.2 fun c isThere => by simp [unmarked c isThere]
      have mark : opensAccess (if access.member.kind = .arrayElement then '[' else '.') = true := by
        split <;> decide
      rw [fragmentsFrom, plain_append, List.countP_append, rest, written,
        List.countP_cons_of_pos mark, none, List.length_cons]
      omega

/-- Of the places to fill in, those of array indices show as brackets, and the others are
arguments. -/
theorem count_plain (legible : ∀ access ∈ accesses, access.Legible) (indices : Nat) :
    (plain (fragmentsFrom arena indices accesses)).count '[' +
        accesses.foldr (fun access count => access.member.params.length + count) 0 =
      accesses.foldr (fun access count => access.holeCount + count) 0 := by
  induction accesses generalizing indices with
  | nil => rfl
  | cons access later ih =>
      have here := legible access List.mem_cons_self
      obtain ⟨tail, written, unmarked⟩ := here.plain_fragments arena indices
      have rest := ih (fun access isThere => legible access (List.mem_cons_of_mem _ isThere))
        (access.indicesAfter indices)
      have none : tail.count '[' = 0 := by
        rw [List.count_eq_zero]
        intro isThere
        exact absurd (unmarked _ isThere) (by decide)
      have holes : (plain (access.fragments arena indices)).count '[' +
          access.member.params.length = access.holeCount := by
        have bare := here.bare
        rw [written, List.count_cons, none, holeCount]
        cases kind : access.member.kind with
        | field => simp [bare (by simp [kind])]
        | method => simp
        | arrayElement => simp [bare (by simp [kind])]
      rw [fragmentsFrom, plain_append, List.count_append, List.foldr_cons, List.foldr_cons]
      omega

end Access

namespace Renderer

open RankedChain Snippet

variable {arena : TypeArena} {scope : ImportScope} {snippets : Bool} {chains : List Chain}
  {first second : Chain}

/-- How the root of a chain is written. -/
def rootText (arena : TypeArena) (scope : ImportScope) (chain : Chain) : String :=
  ((fresh arena scope true).spellRoot chain.root).1.text

/-- Chains with one text have the same plain text, and as snippets the same number of
placeholders. -/
theorem fragments_of_same_text
    (same : chainText arena scope snippets first = chainText arena scope snippets second) :
    plain (fragmentsOf arena scope first) = plain (fragmentsOf arena scope second) ∧
      (snippets = true → (names (fragmentsOf arena scope first)).length =
        (names (fragmentsOf arena scope second)).length) := by
  rw [chainText, chainText, insertText_eq, insertText_eq, String.ofList_inj] at same
  cases snippets with
  | false => exact ⟨same, fun snippets => by cases snippets⟩
  | true =>
      have read : meant 0 (fragmentsOf arena scope first) =
          meant 0 (fragmentsOf arena scope second) := by
        refine Option.some.inj ?_
        rw [← read_snippetFrom, ← read_snippetFrom]
        exact congrArg Snippet.read same
      have plainly := congrArg plainText read
      have holes := congrArg (fun pieces => (placeholders pieces).length) read
      simp only [placeholders_meant, List.length_zip, List.length_range', Nat.min_self] at holes
      rw [plainText_meant, plainText_meant] at plainly
      exact ⟨plainly, fun _ => holes⟩

theorem length_names_fragmentsOf (chain : Chain) :
    (names (fragmentsOf arena scope chain)).length = chain.holeCount := by
  have holes : names (fragmentsOf arena scope chain) =
      (chain.holeNames arena).map String.toList :=
    Access.names_fragmentsFrom arena 0 chain.accesses
  rw [holes, List.length_map]
  exact Access.length_holeNames arena 0 chain.accesses

/-- Legible chains with one text and the same root are equally long, and as snippets take
equally many arguments. -/
theorem same_key_of_same_text (legible : first.Legible) (legible' : second.Legible)
    (root : rootText arena scope first = rootText arena scope second)
    (same : chainText arena scope snippets first = chainText arena scope snippets second) :
    first.length = second.length ∧
      (snippets = true → first.paramCount = second.paramCount) := by
  obtain ⟨plainly, holes⟩ := fragments_of_same_text same
  have accesses : plain (Access.fragmentsFrom arena 0 first.accesses) =
      plain (Access.fragmentsFrom arena 0 second.accesses) := by
    have whole : (rootText arena scope first).toList ++
          plain (Access.fragmentsFrom arena 0 first.accesses) =
        (rootText arena scope second).toList ++
          plain (Access.fragmentsFrom arena 0 second.accesses) := plainly
    rw [root] at whole
    exact List.append_cancel_left whole
  constructor
  · rw [Chain.length, Chain.length, ← Access.countP_plain legible 0, accesses,
      Access.countP_plain legible' 0]
  · intro asSnippets
    have count := holes asSnippets
    rw [length_names_fragmentsOf, length_names_fragmentsOf, Chain.holeCount, Chain.holeCount,
      ← Access.count_plain legible 0, ← Access.count_plain legible' 0, accesses] at count
    exact Nat.add_left_cancel count

/-- The texts that are inserted for the best chains of a list. -/
def bestTexts (arena : TypeArena) (scope : ImportScope) (snippets : Bool) (count : Nat)
    (chains : List Chain) : List String :=
  let ranking := (fresh arena scope snippets).best count chains
  (threadMap inserted ranking.2 ranking.1).1

theorem bestTexts_eq (count : Nat) (chains : List Chain) :
    bestTexts arena scope snippets count chains =
      (rankedTexts (chainText arena scope snippets) chains).take count := by
  obtain ⟨best, after⟩ := (fresh_isFor arena scope snippets).best count chains
  have written : ∀ best : List Chain,
      (threadMap inserted ((fresh arena scope snippets).best count chains).2 best).1 =
        best.map (chainText arena scope snippets) := by
    intro best
    refine @threadMap_eq_map _ _ _ (IsFor · arena scope snippets) _ _ _ ?_ ?_ _ after
    · intro chain _ renderer right
      exact (right.render chain).2
    · intro chain _ renderer right
      exact congrArg ChainTexts.insertText (right.render chain).1
  have texts := congrArg (List.map RankedChain.text)
    (map_ofChain_chosen (chainText arena scope snippets) count chains)
  rw [List.map_map] at texts
  rw [bestTexts, written, best, rankedTexts, ← List.map_take]
  exact texts

/-- **When ranking ignores the order of discovery.**  The texts of the best chains are the same
for every order of the chains and every number asked for exactly if the same one of two texts
is ahead, whichever chains stand for them.  This is so for legible chains if those with one
text have the same root and, for clients without placeholders, take equally many arguments. -/
theorem bestTexts_perm_iff (arena : TypeArena) (scope : ImportScope) (snippets : Bool)
    (chains : List Chain) :
    ((∀ others : List Chain, others.Perm chains → ∀ count,
        bestTexts arena scope snippets count others =
          bestTexts arena scope snippets count chains) ↔
      Settled (chainText arena scope snippets) chains) ∧
    ((∀ chain ∈ chains, chain.Legible) →
      (∀ first ∈ chains, ∀ second ∈ chains,
        chainText arena scope snippets first = chainText arena scope snippets second →
          rootText arena scope first = rootText arena scope second ∧
            (snippets = true ∨ first.paramCount = second.paramCount)) →
      ∀ others : List Chain, others.Perm chains → ∀ count,
        bestTexts arena scope snippets count others =
          bestTexts arena scope snippets count chains) := by
  have ignored (settled : Settled (chainText arena scope snippets) chains) :
      ∀ others : List Chain, others.Perm chains → ∀ count,
        bestTexts arena scope snippets count others =
          bestTexts arena scope snippets count chains := by
    intro others perm count
    rw [bestTexts_eq, bestTexts_eq, settled.rankedTexts_eq perm]
  refine ⟨⟨?_, ignored⟩, ?_⟩
  · intro same
    refine settled_of_rankedTexts_eq ?_
    intro others perm
    have few := length_rankedTexts_le (chainText arena scope snippets) others
    rw [perm.length_eq] at few
    have whole := same others perm chains.length
    rwa [bestTexts_eq, bestTexts_eq, List.take_of_length_le few,
      List.take_of_length_le (length_rankedTexts_le _ _)] at whole
  · intro legible alike
    refine ignored (settled_of_same_key ?_)
    intro first isFirst second isSecond same
    obtain ⟨root, arguments⟩ := alike first isFirst second isSecond same
    obtain ⟨length, count⟩ :=
      same_key_of_same_text (legible first isFirst) (legible second isSecond) root same
    exact ⟨length, arguments.elim count id⟩

/-- As snippets, overloads with one text take equally many arguments. -/
theorem bestTexts_perm_iff_overloads :
    (∀ chain ∈ overloads, chain.Legible) ∧
    chainText Search.boxArena ImportScope.empty true (goalCall [⟨some "n", ⟨4⟩⟩]) =
      chainText Search.boxArena ImportScope.empty true (goalCall [⟨some "n", ⟨5⟩⟩]) ∧
    ∀ others : List Chain, others.Perm overloads → ∀ count,
      bestTexts Search.boxArena ImportScope.empty true count others =
        bestTexts Search.boxArena ImportScope.empty true count overloads := by
  have legible : ∀ chain ∈ overloads, chain.Legible := by decide
  have alike : ∀ first ∈ overloads, ∀ second ∈ overloads,
      chainText Search.boxArena ImportScope.empty true first =
        chainText Search.boxArena ImportScope.empty true second →
      rootText Search.boxArena ImportScope.empty first =
          rootText Search.boxArena ImportScope.empty second ∧
        (true = true ∨ first.paramCount = second.paramCount) := by decide
  exact ⟨legible, by decide,
    (bestTexts_perm_iff Search.boxArena ImportScope.empty true overloads).2 legible alike⟩

/-- In plain text an overload without arguments and one with an argument are both `box.goal()`,
and the one that was found first decides whether that comes before `box.spare`. -/
theorem bestTexts_depend_on_discovery :
    List.Perm [goalCall [⟨some "n", ⟨4⟩⟩], goalCall [], spareGoal]
      [goalCall [], goalCall [⟨some "n", ⟨4⟩⟩], spareGoal] ∧
    bestTexts Search.boxArena ImportScope.empty false 20
      [goalCall [], goalCall [⟨some "n", ⟨4⟩⟩], spareGoal] = ["box.goal()", "box.spare"] ∧
    bestTexts Search.boxArena ImportScope.empty false 20
      [goalCall [⟨some "n", ⟨4⟩⟩], goalCall [], spareGoal] = ["box.spare", "box.goal()"] := by
  decide

end Renderer

end ChainCompletion
