/-
# Proofs.ProposalTrees -- chains with one meaning are proposed alike

Two arenas may number the same types differently.  Chains of one and the other that have the
same meaning (`Alike`) are written with the same texts (`textsOf_of_alike`), since what is
shown of a type is told by its tree, and they have the same rank.  Choosing compares ranks
and texts only, so lists of such chains are thinned out, ordered and cut off in step
(`forall₂_chosen`), and the proposals for them are the same (`propose_of_alike`).
-/
import ChainCompletion.Proofs.Denotation
import ChainCompletion.Proofs.Proposals
import Mathlib.Data.List.Forall2

namespace ChainCompletion

open Denotes

set_option autoImplicit false

/-- The name shown for an argument. -/
def TreeParameter.shownName (param : TreeParameter) : String :=
  match param.name with
  | some name => name
  | none =>
      if canName param.type.suggestedName then String.ofList param.type.suggestedName
      else fallbackName

theorem shownName_eq {arena : TypeArena} (ordered : arena.Ordered) {param : Parameter}
    (known : Known arena param) : param.shownName arena = (meaning arena param).shownName := by
  obtain ⟨shape, found, same⟩ := TypeArena.shape?_eq_some ordered known
  obtain ⟨name, type⟩ := param
  have suggested : shape.suggestedName = (arena.tree type).suggestedName := by
    rw [same]
    rfl
  cases name with
  | some name => rfl
  | none =>
      rw [Parameter.shownName, TreeParameter.shownName]
      simp only [found, suggested]
      rfl

/-! ## Two arenas -/

/-- Whether things that mention types of two arenas have one meaning. -/
structure Alike {α β : Type} [Denotes α β] (first second : TypeArena) (thing other : α) :
    Prop where
  known : Known first thing
  known' : Known second other
  eq : meaning first thing = meaning second other

section Alike

variable {α β : Type} [Denotes α β] {first second : TypeArena}

/-- Lists that are alike are so entry by entry. -/
theorem Alike.forall₂ {things others : List α} (alike : Alike first second things others) :
    List.Forall₂ (Alike first second) things others := by
  obtain ⟨known, known', same⟩ := alike
  induction things generalizing others with
  | nil =>
      cases others with
      | nil => exact List.Forall₂.nil
      | cons other others => exact absurd same (by simp [meaning])
  | cons thing things ih =>
      cases others with
      | nil => exact absurd same (by simp [meaning])
      | cons other others =>
          rw [meaning_cons, meaning_cons, List.cons.injEq] at same
          obtain ⟨knownThing, knownRest⟩ := known_cons.1 known
          obtain ⟨knownOther, knownRest'⟩ := known_cons.1 known'
          exact List.Forall₂.cons ⟨knownThing, knownOther, same.1⟩ (ih knownRest knownRest' same.2)

/-- What follows from the meaning of each thing follows from the meaning of all. -/
theorem Alike.map_eq {ι : Type} {things others : List α}
    (alike : Alike first second things others) {make make' : α → ι} {value : β → ι}
    (agree : ∀ thing, Known first thing → make thing = value (meaning first thing))
    (agree' : ∀ other, Known second other → make' other = value (meaning second other)) :
    things.map make = others.map make' := by
  rw [map_eq_map_meaning fun thing isThere => agree thing (alike.known thing isThere),
    map_eq_map_meaning fun other isThere => agree' other (alike.known' other isThere), alike.eq]

end Alike

section Parts

variable {first second : TypeArena}

theorem Alike.member {access other : Access} (alike : Alike first second access other) :
    Alike first second access.member other.member :=
  ⟨alike.known.1, alike.known'.1, congrArg Prod.fst alike.eq⟩

theorem Alike.params {member other : Member} (alike : Alike first second member other) :
    Alike first second member.params other.params :=
  ⟨alike.known.2.1, alike.known'.2.1, congrArg TreeMember.params alike.eq⟩

theorem Alike.memberName {member other : Member} (alike : Alike first second member other) :
    member.name = other.name :=
  congrArg TreeMember.name alike.eq

theorem Alike.memberKind {member other : Member} (alike : Alike first second member other) :
    member.kind = other.kind :=
  congrArg TreeMember.kind alike.eq

theorem Alike.rootType {root other : Binding} (alike : Alike first second root other) :
    Alike first second root.type other.type :=
  ⟨alike.known, alike.known', congrArg TreeBinding.type alike.eq⟩

theorem Alike.isStatic {root other : Binding} (alike : Alike first second root other) :
    root.isStatic = other.isStatic :=
  congrArg (fun binding : TreeBinding => decide (binding.kind = .staticType)) alike.eq

theorem Alike.valueText {root other : Binding} (alike : Alike first second root other) :
    root.valueText = other.valueText :=
  congrArg (fun binding : TreeBinding =>
    if binding.needsThis then "this." ++ binding.name else binding.name) alike.eq

variable {chain other : Chain} (alike : Alike first second chain other)

include alike

theorem Alike.root : Alike first second chain.root other.root :=
  ⟨alike.known.1, alike.known'.1, congrArg TreeChain.root alike.eq⟩

theorem Alike.accesses : Alike first second chain.accesses other.accesses :=
  ⟨alike.known.2.1, alike.known'.2.1, congrArg TreeChain.accesses alike.eq⟩

theorem Alike.result : Alike first second chain.result other.result :=
  ⟨alike.known.2.2, alike.known'.2.2, congrArg TreeChain.result alike.eq⟩

end Parts

/-! ## Texts -/

section Texts

variable {first second : TypeArena} (ordered : first.Ordered) (ordered' : second.Ordered)

theorem indicesAfter_of_alike {access other : Access} (alike : Alike first second access other)
    (indices : Nat) : access.indicesAfter indices = other.indicesAfter indices := by
  rw [Access.indicesAfter, Access.indicesAfter, alike.member.memberKind]

theorem filterText_of_alike {access other : Access} (alike : Alike first second access other) :
    access.filterText = other.filterText := by
  rw [Access.filterText, Access.filterText, alike.member.memberKind, alike.member.memberName]

include ordered ordered'

theorem qualifiedName_of_alike {type other : TypeId} (alike : Alike first second type other) :
    first.qualifiedName type = second.qualifiedName other := by
  rw [TypeArena.qualifiedName_eq ordered alike.known, TypeArena.qualifiedName_eq ordered' alike.known']
  exact congrArg TypeTree.name alike.eq

theorem written_of_alike (style : NameStyle) {type other : TypeId}
    (alike : Alike first second type other) :
    first.written style type = second.written style other := by
  rw [TypeArena.written_eq ordered alike.known, TypeArena.written_eq ordered' alike.known']
  exact congrArg (TypeTree.written style) alike.eq

theorem fragments_of_alike {access other : Access} (alike : Alike first second access other)
    (indices : Nat) : access.fragments first indices = other.fragments second indices := by
  have arguments : (access.member.params.map fun param =>
        [Fragment.placeholder (param.shownName first).toList]) =
      other.member.params.map fun param =>
        [Fragment.placeholder (param.shownName second).toList] :=
    @Alike.map_eq _ _ _ _ _ _ _ _ alike.member.params _ _
      (fun param => [Fragment.placeholder param.shownName.toList])
      (fun param known => by rw [shownName_eq ordered known])
      (fun param known => by rw [shownName_eq ordered' known])
  rw [Access.fragments, Access.fragments, arguments, alike.member.memberKind,
    alike.member.memberName]

theorem label_of_alike {access other : Access} (alike : Alike first second access other)
    (indices : Nat) : access.label first indices = other.label second indices := by
  have params : (access.member.params.map fun param =>
        first.written .simple param.type ++ " " ++ param.shownName first) =
      other.member.params.map fun param =>
        second.written .simple param.type ++ " " ++ param.shownName second :=
    @Alike.map_eq _ _ _ _ _ _ _ _ alike.member.params _ _
      (fun param => param.type.written .simple ++ " " ++ param.shownName)
      (fun param known => by
        rw [shownName_eq ordered known, TypeArena.written_eq ordered known]
        rfl)
      (fun param known => by
        rw [shownName_eq ordered' known, TypeArena.written_eq ordered' known]
        rfl)
  rw [Access.label, Access.label, params, alike.member.memberKind, alike.member.memberName]

theorem fragmentsFrom_of_alike {accesses others : List Access}
    (alike : Alike first second accesses others) (indices : Nat) :
    Access.fragmentsFrom first indices accesses = Access.fragmentsFrom second indices others := by
  have each := alike.forall₂
  clear alike
  induction each generalizing indices with
  | nil => rfl
  | cons access accesses ih =>
      rw [Access.fragmentsFrom, Access.fragmentsFrom, fragments_of_alike ordered ordered' access,
        indicesAfter_of_alike access, ih]

theorem labelFrom_of_alike {accesses others : List Access}
    (alike : Alike first second accesses others) (indices : Nat) :
    Access.labelFrom first indices accesses = Access.labelFrom second indices others := by
  have each := alike.forall₂
  clear alike
  induction each generalizing indices with
  | nil => rfl
  | cons access accesses ih =>
      rw [Access.labelFrom, Access.labelFrom, label_of_alike ordered ordered' access,
        indicesAfter_of_alike access, ih]

theorem spellRoot_of_alike (scope : ImportScope) (snippets : Bool) {root other : Binding}
    (alike : Alike first second root other) :
    ((Renderer.fresh first scope snippets).spellRoot root).1 =
      ((Renderer.fresh second scope snippets).spellRoot other).1 := by
  rw [Renderer.fresh_spellRoot, Renderer.fresh_spellRoot, alike.isStatic, alike.valueText,
    qualifiedName_of_alike ordered ordered' alike.rootType]

/-- Chains with one meaning have the same texts. -/
theorem textsOf_of_alike (settings : Settings) (scope : ImportScope) {chain other : Chain}
    (alike : Alike first second chain other) :
    settings.textsOf first scope chain = settings.textsOf second scope other := by
  obtain ⟨-, after⟩ := (Renderer.fresh_isFor first scope settings.snippets).spellRoot chain.root
  obtain ⟨-, after'⟩ := (Renderer.fresh_isFor second scope settings.snippets).spellRoot other.root
  have filtered : chain.accesses.map Access.filterText = other.accesses.map Access.filterText :=
    List.forall₂_eq_eq_eq ▸ List.forall₂_map_left_iff.2 (List.forall₂_map_right_iff.2
      (alike.accesses.forall₂.imp fun _ _ => filterText_of_alike))
  simp only [Settings.textsOf, Renderer.textsOf, Renderer.render, Renderer.detail, Renderer.form,
    Chain.fragments, after.arena_eq, after'.arena_eq, after.snippets_eq, after'.snippets_eq,
    spellRoot_of_alike ordered ordered' scope settings.snippets alike.root,
    fragmentsFrom_of_alike ordered ordered' alike.accesses,
    labelFrom_of_alike ordered ordered' alike.accesses,
    written_of_alike ordered ordered' _ alike.result,
    written_of_alike ordered ordered' _ alike.root.rootType,
    qualifiedName_of_alike ordered ordered' alike.root.rootType, alike.root.isStatic, filtered]

end Texts

/-! ## Ranks -/

section Ranks

variable {first second : TypeArena} {chain other : Chain}

theorem length_of_alike (alike : Alike first second chain other) : chain.length = other.length :=
  alike.accesses.forall₂.length_eq

theorem paramCount_of_alike (alike : Alike first second chain other) :
    chain.paramCount = other.paramCount := by
  have each := alike.accesses.forall₂
  rw [Chain.paramCount, Chain.paramCount]
  generalize chain.accesses = accesses at each ⊢
  generalize other.accesses = accesses' at each ⊢
  induction each with
  | nil => rfl
  | cons access accesses ih =>
      rw [List.foldr_cons, List.foldr_cons, ih, access.member.params.forall₂.length_eq]

end Ranks

namespace RankedChain

/-- Whether two chains have the same rank: length, arguments and text. -/
structure SameRank (first second : RankedChain) : Prop where
  length : first.chain.length = second.chain.length
  paramCount : first.chain.paramCount = second.chain.paramCount
  text : first.text = second.text

theorem precedes_of_sameRank {first first' second second' : RankedChain}
    (same : SameRank first first') (same' : SameRank second second') :
    first.precedes second = first'.precedes second' := by
  rw [precedes, precedes, same.length, same'.length, same.paramCount, same'.paramCount, same.text,
    same'.text]

section InStep

variable {relation : RankedChain → RankedChain → Prop}
  (ranks : ∀ first second, relation first second → SameRank first second)
  {entries others : List RankedChain} {entry other : RankedChain}

include ranks

theorem forall₂_insertInOrder (related : relation entry other)
    (all : List.Forall₂ relation entries others) :
    List.Forall₂ relation (insertInOrder entry entries) (insertInOrder other others) := by
  induction all with
  | nil => exact List.Forall₂.cons related List.Forall₂.nil
  | cons head rest ih =>
      rw [insertInOrder, insertInOrder,
        precedes_of_sameRank (ranks _ _ related) (ranks _ _ head)]
      split
      · exact List.Forall₂.cons related (List.Forall₂.cons head rest)
      · exact List.Forall₂.cons head ih

theorem forall₂_inOrder (all : List.Forall₂ relation entries others) :
    List.Forall₂ relation (inOrder entries) (inOrder others) := by
  refine List.rel_foldl ?_ List.Forall₂.nil all
  intro sorted sorted' inStep entry other related
  exact forall₂_insertInOrder ranks related inStep

theorem forall₂_addNewText (all : List.Forall₂ relation entries others)
    (related : relation entry other) :
    List.Forall₂ relation (addNewText entries entry) (addNewText others other) := by
  have texts : (entries.any fun known => known.text = entry.text) =
      others.any fun known => known.text = other.text := by
    rw [(ranks _ _ related).text]
    clear related
    induction all with
    | nil => rfl
    | cons head rest ih => rw [List.any_cons, List.any_cons, ih, (ranks _ _ head).text]
  rw [addNewText, addNewText, texts]
  split
  · exact all
  · exact List.rel_append all (List.Forall₂.cons related List.Forall₂.nil)

theorem forall₂_distinctTexts (all : List.Forall₂ relation entries others) :
    List.Forall₂ relation (distinctTexts entries) (distinctTexts others) := by
  refine List.rel_foldl ?_ List.Forall₂.nil all
  intro kept kept' inStep entry other related
  exact forall₂_addNewText ranks inStep related

/-- Choosing goes in step for chains of the same ranks. -/
theorem forall₂_chosen (count : Nat) (all : List.Forall₂ relation entries others) :
    List.Forall₂ relation (chosen count entries) (chosen count others) :=
  List.forall₂_take count (forall₂_inOrder ranks (forall₂_distinctTexts ranks all))

end InStep

end RankedChain

/-- **Chains with one meaning are proposed alike**, whatever the numbers of their types. -/
theorem propose_of_alike {first second : TypeArena} (ordered : first.Ordered)
    (ordered' : second.Ordered) (settings : Settings) (scope : ImportScope)
    {chains others : List Chain} (alike : Alike first second chains others) :
    settings.propose first scope chains = settings.propose second scope others := by
  let relation : RankedChain → RankedChain → Prop := fun entry other =>
    Alike first second entry.chain other.chain ∧ entry.text = other.text
  have ranks : ∀ entry other, relation entry other → RankedChain.SameRank entry other :=
    fun entry other related =>
      ⟨length_of_alike related.1, paramCount_of_alike related.1, related.2⟩
  have entries : List.Forall₂ relation
      (chains.map fun chain => ⟨chain, (settings.textsOf first scope chain).insertText⟩)
      (others.map fun chain => ⟨chain, (settings.textsOf second scope chain).insertText⟩) := by
    rw [List.forall₂_map_left_iff, List.forall₂_map_right_iff]
    refine alike.forall₂.imp ?_
    intro chain other one
    exact ⟨one, by rw [textsOf_of_alike ordered ordered' settings scope one]⟩
  have chosen := RankedChain.forall₂_chosen ranks settings.maxResults entries
  have texts : (settings.shown first scope chains).map (settings.textsOf first scope) =
      (settings.shown second scope others).map (settings.textsOf second scope) := by
    rw [← List.forall₂_eq_eq_eq, Settings.shown, Settings.shown, List.map_map, List.map_map,
      List.forall₂_map_left_iff, List.forall₂_map_right_iff]
    refine chosen.imp ?_
    intro entry other related
    exact textsOf_of_alike ordered ordered' settings scope related.1
  rw [Settings.propose_eq, Settings.propose_eq, texts]

end ChainCompletion
