/-
# Proofs.ImportedNames -- which static roots are written with an imported type's name

A document that imports a type one by one gives the type its simple name.  Another type with
that simple name is then written in full, if it is in a package
(`ImportScope.Unambiguous.useOf_eq_conflict_iff`).  In full it has a dot, and a simple name has
none (`QualifiedName.dot_not_mem_simple`), so its text is not the imported type's.

A type outside every package has no other name than its simple one, and is said to be visible
under it whatever the document imports.  So the text of an imported type is also the text of a
type outside every package, and of no other (`Renderer.writes_imported_name_iff`).  Such a type
is then proposed under a name that means the imported one (`Renderer.loose_name_is_borrowed`).
-/
import ChainCompletion.Proofs.BestChains

namespace ChainCompletion

open Text

set_option autoImplicit false

/-! ## Dots in names -/

namespace QualifiedName

variable {name : String}

theorem dot_not_mem_simple (name : String) : '.' ∉ (simple name).toList := by
  have isPiece : (segments name).getLastD [] ∈ splitAtEach '.' name.toList := by
    rw [segments, splitAtEach, List.getLastD_cons]
    exact List.getLastD_mem_cons
  rw [simple, String.toList_ofList]
  exact not_mem_of_mem_splitAtEach isPiece

theorem simple_eq_self_iff : simple name = name ↔ '.' ∉ name.toList := by
  constructor
  · intro same
    rw [← same]
    exact dot_not_mem_simple name
  · exact simple_of_not_mem

/-- A name has a qualifier exactly if it has a dot. -/
theorem qualifier?_eq_none_iff : qualifier? name = none ↔ '.' ∉ name.toList := by
  constructor
  · intro unqualified
    have last : (splitPieces '.' name.toList).2 = [] := by
      cases later : (splitPieces '.' name.toList).2 with
      | nil => rfl
      | cons piece pieces => simp [qualifier?, segments, splitAtEach, later] at unqualified
    -- the only piece is the whole name
    have whole := joinWith_splitAtEach '.' name.toList
    rw [splitAtEach, last, joinWith] at whole
    rw [← whole]
    exact not_mem_of_mem_splitAtEach List.mem_cons_self
  · intro absent
    simp [qualifier?, segments, splitAtEach, splitPieces_of_not_mem absent]

end QualifiedName

open QualifiedName

/-! ## Names that are taken -/

namespace ImportScope

variable {scope : ImportScope} {name : String}

/-- Whether the simple name of a type has been given to another one by an import. -/
def Takes (scope : ImportScope) (name : String) : Prop :=
  ∃ type ∈ scope.types, type ≠ name ∧ simple type = simple name

/-- Whether no two imports of single types give the same simple name. -/
def Unambiguous (scope : ImportScope) : Prop :=
  (scope.types.map simple).Nodup

instance : Decidable scope.Unambiguous :=
  inferInstanceAs (Decidable (scope.types.map simple).Nodup)

theorem Unambiguous.eq_of_simple_eq (unambiguous : scope.Unambiguous) {first second : String}
    (isFirst : first ∈ scope.types) (isSecond : second ∈ scope.types)
    (same : simple first = simple second) : first = second :=
  List.inj_on_of_nodup_map unambiguous isFirst isSecond same

/-- Where no two imports give the same simple name, a name is in conflict exactly if it has a
qualifier and its simple name is another type's. -/
theorem Unambiguous.useOf_eq_conflict_iff (unambiguous : scope.Unambiguous) :
    scope.useOf name = .conflict ↔ '.' ∈ name.toList ∧ scope.Takes name := by
  rw [useOf]
  cases qualified : qualifier? name with
  | none =>
      have absent := qualifier?_eq_none_iff.1 qualified
      simp [absent]
  | some package =>
      have dotted : '.' ∈ name.toList := by
        by_contra absent
        rw [qualifier?_eq_none_iff.2 absent] at qualified
        cases qualified
      simp only [dotted, true_and]
      split_ifs with isImported isTaken isOpen
      · -- its own import is the only one with its simple name
        refine iff_of_false (by simp) ?_
        rintro ⟨type, isType, differs, same⟩
        exact differs (unambiguous.eq_of_simple_eq isType isImported same)
      · obtain ⟨type, isType, same⟩ := List.any_eq_true.1 isTaken
        refine iff_of_true rfl ⟨type, isType, ?_, of_decide_eq_true same⟩
        rintro rfl
        exact isImported isType
      all_goals
        refine iff_of_false (by simp) ?_
        rintro ⟨type, isType, -, same⟩
        exact isTaken (List.any_eq_true.2 ⟨type, isType, decide_eq_true same⟩)

/-- A type is written in full where its name is in conflict, and by its simple name elsewhere. -/
theorem text_spellStatic (scope : ImportScope) (name short : String) :
    (scope.spellStatic name short).text = if scope.useOf name = .conflict then name else short := by
  rw [spellStatic]
  cases scope.useOf name <;> rfl

/-- Where no two imports give the same simple name, an imported type is written by its own. -/
theorem Unambiguous.text_of_imported (unambiguous : scope.Unambiguous)
    (isImported : name ∈ scope.types) :
    (scope.spellStatic name (simple name)).text = simple name := by
  rw [text_spellStatic, if_neg]
  rw [unambiguous.useOf_eq_conflict_iff]
  rintro ⟨-, type, isType, differs, same⟩
  exact differs (unambiguous.eq_of_simple_eq isType isImported same)

/-- The text of an imported type is also that of the type outside every package with the same
simple name, and of no other. -/
theorem Unambiguous.text_eq_iff (unambiguous : scope.Unambiguous) {imported other : String}
    (isImported : imported ∈ scope.types) (differs : other ≠ imported) :
    (scope.spellStatic other (simple other)).text =
        (scope.spellStatic imported (simple imported)).text ↔ other = simple imported := by
  rw [unambiguous.text_of_imported isImported, text_spellStatic]
  split_ifs with conflict
  · exact Iff.rfl
  · constructor
    · intro same
      have loose : '.' ∉ other.toList := by
        intro dotted
        refine conflict (unambiguous.useOf_eq_conflict_iff.2 ⟨dotted, imported, isImported, ?_, ?_⟩)
        · exact differs.symm
        · exact same.symm
      rw [← same, simple_eq_self_iff.2 loose]
    · intro same
      rw [same]
      exact simple_eq_self_iff.2 (dot_not_mem_simple imported)

end ImportScope

/-! ## Roots -/

namespace Renderer

open ImportScope

variable {arena : TypeArena} {scope : ImportScope} {snippets : Bool} {renderer : Renderer}

/-- Whatever a renderer has been used for, a static root is written as the imports allow. -/
theorem Reached.spellRoot_static (reached : Reached arena scope snippets renderer)
    {root : Binding} (isStatic : root.isStatic = true) :
    (renderer.spellRoot root).1 =
      scope.spellStatic (arena.qualifiedName root.type)
        (simple (arena.qualifiedName root.type)) := by
  rw [(reached.isFor.spellRoot root).1, fresh_spellRoot, if_pos isStatic]

/-- **Who is written with an imported type's name.**  Let no two imports of single types give
the same simple name.  Then a type whose simple name an import has given to another one is not
in conflict exactly if it is outside every package.  And whatever a renderer has been used for
before, it writes another static root with the text of an imported one exactly if the other
one's whole name is the simple name of the imported one. -/
theorem writes_imported_name_iff (reached : Reached arena scope snippets renderer)
    (unambiguous : scope.Unambiguous) :
    (∀ name, scope.Takes name → (scope.useOf name ≠ .conflict ↔ '.' ∉ name.toList)) ∧
    ∀ imported other : Binding, imported.isStatic = true → other.isStatic = true →
      arena.qualifiedName imported.type ∈ scope.types →
      arena.qualifiedName other.type ≠ arena.qualifiedName imported.type →
      ((renderer.spellRoot other).1.text = (renderer.spellRoot imported).1.text ↔
        arena.qualifiedName other.type = simple (arena.qualifiedName imported.type)) := by
  constructor
  · intro name taken
    rw [Ne, unambiguous.useOf_eq_conflict_iff]
    simp [taken]
  · intro imported other isStatic otherStatic isImported differs
    rw [reached.spellRoot_static isStatic, reached.spellRoot_static otherStatic]
    exact unambiguous.text_eq_iff isImported differs

/-- The lists of two packages, and a list outside every package. -/
def listArena : TypeArena :=
  let arena := (TypeArena.empty.classType "java.util.List" []).2
  let arena := (arena.classType "org.other.List" []).2
  (arena.classType "List" []).2

/-- A document that imports the first of the lists. -/
def listScope : ImportScope := { ImportScope.empty with types := ["java.util.List"] }

/-- The static members of one of the lists. -/
def listRoot (index : Nat) : Binding := .ofStaticType "List" ⟨index⟩

/-- The empty list of one of the lists. -/
def emptyList (index : Nat) : Chain :=
  ⟨listRoot index, [⟨.ofField ⟨index⟩ "EMPTY" ⟨0⟩, ⟨index⟩⟩], ⟨0⟩⟩

/-- A renderer that has written the list outside every package before. -/
def listRenderer : Renderer := ((fresh listArena listScope true).render (emptyList 2)).2

/-- The other package's list does not get the name of the imported one. -/
theorem writes_imported_name_iff_packages :
    listScope.Unambiguous ∧ "java.util.List" ∈ listScope.types ∧
    listScope.Takes "org.other.List" ∧ listScope.useOf "org.other.List" = .conflict ∧
    (listRenderer.spellRoot (listRoot 1)).1.text ≠ (listRenderer.spellRoot (listRoot 0)).1.text := by
  have reached : Reached listArena listScope true listRenderer := Reached.fresh.render (emptyList 2)
  have unambiguous : listScope.Unambiguous := by decide
  have taken : listScope.Takes "org.other.List" := ⟨"java.util.List", by decide⟩
  obtain ⟨uses, texts⟩ := writes_imported_name_iff reached unambiguous
  refine ⟨unambiguous, by decide, taken, ?_, ?_⟩
  · by_contra kept
    exact (uses "org.other.List" taken).1 kept (by decide)
  · intro same
    have loose := (texts (listRoot 0) (listRoot 1) rfl rfl (by decide) (by decide)).1 same
    exact absurd loose (by decide)

/-- The list outside every package is called visible and gets the text of the imported one.
Of their chains only one is kept. -/
theorem loose_name_is_borrowed :
    listScope.Unambiguous ∧ "java.util.List" ∈ listScope.types ∧
    listArena.qualifiedName (listRoot 0).type = "java.util.List" ∧
    listArena.qualifiedName (listRoot 2).type = "List" ∧
    listScope.useOf "List" = .visible ∧
    ((fresh listArena listScope true).spellRoot (listRoot 2)).1.text =
      ((fresh listArena listScope true).spellRoot (listRoot 0)).1.text ∧
    ((fresh listArena listScope true).best 5 [emptyList 0, emptyList 2]).1 = [emptyList 0] := by
  decide

end Renderer

end ChainCompletion
