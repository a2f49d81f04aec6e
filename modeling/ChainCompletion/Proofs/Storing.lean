/-
# Proofs.Storing -- questions only ever store

Whatever is asked about types and declarations, and whether the types are known or not, the
arena after the question comes from the one before it by storing shapes
(`TypeArena.StoresTo`).  So whatever storing keeps is kept by every question: the numbers
of all types (`StoresTo.growsTo`), and that no shape is stored twice (`StoresTo.nodup`).
-/
import ChainCompletion.Declarations.Assignability
import ChainCompletion.Declarations.Members
import ChainCompletion.Proofs.ArenaGrowth

namespace ChainCompletion

set_option autoImplicit false

namespace TypeArena

/-- Whether the second arena comes from the first by storing shapes. -/
inductive StoresTo : TypeArena → TypeArena → Prop
  | refl (arena : TypeArena) : StoresTo arena arena
  | store {before after : TypeArena} (earlier : StoresTo before after) (shape : TypeShape) :
      StoresTo before (after.store shape).2

namespace StoresTo

variable {first second third before after : TypeArena}

theorem trans (early : first.StoresTo second) (late : second.StoresTo third) :
    first.StoresTo third := by
  induction late with
  | refl => exact early
  | store _ shape ih => exact ih.store shape

theorem growsTo (stores : before.StoresTo after) : before.GrowsTo after := by
  induction stores with
  | refl => exact GrowsTo.refl _
  | store _ shape ih => exact ih.trans (store_growsTo _ shape)

theorem nodup (stores : before.StoresTo after) (once : before.shapes.values.Nodup) :
    after.shapes.values.Nodup := by
  induction stores with
  | refl => exact once
  | store _ shape ih => exact Pool.nodup_add ih shape

end StoresTo

/-- Questions asked one after the other store what each of them stores. -/
theorem threadMap_storesTo {α β : Type} {ask : TypeArena → α → β × TypeArena}
    (each : ∀ (arena : TypeArena) item, arena.StoresTo (ask arena item).2) (arena : TypeArena)
    (items : List α) : arena.StoresTo (threadMap ask arena items).2 :=
  @threadMap_keeps _ _ _ (fun after => arena.StoresTo after) _ items
    (fun item _ after earlier => earlier.trans (each after item)) _ (StoresTo.refl arena)

/-! ## Operations of an arena -/

theorem store_storesTo (arena : TypeArena) (shape : TypeShape) :
    arena.StoresTo (arena.store shape).2 :=
  (StoresTo.refl arena).store shape

theorem addDims_storesTo (arena : TypeArena) (type : TypeId) (dims : Nat) :
    arena.StoresTo (arena.addDims type dims).2 := by
  rw [addDims]
  split
  · exact StoresTo.refl _
  · exact store_storesTo _ _

theorem component?_storesTo (arena : TypeArena) (type : TypeId) :
    arena.StoresTo (arena.component? type).2 := by
  rw [component?]
  split
  · exact StoresTo.refl _
  · split
    · exact StoresTo.refl _
    · exact store_storesTo _ _

theorem elementType_storesTo (arena : TypeArena) (type : TypeId) :
    arena.StoresTo (arena.elementType type).2 := by
  rw [elementType]
  split
  · exact StoresTo.refl _
  · split
    · exact StoresTo.refl _
    · exact store_storesTo _ _

theorem replaceWithin_storesTo (table : List (TypeId × TypeId)) (depth : Nat) (arena : TypeArena)
    (type : TypeId) : arena.StoresTo (replaceWithin table depth arena type).2 := by
  induction depth generalizing arena type with
  | zero => exact StoresTo.refl _
  | succ depth ih =>
      rw [replaceWithin]
      split
      · exact StoresTo.refl _
      · next shape found =>
          have element := elementType_storesTo arena type
          generalize arena.elementType type = result at element ⊢
          obtain ⟨entry, after⟩ := result
          simp only
          split
          · split
            · exact element
            · exact element.trans (addDims_storesTo _ _ _)
          · split
            · exact element
            · exact element.trans ((threadMap_storesTo ih _ _).store _)

theorem instantiate_storesTo (params args : List TypeId) (arena : TypeArena) (type : TypeId) :
    arena.StoresTo (arena.instantiate params args type).2 := by
  rw [instantiate]
  split
  · exact StoresTo.refl _
  · exact replaceWithin_storesTo _ _ _ _

end TypeArena

/-! ## Questions about declarations -/

namespace Declarations

open TypeArena

variable (decls : Declarations)

theorem parents_storesTo (arena : TypeArena) (shape : TypeShape) :
    arena.StoresTo (decls.parents arena shape).2 := by
  rw [parents]
  split
  · exact StoresTo.refl _
  · exact threadMap_storesTo (fun arena type => instantiate_storesTo _ _ arena type) _ _

theorem lineageFrom_storesTo (visits : Nat) (arena : TypeArena) (seen : List String)
    (waiting : List TypeId) :
    arena.StoresTo (decls.lineageFrom visits arena seen waiting).2 := by
  induction visits generalizing arena seen waiting with
  | zero => cases waiting <;> exact StoresTo.refl _
  | succ visits ih =>
      cases waiting with
      | nil => exact StoresTo.refl _
      | cons type waiting =>
          rw [lineageFrom]
          split
          · exact StoresTo.refl _
          · next shape found =>
              have above := decls.parents_storesTo arena shape
              have rest := ih (decls.parents arena shape).2 (shape.name :: seen)
                (waiting ++ (decls.parents arena shape).1)
              split
              · exact ih _ _ _
              · split
                · exact StoresTo.refl _
                · simp only
                  split <;> next walked => exact above.trans (by rwa [walked] at rest)

theorem lineage_storesTo (arena : TypeArena) (type : TypeId) :
    arena.StoresTo (decls.lineage arena type).2 :=
  decls.lineageFrom_storesTo _ _ _ _

theorem permits_storesTo (arena : TypeArena) (site : CallSite) (declaring : String)
    (visibility : Visibility) : arena.StoresTo (decls.permits arena site declaring visibility).2 := by
  cases visibility with
  | everywhere => exact StoresTo.refl _
  | packageOnly => exact StoresTo.refl _
  | outermostOnly => exact StoresTo.refl _
  | packageAndHeirs =>
      rw [permits]
      split
      · exact StoresTo.refl _
      · rw [inheritsFrom]
        split
        · exact StoresTo.refl _
        · next enclosing given =>
            have stored := store_storesTo arena ⟨.classType, enclosing, [], 0⟩
            have walked := decls.lineage_storesTo (arena.classType enclosing []).2
              (arena.classType enclosing []).1
            simp only
            split <;> next result => exact stored.trans (by rwa [result] at walked)

theorem memberOf_storesTo (site : CallSite) (params : List TypeId) (owner : TypeId)
    (shape : TypeShape) (hidden : List Signature) (arena : TypeArena) (decl : MemberDecl) :
    arena.StoresTo (decls.memberOf site params owner shape hidden arena decl).2 := by
  have types := threadMap_storesTo
    (fun arena type => instantiate_storesTo params shape.args arena type) arena
    (decl.params.map (·.type))
  rw [memberOf]
  simp only
  split
  · exact types
  · exact (types.trans (instantiate_storesTo _ _ _ _)).trans (decls.permits_storesTo _ _ _ _)

theorem ownMembers_storesTo (site : CallSite) (hidden : List Signature) (arena : TypeArena)
    (owner : TypeId) : arena.StoresTo (decls.ownMembers site hidden arena owner).2 := by
  rw [ownMembers]
  split
  · exact StoresTo.refl _
  · split
    · exact StoresTo.refl _
    · exact threadMap_storesTo (decls.memberOf_storesTo site _ _ _ hidden) _ _

theorem gatherMembers_storesTo (site : CallSite) (hidden : List Signature) (arena : TypeArena)
    (owners : List TypeId) : arena.StoresTo (decls.gatherMembers site hidden arena owners).2 := by
  induction owners generalizing hidden arena with
  | nil => exact StoresTo.refl _
  | cons owner owners ih =>
      rw [gatherMembers]
      exact (decls.ownMembers_storesTo site hidden arena owner).trans (ih _ _)

theorem members_storesTo (arena : TypeArena) (type : TypeId) (site : CallSite) :
    arena.StoresTo (decls.members arena type site).2 := by
  have walked := decls.lineage_storesTo arena type
  rw [members]
  split
  · exact StoresTo.refl _
  · split
    · exact store_storesTo _ _
    · split
      · exact StoresTo.refl _
      · split
        · next result => rwa [result] at walked
        · next result =>
            rw [result] at walked
            exact walked.trans (decls.gatherMembers_storesTo _ _ _ _)

theorem reaches_storesTo (arena : TypeArena) (source goal : TypeId) (goalName : String) :
    arena.StoresTo (decls.reaches arena source goal goalName).2 := by
  have walked := decls.lineage_storesTo arena source
  rw [reaches]
  split
  · next result => rwa [result] at walked
  · next result =>
      rw [result] at walked
      split
      · exact walked
      · exact walked

theorem accepts_storesTo (arena : TypeArena) (source target : TypeId) :
    arena.StoresTo (decls.accepts arena source target).2 := by
  rw [accepts]
  split
  · exact StoresTo.refl _
  · exact StoresTo.refl _
  · split
    · exact StoresTo.refl _
    · split
      · exact StoresTo.refl _
      · split
        · exact StoresTo.refl _
        · exact ((elementType_storesTo _ _).trans (elementType_storesTo _ _)).trans
            (decls.reaches_storesTo _ _ _ _)

/-- An answer about assignability is about known types. -/
theorem knows_of_accepts {arena : TypeArena} {source target : TypeId} {answer : Bool}
    (answered : (decls.accepts arena source target).1 = .ok answer) :
    arena.Knows source ∧ arena.Knows target := by
  rw [accepts] at answered
  split at answered
  · simp at answered
  · simp at answered
  · next found found' => exact ⟨knows_of_shape? found, knows_of_shape? found'⟩

end Declarations

end ChainCompletion
