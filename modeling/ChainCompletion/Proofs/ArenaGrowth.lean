/-
# Proofs.ArenaGrowth -- what an arena has handed out stays

An arena is a list that only ever gets longer, so one arena comes after another
when it starts with all of its shapes (`GrowsTo`), and a shape stays the shape of its
type (`shape?_of_growsTo`).

Every operation leads to an arena that has grown.  A shape that is stored already
is found under its old number again (`store_of_growsTo`), so the component of an
array, once stored, keeps its number in every later arena
(`component?_of_growsTo`).
-/
import ChainCompletion.TypeArena.Basic

namespace ChainCompletion

set_option autoImplicit false

/-- A value that is in a pool is found under the number it was found under in any
pool that this one continues. -/
theorem Pool.add_of_isPrefix {α : Type} [DecidableEq α] {before after : Pool α} {value : α}
    (grows : (before.add value).2.values <+: after.values) :
    after.add value = ((before.add value).1, after) := by
  have present : (before.add value).2.values.findIdx? (· = value) =
      some (before.add value).1 := by
    rw [Pool.add]
    split
    · next number found => exact found
    · next absent => simp [List.findIdx?_append, absent, Pool.size]
  obtain ⟨later, continued⟩ := grows
  rw [Pool.add, ← continued, List.findIdx?_append, present]
  rfl

/-- A pool that holds no value twice never does. -/
theorem Pool.nodup_add {α : Type} [DecidableEq α] {pool : Pool α} (nodup : pool.values.Nodup)
    (value : α) : (pool.add value).2.values.Nodup := by
  rw [Pool.add]
  split
  · exact nodup
  · next absent =>
      have isNew : value ∉ pool.values := by
        intro isThere
        simpa using List.findIdx?_eq_none_iff.1 absent value isThere
      rw [List.nodup_append]
      refine ⟨nodup, by simp, ?_⟩
      rintro old isOld new isValue rfl
      exact isNew (List.mem_singleton.1 isValue ▸ isOld)

namespace TypeArena

/-- Whether a type has been handed out. -/
def Knows (arena : TypeArena) (type : TypeId) : Prop :=
  type.index < arena.size

instance (arena : TypeArena) (type : TypeId) : Decidable (arena.Knows type) :=
  inferInstanceAs (Decidable (type.index < arena.size))

/-- Whether the second arena has all types of the first, under the same numbers. -/
def GrowsTo (before after : TypeArena) : Prop :=
  before.shapes.values <+: after.shapes.values

namespace GrowsTo

theorem refl (arena : TypeArena) : arena.GrowsTo arena :=
  List.prefix_refl _

theorem trans {first second third : TypeArena} (early : first.GrowsTo second)
    (late : second.GrowsTo third) : first.GrowsTo third :=
  List.IsPrefix.trans early late

theorem size_le {before after : TypeArena} (grows : before.GrowsTo after) :
    before.size ≤ after.size :=
  List.IsPrefix.length_le grows

theorem knows {before after : TypeArena} (grows : before.GrowsTo after) {type : TypeId}
    (known : before.Knows type) : after.Knows type :=
  Nat.lt_of_lt_of_le known grows.size_le

end GrowsTo

theorem knows_iff {arena : TypeArena} {type : TypeId} :
    arena.Knows type ↔ ∃ shape, arena.shape? type = some shape := by
  constructor
  · intro known
    exact ⟨_, List.getElem?_eq_getElem known⟩
  · rintro ⟨shape, found⟩
    exact (List.getElem?_eq_some_iff.1 found).1

theorem knows_of_shape? {arena : TypeArena} {type : TypeId} {shape : TypeShape}
    (found : arena.shape? type = some shape) : arena.Knows type :=
  knows_iff.2 ⟨shape, found⟩

theorem shape?_of_not_knows {arena : TypeArena} {type : TypeId} (unknown : ¬ arena.Knows type) :
    arena.shape? type = none := by
  cases found : arena.shape? type with
  | none => rfl
  | some shape => exact absurd (knows_of_shape? found) unknown

/-- A type keeps its shape. -/
theorem shape?_of_growsTo {before after : TypeArena} (grows : before.GrowsTo after)
    {type : TypeId} {shape : TypeShape} (found : before.shape? type = some shape) :
    after.shape? type = some shape := by
  obtain ⟨bound, holds⟩ := List.getElem?_eq_some_iff.1 found
  obtain ⟨later, continued⟩ := grows
  show after.shapes.values[type.index]? = some shape
  rw [← continued, List.getElem?_append_left bound]
  exact found

/-! ## Operations -/

theorem store_growsTo (arena : TypeArena) (shape : TypeShape) :
    arena.GrowsTo (arena.store shape).2 := by
  show arena.shapes.values <+: (arena.shapes.add shape).2.values
  rw [Pool.add]
  split
  · exact List.prefix_refl _
  · exact List.prefix_append _ _

/-- A stored type has the shape it was stored with. -/
theorem shape?_store (arena : TypeArena) (shape : TypeShape) :
    (arena.store shape).2.shape? (arena.store shape).1 = some shape :=
  Pool.get?_add_self arena.shapes shape

/-- Storing a shape again, however much later, gives the same type and stores
nothing. -/
theorem store_of_growsTo {before after : TypeArena} {shape : TypeShape}
    (grows : (before.store shape).2.GrowsTo after) :
    after.store shape = ((before.store shape).1, after) := by
  have again : after.shapes.add shape = ((before.shapes.add shape).1, after.shapes) :=
    Pool.add_of_isPrefix grows
  show (TypeId.mk (after.shapes.add shape).1, TypeArena.mk (after.shapes.add shape).2) = _
  rw [again]
  rfl

theorem component?_growsTo (arena : TypeArena) (type : TypeId) :
    arena.GrowsTo (arena.component? type).2 := by
  rw [component?]
  split
  · exact GrowsTo.refl _
  · split
    · exact GrowsTo.refl _
    · exact store_growsTo _ _

/-- The component of an array, once stored, is the same in every later arena. -/
theorem component?_of_growsTo {before after : TypeArena} {type component : TypeId}
    (found : (before.component? type).1 = some component)
    (grows : (before.component? type).2.GrowsTo after) :
    after.component? type = (some component, after) := by
  have start : before.GrowsTo after := (component?_growsTo before type).trans grows
  rw [component?] at found grows ⊢
  cases given : before.shape? type with
  | none => simp [given] at found
  | some shape =>
      rw [shape?_of_growsTo start given]
      cases dimensions : shape.dims with
      | zero => simp [given, dimensions] at found
      | succ dims =>
          simp only [given, dimensions] at found grows ⊢
          rw [store_of_growsTo grows]
          simpa using found

end TypeArena

end ChainCompletion
