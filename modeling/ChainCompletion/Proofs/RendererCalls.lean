/-
# Proofs.RendererCalls -- one renderer asked again and again

Through a request one renderer writes many chains, some in full and some only to compare
what would be inserted, in any order.  Whatever it has been asked before, it answers as a
renderer that has written nothing yet, and both questions about a chain agree
(`Renderer.calls_as_if_fresh`).

Roots share what is remembered as soon as their qualified names are equal, whether their
types are or not: a class, its instances and the arrays of them are one entry, and so are
an id that the arena does not know and a class that bears its text as a name.  What is
written follows from that name alone, which is why sharing does no harm
(`Renderer.IsFor.answer`).  Each name is decided on once
(`Renderer.known_after_calls`).
-/
import ChainCompletion.Proofs.Proposals
import Mathlib.Data.List.Dedup

namespace ChainCompletion

set_option autoImplicit false

/-- A question to a renderer. -/
inductive RenderCall where
  /-- All texts of a chain. -/
  | texts (chain : Chain)
  /-- Only what is inserted for it. -/
  | inserted (chain : Chain)

namespace RenderCall

/-- The chain that is asked about. -/
def chain : RenderCall → Chain
  | texts chain => chain
  | inserted chain => chain

/-- The name under which the root of the chain is remembered, if it is. -/
def rememberedName (arena : TypeArena) (call : RenderCall) : Option String :=
  if call.chain.root.isStatic then some (arena.qualifiedName call.chain.root.type) else none

end RenderCall

namespace Renderer

variable {renderer : Renderer} {arena : TypeArena} {scope : ImportScope} {snippets : Bool}

/-- The answer to a question. -/
def answer (renderer : Renderer) : RenderCall → (ChainTexts ⊕ String) × Renderer
  | .texts chain => (renderer.render chain).map .inl id
  | .inserted chain => (renderer.inserted chain).map .inr id

/-! ## Answers -/

/-- One question is answered as if nothing were remembered, and what is then remembered is
right again. -/
theorem IsFor.answer (right : renderer.IsFor arena scope snippets) (call : RenderCall) :
    (renderer.answer call).1 = ((fresh arena scope snippets).answer call).1 ∧
      (renderer.answer call).2.IsFor arena scope snippets := by
  obtain ⟨same, after⟩ := right.render call.chain
  cases call with
  | texts chain => exact ⟨congrArg Sum.inl same, after⟩
  | inserted chain => exact ⟨congrArg (Sum.inr ∘ ChainTexts.insertText) same, after⟩

/-- **What a renderer remembers does not show.**  Whatever it is asked and in whatever order,
every answer is that of a fresh renderer, and at any time what it inserts for a chain is the
inserted text among all the texts of that chain. -/
theorem calls_as_if_fresh (arena : TypeArena) (scope : ImportScope) (snippets : Bool)
    (calls : List RenderCall) :
    let run := threadMap answer (fresh arena scope snippets) calls
    run.1 = calls.map (fun call => ((fresh arena scope snippets).answer call).1) ∧
    ∀ chain, (run.2.inserted chain).1 = (run.2.render chain).1.insertText ∧
      (run.2.render chain).1 = ((fresh arena scope snippets).render chain).1 := by
  intro run
  have answered : run.1 = calls.map fun call => ((fresh arena scope snippets).answer call).1 :=
    threadMap_eq_map (fun call _ renderer right => (IsFor.answer right call).2)
      (fun call _ renderer right => (IsFor.answer right call).1) (fresh_isFor arena scope snippets)
  have after : run.2.IsFor arena scope snippets :=
    @threadMap_keeps _ _ _ (IsFor · arena scope snippets) _ _
      (fun call _ renderer right => (IsFor.answer right call).2) _
      (fresh_isFor arena scope snippets)
  refine ⟨answered, fun chain => ⟨?_, (after.render chain).1⟩⟩
  rw [inserted_eq]

/-! ## What is remembered -/

/-- The names of the roots that a renderer remembers, latest first. -/
def rememberedNames (renderer : Renderer) : List String :=
  renderer.known.map Prod.fst

theorem mem_rememberedNames {name : String} :
    name ∈ renderer.rememberedNames ↔ (renderer.known.lookup name).isSome := by
  simp [rememberedNames, List.lookup_isSome_iff]

/-- A question adds the name of its root, unless that is there. -/
theorem answer_rememberedNames (renderer : Renderer) (call : RenderCall) :
    (renderer.answer call).2.rememberedNames =
      (call.rememberedName renderer.arena).toList ∪ renderer.rememberedNames := by
  have after : (renderer.answer call).2 = (renderer.spellRoot call.chain.root).2 := by
    cases call <;> rfl
  rw [after, spellRoot, RenderCall.rememberedName]
  split
  · rw [Option.toList_some, List.cons_union, List.nil_union]
    dsimp only
    split
    · next found =>
        rw [List.insert_of_mem (mem_rememberedNames.2 (by rw [found]; rfl))]
    · next missing =>
        have isNew : renderer.arena.qualifiedName call.chain.root.type ∉
            renderer.rememberedNames := by
          rw [mem_rememberedNames, missing]
          exact Bool.false_ne_true
        rw [List.insert_of_not_mem isNew]
        rfl
  · rfl

/-- Questions in a row add the names of their roots, each once. -/
theorem IsFor.rememberedNames_threadMap (right : renderer.IsFor arena scope snippets)
    (calls : List RenderCall) :
    (threadMap Renderer.answer renderer calls).2.rememberedNames =
      (calls.filterMap (RenderCall.rememberedName arena)).reverse ∪
        renderer.rememberedNames := by
  induction calls generalizing renderer with
  | nil => rfl
  | cons call calls ih =>
      rw [threadMap_cons, ih (right.answer call).2, answer_rememberedNames, right.arena_eq]
      cases name : call.rememberedName arena with
      | none => simp [name]
      | some name' =>
          rw [List.filterMap_cons_some name, List.reverse_cons]
          exact (List.foldr_append ..).symm

/-- After any questions, what is remembered are the names of the static roots among them,
each once. -/
theorem known_after_calls (arena : TypeArena) (scope : ImportScope) (snippets : Bool)
    (calls : List RenderCall) :
    (threadMap answer (fresh arena scope snippets) calls).2.rememberedNames =
      (calls.filterMap (RenderCall.rememberedName arena)).reverse.dedup := by
  rw [(fresh_isFor arena scope snippets).rememberedNames_threadMap,
    ← List.append_nil (List.reverse _), List.dedup_append, List.append_nil]
  rfl

-- a class, an array of one of its instances and an unknown id are one entry by their name, and
-- a value is none
example :
    (threadMap answer
      (fresh ⟨⟨[⟨.classType, "TypeId(9)", [], 0⟩, ⟨.classType, "TypeId(9)", [⟨0⟩], 1⟩]⟩⟩ .empty true)
      [.inserted ⟨.ofStaticType "A" ⟨0⟩, [], ⟨0⟩⟩, .texts ⟨.ofStaticType "B" ⟨1⟩, [], ⟨0⟩⟩,
        .texts ⟨.ofStaticType "C" ⟨9⟩, [], ⟨0⟩⟩,
        .inserted ⟨⟨"d", ⟨1⟩, .parameter, false⟩, [], ⟨0⟩⟩]).2.rememberedNames = ["TypeId(9)"] := by
  decide

end Renderer

end ChainCompletion
