/-
# Proofs.RankingOrder -- ranking, one chain after the other

Elements are put in order by merging runs (`ordered`).  With an order that is one
(`IsOrder`), the result is in order (`ordered_increasing`) and holds, of each place that
occurs, the first element (`mem_ordered`); and only one list does (`eq_of_increasing`).

So ranking is the same as keeping each chain with a new text (`distinctTexts`) and putting
each of these in front of the first one that it precedes (`inOrder`), as
`RankedChain.ranked_eq` says.
-/
import Mathlib.Data.List.Nodup
import Mathlib.Data.List.Pairwise
import Mathlib.Data.List.Perm.Basic
import ChainCompletion.Ranking

namespace ChainCompletion

set_option autoImplicit false

/-! ## Orders -/

section Order

variable {α : Type} {before : α → α → Bool}

/-- Whether this tells an order in which elements may share a place. -/
structure IsOrder (before : α → α → Bool) : Prop where
  asymm : ∀ {first second}, before first second = true → before second first = false
  between : ∀ {first last} (item), before first last = true →
    before first item = true ∨ before item last = true

/-- Elements may be ordered by a key. -/
theorem IsOrder.comap {κ : Type} (order : IsOrder before) (key : κ → α) :
    IsOrder fun first second => before (key first) (key second) where
  asymm := order.asymm
  between item := order.between (key item)

/-- Whether two elements have one place. -/
def sharesPlace (before : α → α → Bool) (item other : α) : Bool :=
  !before item other && !before other item

theorem sharesPlace_iff {item other : α} :
    sharesPlace before item other = true ↔
      before item other = false ∧ before other item = false := by
  simp [sharesPlace]

theorem sharesPlace_comm (item other : α) :
    sharesPlace before item other = sharesPlace before other item :=
  Bool.and_comm _ _

namespace IsOrder

variable (order : IsOrder before)
include order

theorem irrefl (item : α) : before item item = false := by
  cases itself : before item item with
  | false => rfl
  | true => exact itself.symm.trans (order.asymm itself)

theorem trans {first second third : α} (early : before first second = true)
    (late : before second third = true) : before first third = true := by
  rcases order.between third early with through | back
  · exact through
  · rw [order.asymm back] at late
    cases late

theorem sharesPlace_self (item : α) : sharesPlace before item item = true :=
  sharesPlace_iff.2 ⟨order.irrefl item, order.irrefl item⟩

/-- Elements at one place share it with the same elements. -/
theorem sharesPlace_congr {item other : α} (same : sharesPlace before item other = true)
    (third : α) : sharesPlace before third item = sharesPlace before third other := by
  obtain ⟨notBefore, notAfter⟩ := sharesPlace_iff.1 same
  have moved : ∀ {near far : α}, before near far = false → before far near = false →
      (before third near = true → before third far = true) ∧
        (before near third = true → before far third = true) := by
    intro near far apart apart'
    refine ⟨fun early => ?_, fun late => ?_⟩
    · exact (order.between far early).resolve_right (by simp [apart'])
    · exact (order.between far late).resolve_left (by simp [apart])
  have there := moved notBefore notAfter
  have back := moved notAfter notBefore
  rw [sharesPlace, sharesPlace, Bool.eq_iff_iff.2 ⟨there.1, back.1⟩,
    Bool.eq_iff_iff.2 ⟨there.2, back.2⟩]

end IsOrder

/-- Whether each element of a list comes before all later ones. -/
def Increasing (before : α → α → Bool) (items : List α) : Prop :=
  items.Pairwise fun first second => before first second = true

/-- In a list in order, no two elements share a place. -/
theorem Increasing.eq_of_sharesPlace {items : List α} (increasing : Increasing before items)
    (item : α) (isThere : item ∈ items) (other : α) (isThere' : other ∈ items)
    (same : sharesPlace before item other = true) : item = other := by
  by_contra differ
  obtain ⟨notBefore, notAfter⟩ := sharesPlace_iff.1 same
  let apart (first second : α) : Prop := before first second = true ∨ before second first = true
  have symmetric : Std.Symm apart := ⟨fun _ _ => Or.symm⟩
  have allApart : items.Pairwise apart := increasing.imp Or.inl
  rcases allApart.forall isThere isThere' differ with early | late
  · simp [notBefore] at early
  · simp [notAfter] at late

/-- Where no two elements share a place, every element is the first at its place. -/
theorem IsOrder.mem_iff_find? (order : IsOrder before) {items : List α}
    (apart : ∀ first ∈ items, ∀ second ∈ items, sharesPlace before first second = true →
      first = second) {item : α} :
    item ∈ items ↔ items.find? (sharesPlace before item) = some item := by
  refine ⟨fun isThere => ?_, List.mem_of_find?_eq_some⟩
  cases found : items.find? (sharesPlace before item) with
  | none =>
      have missed := List.find?_eq_none.1 found item isThere
      exact absurd (order.sharesPlace_self item) missed
  | some other =>
      have isThere' := List.mem_of_find?_eq_some found
      rw [apart item isThere other isThere' (List.find?_some found)]

/-- Only one list is in order and has these elements. -/
theorem eq_of_increasing (order : IsOrder before) {items others : List α}
    (increasing : Increasing before items) (increasing' : Increasing before others)
    (sameMembers : ∀ item, item ∈ items ↔ item ∈ others) : items = others := by
  have unique : ∀ {list : List α}, Increasing before list → list.Nodup := fun inOrder =>
    inOrder.imp fun early same => by
      rw [same, order.irrefl] at early
      cases early
  refine List.Perm.eq_of_pairwise ?_ increasing increasing'
    ((List.perm_ext_iff_of_nodup (unique increasing) (unique increasing')).2 sameMembers)
  intro first second _ _ early late
  rw [order.asymm early] at late
  cases late

/-! ## Merging -/

section Merging

variable (order : IsOrder before) {first second : List α}

theorem before_of_mem_takeWhile {item other : α}
    (isEarly : other ∈ first.takeWhile (before · item)) : before other item = true :=
  List.all_eq_true.1 List.all_takeWhile other isEarly

/-- An element comes before all of a run if it comes before the first of it. -/
theorem Increasing.before_of_head? (increasing : Increasing before first) {item : α}
    (order : IsOrder before) (free : first.head?.all (before item) = true) {other : α}
    (isThere : other ∈ first) : before item other = true := by
  cases first with
  | nil => cases isThere
  | cons head rest =>
      have isBefore : before item head = true := by simpa using free
      rcases List.mem_cons.1 isThere with rfl | isLater
      · exact isBefore
      · exact order.trans isBefore ((List.pairwise_cons.1 increasing).1 other isLater)

/-- If an element does not come before what is left of a run after all that comes before
it, it shares the place of an element there. -/
theorem exists_sharesPlace_of_taken {item : α}
    (taken : (first.dropWhile (before · item)).head?.all (before item) = false) :
    ∃ other ∈ first.dropWhile (before · item), sharesPlace before item other = true := by
  cases left : first.dropWhile (before · item) with
  | nil => simp [left] at taken
  | cons other rest =>
      have notAfter : before item other = false := by simpa [left] using taken
      have notBefore : before other item = false := by
        simpa [left] using @List.head_dropWhile_not _ (before · item) first (by simp [left])
      exact ⟨other, List.mem_cons_self, sharesPlace_iff.2 ⟨notAfter, notBefore⟩⟩

theorem mem_of_mem_mergeRuns {item : α} (isThere : item ∈ mergeRuns before first second) :
    item ∈ first ∨ item ∈ second := by
  induction second generalizing first with
  | nil => exact Or.inl isThere
  | cons head second ih =>
      have drop : first.dropWhile (before · head) ⊆ first := List.dropWhile_subset _
      rw [mergeRuns, List.mem_append] at isThere
      rcases isThere with early | later
      · exact Or.inl (List.takeWhile_subset _ early)
      · split at later
        · rcases List.mem_cons.1 later with rfl | later
          · exact Or.inr List.mem_cons_self
          · exact (ih later).imp (drop ·) (List.mem_cons_of_mem head)
        · exact (ih later).imp (drop ·) (List.mem_cons_of_mem head)

include order in
/-- Two runs merged are a run. -/
theorem Increasing.mergeRuns (increasing : Increasing before first)
    (increasing' : Increasing before second) :
    Increasing before (mergeRuns before first second) := by
  induction second generalizing first with
  | nil => exact increasing
  | cons item second ih =>
      obtain ⟨beforeAll, increasingRest⟩ := List.pairwise_cons.1 increasing'
      have parts : Increasing before
          (first.takeWhile (before · item) ++ first.dropWhile (before · item)) := by
        rwa [List.takeWhile_append_dropWhile]
      obtain ⟨early, late, across⟩ := List.pairwise_append.1 parts
      have rest := ih late increasingRest
      have acrossRest : ∀ other ∈ first.takeWhile (before · item), ∀ third ∈
          ChainCompletion.mergeRuns before (first.dropWhile (before · item)) second,
          before other third = true := by
        intro other isEarly third isLater
        rcases mem_of_mem_mergeRuns isLater with isLate | isNext
        · exact across other isEarly third isLate
        · exact order.trans (before_of_mem_takeWhile isEarly) (beforeAll third isNext)
      rw [ChainCompletion.mergeRuns]
      refine List.pairwise_append.2 ⟨early, ?_, ?_⟩
      · split
        · next free =>
            refine List.pairwise_cons.2 ⟨fun other isThere => ?_, rest⟩
            rcases mem_of_mem_mergeRuns isThere with isLate | isNext
            · exact Increasing.before_of_head? late order free isLate
            · exact beforeAll other isNext
        · exact rest
      · intro other isEarly third isThere
        split at isThere
        · rcases List.mem_cons.1 isThere with rfl | isLater
          · exact before_of_mem_takeWhile isEarly
          · exact acrossRest other isEarly third isLater
        · exact acrossRest other isEarly third isThere

include order in
/-- What has a place in one of two runs has it in the merged one, and the first run counts. -/
theorem Increasing.find?_mergeRuns (increasing : Increasing before first)
    (increasing' : Increasing before second) (query : α) :
    (ChainCompletion.mergeRuns before first second).find? (sharesPlace before query) =
      (first.find? (sharesPlace before query)).or (second.find? (sharesPlace before query)) := by
  induction second generalizing first with
  | nil => simp [ChainCompletion.mergeRuns]
  | cons item second ih =>
      have late : Increasing before (first.dropWhile (before · item)) :=
        increasing.sublist (List.dropWhile_sublist _)
      have merged := ih late (List.pairwise_cons.1 increasing').2
      have whole : first.find? (sharesPlace before query) =
          ((first.takeWhile (before · item)).find? (sharesPlace before query)).or
            ((first.dropWhile (before · item)).find? (sharesPlace before query)) := by
        rw [← List.find?_append, List.takeWhile_append_dropWhile]
      rw [ChainCompletion.mergeRuns, List.find?_append, whole, Option.or_assoc, List.find?_cons]
      congr 1
      split
      · next free =>
          rw [List.find?_cons]
          cases asked : sharesPlace before query item with
          | false => simpa [asked] using merged
          | true =>
              have nothing : (first.dropWhile (before · item)).find? (sharesPlace before query) =
                  none := by
                refine List.find?_eq_none.2 fun other isLate same => ?_
                have shared : sharesPlace before item other = true := by
                  rw [← order.sharesPlace_congr same, sharesPlace_comm, asked]
                have isBefore := late.before_of_head? order free isLate
                rw [(sharesPlace_iff.1 shared).1] at isBefore
                cases isBefore
              simp [nothing]
      · next taken =>
          obtain ⟨other, isLate, same⟩ := exists_sharesPlace_of_taken (by simpa using taken)
          rw [merged]
          cases asked : sharesPlace before query item with
          | false => simp
          | true =>
              have found : ((first.dropWhile (before · item)).find?
                  (sharesPlace before query)).isSome = true := by
                refine List.find?_isSome.2 ⟨other, isLate, ?_⟩
                rwa [← order.sharesPlace_congr same]
              obtain ⟨twin, found⟩ := Option.isSome_iff_exists.1 found
              simp [found]

end Merging

/-! ## Runs of growing size -/

/-- The first element at a place among runs, the latest of which come first. -/
def foundIn (before : α → α → Bool) (query : α) : List (List α) → Option α
  | [] => none
  | run :: runs => (foundIn before query runs).or (run.find? (sharesPlace before query))

section Runs

variable (order : IsOrder before)
include order

/-- A run that is added comes after those that are there. -/
theorem addRun_spec {run : List α} {runs : List (List α)} (increasing : Increasing before run)
    (allIncreasing : ∀ other ∈ runs, Increasing before other) :
    (∀ other ∈ addRun before run runs, Increasing before other) ∧
      ∀ query, foundIn before query (addRun before run runs) =
        (foundIn before query runs).or (run.find? (sharesPlace before query)) := by
  fun_induction addRun before run runs with
  | case1 run => exact ⟨by simpa using increasing, fun query => rfl⟩
  | case2 run runs =>
      rw [List.forall_mem_cons] at allIncreasing
      refine ⟨List.forall_mem_cons.2 ⟨increasing, allIncreasing.2⟩, fun query => ?_⟩
      simp [foundIn]
  | case3 run other runs filled ih =>
      rw [List.forall_mem_cons] at allIncreasing
      obtain ⟨allIncreasing', found⟩ := ih (allIncreasing.1.mergeRuns order increasing)
        allIncreasing.2
      refine ⟨List.forall_mem_cons.2 ⟨List.Pairwise.nil, allIncreasing'⟩, fun query => ?_⟩
      rw [foundIn, foundIn, found, allIncreasing.1.find?_mergeRuns order increasing,
        List.find?_nil, Option.or_none, Option.or_assoc]

/-- Elements that are added one by one come after those that are there. -/
theorem foldl_addRun_spec (items : List α) {runs : List (List α)}
    (allIncreasing : ∀ run ∈ runs, Increasing before run) :
    (∀ run ∈ items.foldl (fun runs item => addRun before [item] runs) runs,
      Increasing before run) ∧
    ∀ query, foundIn before query (items.foldl (fun runs item => addRun before [item] runs) runs) =
      (foundIn before query runs).or (items.find? (sharesPlace before query)) := by
  induction items generalizing runs with
  | nil => exact ⟨allIncreasing, fun query => by simp⟩
  | cons item items ih =>
      obtain ⟨allIncreasing', found⟩ :=
        addRun_spec order (List.pairwise_singleton _ item) allIncreasing
      refine ⟨(ih allIncreasing').1, fun query => ?_⟩
      rw [List.foldl_cons, (ih allIncreasing').2, found, Option.or_assoc, ← List.find?_append,
        List.singleton_append]

/-- All runs merged, the latest last. -/
theorem foldl_mergeRuns_spec {runs : List (List α)} {later : List α}
    (allIncreasing : ∀ run ∈ runs, Increasing before run) (increasing : Increasing before later) :
    Increasing before (runs.foldl (fun later run => mergeRuns before run later) later) ∧
    ∀ query, (runs.foldl (fun later run => mergeRuns before run later) later).find?
        (sharesPlace before query) =
      (foundIn before query runs).or (later.find? (sharesPlace before query)) := by
  induction runs generalizing later with
  | nil => exact ⟨increasing, fun query => by simp [foundIn]⟩
  | cons run runs ih =>
      rw [List.forall_mem_cons] at allIncreasing
      obtain ⟨merged, found⟩ :=
        ih allIncreasing.2 (allIncreasing.1.mergeRuns order increasing)
      refine ⟨merged, fun query => ?_⟩
      rw [List.foldl_cons, found, allIncreasing.1.find?_mergeRuns order increasing, foundIn,
        Option.or_assoc]

theorem ordered_increasing (items : List α) : Increasing before (ordered before items) :=
  (foldl_mergeRuns_spec order (foldl_addRun_spec order items (by simp)).1 List.Pairwise.nil).1

/-- Put in order are, of the elements at one place, the first. -/
theorem mem_ordered {items : List α} {item : α} :
    item ∈ ordered before items ↔ items.find? (sharesPlace before item) = some item := by
  obtain ⟨allIncreasing, added⟩ := @foldl_addRun_spec _ _ order items [] (by simp)
  have found := (foldl_mergeRuns_spec order allIncreasing List.Pairwise.nil).2 item
  rw [order.mem_iff_find? (ordered_increasing order items).eq_of_sharesPlace, ordered, found, added]
  simp [foundIn]

end Runs

end Order

/-! ## The two orders of chains -/

theorem Text.isOrder_precedes : IsOrder Text.precedes where
  asymm := Text.not_precedes_of_precedes
  between {first last} text early := by
    by_cases same : first = text
    · exact Or.inr (same ▸ early)
    · rcases Text.precedes_or_precedes same with isBefore | isAfter
      · exact Or.inl isBefore
      · exact Or.inr (Text.precedes_trans isAfter early)

namespace RankedChain

theorem isOrder_textPrecedes : IsOrder textPrecedes :=
  Text.isOrder_precedes.comap fun entry : RankedChain => entry.text.toList

/-- Chains whose texts do not come before each other have one text. -/
theorem sharesPlace_textPrecedes {first second : RankedChain} :
    sharesPlace textPrecedes first second = true ↔ first.text = second.text := by
  rw [sharesPlace_iff]
  refine ⟨fun ⟨notBefore, notAfter⟩ => ?_, fun same => ?_⟩
  · by_contra differ
    rcases Text.precedes_or_precedes (fun equal => differ (String.toList_injective equal))
      with isBefore | isAfter
    · exact absurd (notBefore.symm.trans isBefore) (by simp)
    · exact absurd (notAfter.symm.trans isAfter) (by simp)
  · simp [textPrecedes, same, Text.not_precedes_self]

/-- Fewer accesses count first, then fewer arguments, then the text. -/
theorem precedes_iff {first second : RankedChain} :
    first.precedes second = true ↔
      first.chain.length < second.chain.length ∨
        first.chain.length = second.chain.length ∧
          (first.chain.paramCount < second.chain.paramCount ∨
            first.chain.paramCount = second.chain.paramCount ∧
              first.textPrecedes second = true) := by
  rw [precedes]
  split
  · next less => simp [Nat.compare_eq_lt.1 less]
  · next greater =>
      have := Nat.compare_eq_gt.1 greater
      simp
      omega
  · next same =>
      rw [Nat.compare_eq_eq.1 same]
      split
      · next less => simp [Nat.compare_eq_lt.1 less]
      · next greater =>
          have := Nat.compare_eq_gt.1 greater
          simp
          omega
      · next same' => simp [Nat.compare_eq_eq.1 same', textPrecedes]

theorem isOrder_precedes : IsOrder precedes where
  asymm {first second} early := by
    rw [Bool.eq_false_iff]
    intro late
    rw [precedes_iff] at early late
    rcases early with shorter | ⟨sameLength, fewer | ⟨sameCount, text⟩⟩
    · omega
    · omega
    · have back := isOrder_textPrecedes.asymm text
      simp only [back, Bool.false_eq_true, and_false, or_false] at late
      omega
  between {first last} entry early := by
    rw [precedes_iff] at early
    rw [precedes_iff, precedes_iff]
    rcases early with shorter | ⟨sameLength, fewer | ⟨sameCount, text⟩⟩
    · omega
    · omega
    · rcases isOrder_textPrecedes.between entry text with isBefore | isBefore
      · simp only [isBefore, and_true]
        omega
      · simp only [isBefore, and_true]
        omega

/-- Chains that do not go before each other have one text. -/
theorem text_eq_of_sharesPlace {first second : RankedChain}
    (same : sharesPlace precedes first second = true) : first.text = second.text := by
  obtain ⟨notBefore, notAfter⟩ := sharesPlace_iff.1 same
  rw [Bool.eq_false_iff, ne_eq, precedes_iff] at notBefore notAfter
  rw [← sharesPlace_textPrecedes, sharesPlace_iff, Bool.eq_false_iff, Bool.eq_false_iff]
  have sameLength : first.chain.length = second.chain.length := by omega
  have sameCount : first.chain.paramCount = second.chain.paramCount := by omega
  exact ⟨fun early => notBefore (Or.inr ⟨sameLength, Or.inr ⟨sameCount, early⟩⟩),
    fun late => notAfter (Or.inr ⟨sameLength.symm, Or.inr ⟨sameCount.symm, late⟩⟩)⟩

/-! ## One chain after the other -/

/-- Puts a chain in front of the first one that it precedes. -/
def insertInOrder (entry : RankedChain) : List RankedChain → List RankedChain
  | [] => [entry]
  | other :: others =>
      if entry.precedes other then entry :: other :: others
      else other :: insertInOrder entry others

/-- The chains in order. -/
def inOrder (entries : List RankedChain) : List RankedChain :=
  entries.foldl (fun sorted entry => insertInOrder entry sorted) []

/-- The list with a chain at its end, unless one with its text is there. -/
def addNewText (entries : List RankedChain) (entry : RankedChain) : List RankedChain :=
  if entries.any fun other => other.text = entry.text then entries else entries ++ [entry]

/-- The first chain of each text. -/
def distinctTexts (entries : List RankedChain) : List RankedChain :=
  entries.foldl addNewText []

theorem perm_insertInOrder (entry : RankedChain) (entries : List RankedChain) :
    (insertInOrder entry entries).Perm (entry :: entries) := by
  induction entries with
  | nil => exact List.Perm.refl _
  | cons other others ih =>
      rw [insertInOrder]
      split
      · exact List.Perm.refl _
      · exact (ih.cons other).trans (List.Perm.swap _ _ _)

/-- Ordering keeps all chains. -/
theorem perm_inOrder (entries : List RankedChain) : (inOrder entries).Perm entries := by
  have fold : ∀ sorted : List RankedChain,
      (entries.foldl (fun sorted entry => insertInOrder entry sorted) sorted).Perm
        (entries ++ sorted) := by
    induction entries with
    | nil => exact fun sorted => List.Perm.refl _
    | cons entry entries ih =>
        intro sorted
        exact (ih _).trans
          (((perm_insertInOrder entry sorted).append_left entries).trans List.perm_middle)
  simpa [inOrder] using fold []

/-- A chain with a text of its own takes a place of its own. -/
theorem insertInOrder_increasing {entry : RankedChain} {sorted : List RankedChain}
    (increasing : Increasing precedes sorted) (isNew : ∀ other ∈ sorted, entry.text ≠ other.text) :
    Increasing precedes (insertInOrder entry sorted) := by
  induction sorted with
  | nil => exact List.pairwise_singleton _ entry
  | cons other others ih =>
      obtain ⟨beforeAll, rest⟩ := List.pairwise_cons.1 increasing
      rw [List.forall_mem_cons] at isNew
      rw [insertInOrder]
      split
      · next isFirst =>
          refine List.pairwise_cons.2 ⟨List.forall_mem_cons.2 ⟨isFirst, fun third isLater => ?_⟩,
            increasing⟩
          exact isOrder_precedes.trans isFirst (beforeAll third isLater)
      · next notFirst =>
          have isLater : other.precedes entry = true := by
            by_contra notBefore
            refine isNew.1 (text_eq_of_sharesPlace (sharesPlace_iff.2 ⟨?_, ?_⟩))
            · simpa using notFirst
            · simpa using notBefore
          refine List.pairwise_cons.2 ⟨fun third isThere => ?_, ih rest isNew.2⟩
          rcases List.mem_cons.1 ((perm_insertInOrder entry others).mem_iff.1 isThere) with
            rfl | isThere
          · exact isLater
          · exact beforeAll third isThere

theorem inOrder_increasing {entries : List RankedChain}
    (unique : (entries.map RankedChain.text).Nodup) : Increasing precedes (inOrder entries) := by
  have fold : ∀ sorted : List RankedChain, Increasing precedes sorted →
      ((entries ++ sorted).map RankedChain.text).Nodup →
      Increasing precedes
        (entries.foldl (fun sorted entry => insertInOrder entry sorted) sorted) := by
    clear unique
    induction entries with
    | nil => exact fun sorted increasing _ => increasing
    | cons entry entries ih =>
        intro sorted increasing unique
        rw [List.cons_append, List.map_cons, List.nodup_cons] at unique
        refine ih _ (insertInOrder_increasing increasing fun other isThere same => ?_) ?_
        · exact unique.1 (List.mem_map.2 ⟨other, List.mem_append_right _ isThere, same.symm⟩)
        · have moved := ((perm_insertInOrder entry sorted).append_left entries).trans
            List.perm_middle
          rw [(moved.map RankedChain.text).nodup_iff, List.map_cons, List.nodup_cons]
          exact unique
  exact fold [] List.Pairwise.nil (by simpa using unique)

theorem nodup_addNewText {kept : List RankedChain} (unique : (kept.map RankedChain.text).Nodup)
    (entry : RankedChain) : ((addNewText kept entry).map RankedChain.text).Nodup := by
  rw [addNewText]
  split
  · exact unique
  · next isNew =>
      rw [List.map_append, List.nodup_append]
      refine ⟨unique, by simp, ?_⟩
      simpa using isNew

theorem nodup_distinctTexts (entries : List RankedChain) :
    ((distinctTexts entries).map RankedChain.text).Nodup := by
  have fold : ∀ kept : List RankedChain, (kept.map RankedChain.text).Nodup →
      ((entries.foldl addNewText kept).map RankedChain.text).Nodup := by
    induction entries with
    | nil => exact fun kept unique => unique
    | cons entry entries ih => exact fun kept unique => ih _ (nodup_addNewText unique entry)
  exact fold [] (by simp)

/-- The first chain with a text stays the first. -/
theorem find?_addNewText (kept : List RankedChain) (entry query : RankedChain) :
    (addNewText kept entry).find? (sharesPlace textPrecedes query) =
      (kept.find? (sharesPlace textPrecedes query)).or
        ([entry].find? (sharesPlace textPrecedes query)) := by
  rw [addNewText]
  split
  · next twin =>
      obtain ⟨other, isThere, same⟩ := List.any_eq_true.1 twin
      have same : other.text = entry.text := by simpa using same
      cases asked : sharesPlace textPrecedes query entry with
      | false => simp [asked]
      | true =>
          have found : (kept.find? (sharesPlace textPrecedes query)).isSome = true := by
            rw [sharesPlace_textPrecedes, ← same] at asked
            exact List.find?_isSome.2 ⟨other, isThere, sharesPlace_textPrecedes.2 asked⟩
          obtain ⟨first, found⟩ := Option.isSome_iff_exists.1 found
          simp [found]
  · rw [List.find?_append]

theorem find?_distinctTexts (entries : List RankedChain) (query : RankedChain) :
    (distinctTexts entries).find? (sharesPlace textPrecedes query) =
      entries.find? (sharesPlace textPrecedes query) := by
  have fold : ∀ kept : List RankedChain,
      (entries.foldl addNewText kept).find? (sharesPlace textPrecedes query) =
        (kept.find? (sharesPlace textPrecedes query)).or
          (entries.find? (sharesPlace textPrecedes query)) := by
    induction entries with
    | nil => simp
    | cons entry entries ih =>
        intro kept
        rw [List.foldl_cons, ih, find?_addNewText, Option.or_assoc, ← List.find?_append,
          List.singleton_append]
  simpa [distinctTexts] using fold []

/-- Kept are, of the chains with one text, the first. -/
theorem mem_distinctTexts {entries : List RankedChain} {entry : RankedChain} :
    entry ∈ distinctTexts entries ↔
      entries.find? (sharesPlace textPrecedes entry) = some entry := by
  rw [← find?_distinctTexts]
  refine isOrder_textPrecedes.mem_iff_find? fun first isThere second isThere' same => ?_
  exact List.inj_on_of_nodup_map (nodup_distinctTexts entries) isThere isThere'
    (sharesPlace_textPrecedes.1 same)

/-- Ranking by merging is ranking one chain after the other. -/
theorem ranked_eq (entries : List RankedChain) :
    ranked entries = inOrder (distinctTexts entries) := by
  refine eq_of_increasing isOrder_precedes (ordered_increasing isOrder_precedes _)
    (inOrder_increasing (nodup_distinctTexts entries)) fun entry => ?_
  have apart : ∀ first ∈ ordered textPrecedes entries, ∀ second ∈ ordered textPrecedes entries,
      sharesPlace precedes first second = true → first = second :=
    fun first isThere second isThere' same =>
      (ordered_increasing isOrder_textPrecedes entries).eq_of_sharesPlace first isThere second
        isThere' (sharesPlace_textPrecedes.2 (text_eq_of_sharesPlace same))
  rw [ranked, mem_ordered isOrder_precedes, ← isOrder_precedes.mem_iff_find? apart,
    mem_ordered isOrder_textPrecedes, (perm_inOrder _).mem_iff, mem_distinctTexts]

end RankedChain

end ChainCompletion
