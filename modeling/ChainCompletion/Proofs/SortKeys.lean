/-
# Proofs.SortKeys -- the order that a client sees

A client sorts proposals by their keys, as texts.  A key is a place in the list, written
with at least five digits.  Two texts of equally many digits compare as the numbers they
stand for (`precedes_iff_ofDigitChars_lt`), and all places below `fiveDigitPlaces` have five
digits, so up to there keys go up with places (`sortKey_precedes_iff`).  The next place has
six digits and a smaller first one.

So keys give the returned order back exactly if there are no more proposals than places
with five digits (`complete_sorts_iff`).  There can be more: a search records whatever fits
(`run_recorded`), so a few hundred values with a few hundred fields each are enough
(`complete_grid_not_sorted`).
-/
import Mathlib.Data.List.Nodup
import Mathlib.Data.List.ProdSigma
import ChainCompletion.Proofs.CompletionReach
import ChainCompletion.Proofs.RankingOrder

namespace ChainCompletion

open Text Search

set_option autoImplicit false

/-! ## Digits -/

section Digits

variable {first second : List Char}

/-- Of two texts with the same number of digits, read after other digits, the one that comes
first stands for the smaller number, unless what was read before decides. -/
theorem ofDigitChars_lt_iff (digits : ∀ c ∈ first, c.isDigit = true)
    (digits' : ∀ c ∈ second, c.isDigit = true) (sameLength : first.length = second.length)
    (start start' : Nat) :
    Nat.ofDigitChars 10 first start < Nat.ofDigitChars 10 second start' ↔
      start < start' ∨ start = start' ∧ precedes first second = true := by
  induction first generalizing second start start' with
  | nil =>
      cases second with
      | nil => simp [precedes]
      | cons b second => simp at sameLength
  | cons a first ih =>
      cases second with
      | nil => simp at sameLength
      | cons b second =>
          simp only [List.forall_mem_cons, List.length_cons, Nat.add_right_cancel_iff]
            at digits digits' sameLength
          obtain ⟨least, most⟩ := Char.isDigit_iff_toNat.1 digits.1
          obtain ⟨least', most'⟩ := Char.isDigit_iff_toNat.1 digits'.1
          have ten : '9'.toNat = '0'.toNat + 9 := rfl
          rw [Nat.ofDigitChars_cons, Nat.ofDigitChars_cons, ih digits.2 digits'.2 sameLength]
          simp only [precedes, Bool.or_eq_true, decide_eq_true_eq, Bool.and_eq_true,
            ← Char.toNat_inj]
          -- the digit read last counts once, the digits before it ten times
          cases precedes first second with
          | false =>
              simp only [Bool.false_eq_true, and_false, or_false]
              omega
          | true =>
              simp only [and_true]
              omega

/-- Of two texts with the same number of digits, the one that stands for the smaller number
comes first. -/
theorem precedes_iff_ofDigitChars_lt (digits : ∀ c ∈ first, c.isDigit = true)
    (digits' : ∀ c ∈ second, c.isDigit = true) (sameLength : first.length = second.length) :
    precedes first second = true ↔
      Nat.ofDigitChars 10 first 0 < Nat.ofDigitChars 10 second 0 := by
  rw [ofDigitChars_lt_iff digits digits' sameLength]
  simp

end Digits

/-! ## Keys -/

/-- The number of places that can be written with five digits. -/
def fiveDigitPlaces : Nat := 100000

theorem toList_sortKey (place : Nat) :
    (sortKey place).toList =
      List.replicate (5 - (Nat.toDigits 10 place).length) '0' ++ Nat.toDigits 10 place := by
  simp [sortKey]

theorem isDigit_of_mem_sortKey {place : Nat} {c : Char} (isThere : c ∈ (sortKey place).toList) :
    c.isDigit = true := by
  rw [toList_sortKey, List.mem_append] at isThere
  rcases isThere with padding | digit
  · rw [List.eq_of_mem_replicate padding]
    rfl
  · exact Nat.isDigit_of_mem_toDigits (by decide) (by decide) digit

/-- A key stands for its place. -/
theorem ofDigitChars_sortKey (place : Nat) :
    Nat.ofDigitChars 10 (sortKey place).toList 0 = place := by
  rw [toList_sortKey, Nat.ofDigitChars_append, Nat.ofDigitChars_replicate_zero, Nat.mul_zero,
    Nat.ofDigitChars_ten_toDigits]

theorem length_sortKey {place : Nat} (early : place < fiveDigitPlaces) :
    (sortKey place).toList.length = 5 := by
  have short : (Nat.toDigits 10 place).length ≤ 5 :=
    (Nat.length_toDigits_le_iff (by decide) (by decide)).2 early
  rw [toList_sortKey, List.length_append, List.length_replicate]
  omega

/-- Among the places with five digits, keys are in the order of the places. -/
theorem sortKey_precedes_iff {place other : Nat} (early : place < fiveDigitPlaces)
    (early' : other < fiveDigitPlaces) :
    precedes (sortKey place).toList (sortKey other).toList = true ↔ place < other := by
  have sameLength := (length_sortKey early).trans (length_sortKey early').symm
  rw [precedes_iff_ofDigitChars_lt (fun _ => isDigit_of_mem_sortKey)
    (fun _ => isDigit_of_mem_sortKey) sameLength, ofDigitChars_sortKey, ofDigitChars_sortKey]

/-- The first key with six digits comes before the last one with five. -/
theorem sortKey_fiveDigitPlaces_precedes :
    precedes (sortKey fiveDigitPlaces).toList (sortKey (fiveDigitPlaces - 1)).toList = true := by
  decide

/-! ## Proposals in the order of their keys -/

/-- Whether the key of a proposal comes before that of another. -/
def Proposal.keyPrecedes (first second : Proposal) : Bool :=
  precedes first.sortKey.toList second.sortKey.toList

theorem Proposal.isOrder_keyPrecedes : IsOrder Proposal.keyPrecedes :=
  Text.isOrder_precedes.comap fun proposal : Proposal => proposal.sortKey.toList

/-- Whether a list may come out of sorting by key: no key comes before an earlier one. -/
def SortedByKey (proposals : List Proposal) : Prop :=
  proposals.Pairwise fun first second => second.keyPrecedes first = false

/-- Every list can be sorted by key. -/
theorem exists_sortedByKey (proposals : List Proposal) :
    ∃ sorted : List Proposal, sorted.Perm proposals ∧ SortedByKey sorted := by
  refine ⟨proposals.mergeSort fun first second => !second.keyPrecedes first,
    List.mergeSort_perm _ _, ?_⟩
  refine (List.pairwise_mergeSort ?_ ?_ proposals).imp (by simp)
  · intro first second third early late
    simp only [Bool.not_eq_true', Bool.eq_false_iff] at early late ⊢
    exact fun back => (Proposal.isOrder_keyPrecedes.between second back).elim late early
  · intro first second
    cases back : second.keyPrecedes first with
    | false => rfl
    | true => simp [Proposal.isOrder_keyPrecedes.asymm back]

/-- Whether each proposal of a list has the key of its place. -/
def Keyed (proposals : List Proposal) : Prop :=
  ∀ place proposal, proposals[place]? = some proposal → proposal.sortKey = sortKey place

theorem Settings.keyed_propose (settings : Settings) (arena : TypeArena) (scope : ImportScope)
    (chains : List Chain) : Keyed (settings.propose arena scope chains) := by
  rw [Settings.propose_eq]
  intro place proposal isThere
  obtain ⟨texts, -, rfl⟩ : ∃ texts, _ ∧ _ := by
    simpa [Settings.proposalsFor] using isThere
  rfl

/-- No more is proposed than the settings ask for. -/
theorem Settings.length_propose_le (settings : Settings) (arena : TypeArena) (scope : ImportScope)
    (chains : List Chain) :
    (settings.propose arena scope chains).length ≤ settings.maxResults := by
  rw [Settings.propose_eq]
  simp only [Settings.proposalsFor, Settings.shown, RankedChain.chosen, List.length_map,
    List.length_zipIdx]
  exact List.length_take_le _ _

section Complete

variable {σ : Type} (view : ProgramView σ) (settings : Settings) (signals : Search.Signals)
  (request : CompletionRequest) (state : σ)

/-- What holds of no proposals and of the proposals for any chains holds of every answer. -/
theorem complete_elim (holds : List Proposal → Prop) (nothing : holds [])
    (proposed : ∀ arena chains, holds (settings.propose arena request.scope chains)) :
    holds (complete view settings signals request state).1 := by
  rw [complete]
  split
  · split
    · exact nothing
    · split
      · exact nothing
      · rw [completeFrom]
        dsimp only
        split
        · exact nothing
        · exact proposed _ _
  · exact nothing

theorem keyed_complete : Keyed (complete view settings signals request state).1 :=
  complete_elim view settings signals request state Keyed (by simp [Keyed])
    fun arena chains => settings.keyed_propose arena request.scope chains

theorem length_complete_le :
    (complete view settings signals request state).1.length ≤ settings.maxResults :=
  complete_elim view settings signals request state (·.length ≤ settings.maxResults)
    (Nat.zero_le _) fun arena chains => settings.length_propose_le arena request.scope chains

end Complete

section Keyed

variable {proposals : List Proposal}

theorem Keyed.take (keyed : Keyed proposals) (count : Nat) : Keyed (proposals.take count) := by
  intro place proposal isThere
  rw [List.getElem?_take] at isThere
  split at isThere
  · exact keyed place proposal isThere
  · cases isThere

theorem Keyed.keyPrecedes_eq (keyed : Keyed proposals) {place other : Nat}
    (bound : place < proposals.length) (bound' : other < proposals.length) :
    proposals[place].keyPrecedes proposals[other] =
      precedes (sortKey place).toList (sortKey other).toList := by
  rw [Proposal.keyPrecedes, keyed place _ (List.getElem?_eq_getElem bound),
    keyed other _ (List.getElem?_eq_getElem bound')]

/-- Past the places with five digits, a proposal has a key that comes before an earlier
one. -/
theorem Keyed.not_sortedByKey (keyed : Keyed proposals)
    (long : fiveDigitPlaces < proposals.length) : ¬ SortedByKey proposals := by
  intro sorted
  have isEarlier : fiveDigitPlaces - 1 < fiveDigitPlaces := by decide
  have inOrder := List.pairwise_iff_getElem.1 sorted (fiveDigitPlaces - 1) fiveDigitPlaces
    (Nat.lt_trans isEarlier long) long isEarlier
  rw [keyed.keyPrecedes_eq, sortKey_fiveDigitPlaces_precedes] at inOrder
  cases inOrder

theorem Keyed.increasing (keyed : Keyed proposals) (short : proposals.length ≤ fiveDigitPlaces) :
    Increasing Proposal.keyPrecedes proposals := by
  refine List.pairwise_iff_getElem.2 fun place other bound bound' isEarlier => ?_
  rw [keyed.keyPrecedes_eq, sortKey_precedes_iff (Nat.lt_of_lt_of_le bound short)
    (Nat.lt_of_lt_of_le bound' short)]
  exact isEarlier

theorem SortedByKey.of_increasing (increasing : Increasing Proposal.keyPrecedes proposals) :
    SortedByKey proposals :=
  increasing.imp Proposal.isOrder_keyPrecedes.asymm

/-- A list in the order of its keys is the only one that sorting can give. -/
theorem SortedByKey.eq_of_perm (increasing : Increasing Proposal.keyPrecedes proposals)
    {sorted : List Proposal} (isSorted : SortedByKey sorted) (same : sorted.Perm proposals) :
    sorted = proposals := by
  refine List.Perm.eq_of_pairwise ?_ isSorted (SortedByKey.of_increasing increasing) same
  intro first second isThere isThere' notAfter notBefore
  exact increasing.eq_of_sharesPlace first (same.mem_iff.1 isThere) second isThere'
    (sharesPlace_iff.2 ⟨notBefore, notAfter⟩)

theorem Keyed.increasing_iff (keyed : Keyed proposals) :
    Increasing Proposal.keyPrecedes proposals ↔ proposals.length ≤ fiveDigitPlaces := by
  refine ⟨fun increasing => Nat.le_of_not_lt fun long => ?_, keyed.increasing⟩
  exact keyed.not_sortedByKey long (SortedByKey.of_increasing increasing)

theorem Keyed.sorts_iff (keyed : Keyed proposals) :
    (∀ sorted : List Proposal, sorted.Perm proposals → SortedByKey sorted → sorted = proposals) ↔
      proposals.length ≤ fiveDigitPlaces := by
  refine ⟨fun sorts => Nat.le_of_not_lt fun long => ?_, fun short sorted same isSorted =>
    isSorted.eq_of_perm (keyed.increasing short) same⟩
  obtain ⟨sorted, same, isSorted⟩ := exists_sortedByKey proposals
  rw [sorts sorted same isSorted] at isSorted
  exact keyed.not_sortedByKey long isSorted

end Keyed

/-- **Sorting by key keeps the order up to the last place with five digits.**  Whatever the
view, the settings and the request, the first proposals that are returned, as many as there
are such places, are in the order of their keys.  All are, and a client that sorts by key
gets the returned list back, exactly if there are no more than these; and never are there
more than the settings ask for. -/
theorem complete_sorts_iff {σ : Type} (view : ProgramView σ) (settings : Settings)
    (signals : Search.Signals) (request : CompletionRequest) (state : σ) :
    Increasing Proposal.keyPrecedes
        ((complete view settings signals request state).1.take fiveDigitPlaces) ∧
    (Increasing Proposal.keyPrecedes (complete view settings signals request state).1 ↔
      (complete view settings signals request state).1.length ≤ fiveDigitPlaces) ∧
    ((∀ sorted : List Proposal,
        sorted.Perm (complete view settings signals request state).1 → SortedByKey sorted →
        sorted = (complete view settings signals request state).1) ↔
      (complete view settings signals request state).1.length ≤ fiveDigitPlaces) ∧
    (complete view settings signals request state).1.length ≤ settings.maxResults := by
  have keyed := keyed_complete view settings signals request state
  refine ⟨(keyed.take _).increasing (List.length_take_le _ _), keyed.increasing_iff,
    keyed.sorts_iff, length_complete_le view settings signals request state⟩

/-! ## More proposals than places with five digits -/

namespace Search

variable {σ : Type} {view : ProgramView σ} {signals : Signals} {limits : Limits}

/-- Members that all fit are all recorded while there is room for more. -/
theorem visitMembers_recorded {target : TypeId} {node : Node} (members : List Member)
    {progress : Progress σ}
    (fits : ∀ member ∈ members,
      view.assignable progress.state member.result target = (.ok true, progress.state))
    (room : progress.chains.size + members.length < limits.maxResults) :
    workOff (visitMember view limits target [] node) progress members =
      ({ progress with chains := progress.chains ++ (members.map node.complete).toArray }, none) := by
  induction members generalizing progress with
  | nil => simp
  | cons member members ih =>
      rw [List.forall_mem_cons] at fits
      rw [List.length_cons] at room
      have notYet : ¬ limits.maxResults ≤ progress.chains.size + 1 := by omega
      have step : visitMember view limits target [] node progress member =
          ({ progress with chains := progress.chains.push (node.complete member) }, none) := by
        simp [visitMember, fits.1, matchesTyped, notYet]
      have rest := @ih { progress with chains := progress.chains.push (node.complete member) }
        fits.2 (by rw [Array.size_push]; omega)
      rw [workOff, step]
      simp only [rest]
      simp

variable {request : Request} {nodes : List Node} {gives : Node → List Member} {state : σ}

/-- Nodes whose candidates all fit are worked off and their candidates recorded. -/
theorem visitNodes_recorded (untyped : request.typed = "")
    (undisturbed : ∀ expanded, signals.interruption? limits expanded = none)
    (offered : ∀ node ∈ nodes,
      candidates view request.callSite state node = (.ok (gives node), state))
    (fits : ∀ node ∈ nodes, ∀ member ∈ gives node,
      view.assignable state member.result request.target = (.ok true, state))
    {progress : Progress σ} (start : progress.state = state)
    (room : progress.chains.size + (nodes.flatMap gives).length < limits.maxResults) :
    ∃ expanded waiting, workOff (visitNode view signals limits request) progress nodes =
      ({ progress with
          chains := progress.chains ++
            (nodes.flatMap fun node => (gives node).map node.complete).toArray
          expanded := expanded
          waiting := waiting }, none) := by
  induction nodes generalizing progress with
  | nil => exact ⟨progress.expanded, progress.waiting, by simp⟩
  | cons node nodes ih =>
      rw [List.forall_mem_cons] at offered fits
      rw [List.flatMap_cons, List.length_append] at room
      subst start
      have step : visitNode view signals limits request progress node =
          ({ progress with
              chains := progress.chains ++ ((gives node).map node.complete).toArray
              expanded := progress.expanded + 1
              waiting := progress.waiting - 1 }, none) := by
        have members := @visitMembers_recorded σ view limits request.target node (gives node)
          { progress with expanded := progress.expanded + 1, waiting := progress.waiting - 1 }
          fits.1 (by simpa using (by omega : progress.chains.size + (gives node).length < _))
        rw [visitNode]
        simp only [undisturbed, offered.1, untyped]
        exact members
      obtain ⟨expanded, waiting, rest⟩ := @ih offered.2 fits.2
        { progress with
          chains := progress.chains ++ ((gives node).map node.complete).toArray
          expanded := progress.expanded + 1
          waiting := progress.waiting - 1 } rfl
        (by simp only [Array.size_append, List.size_toArray, List.length_map]; omega)
      refine ⟨expanded, waiting, ?_⟩
      rw [workOff, step]
      simp only [rest]
      simp

/-- A search whose first nodes have nothing but candidates that fit records them all. -/
theorem run_recorded (untyped : request.typed = "")
    (undisturbed : ∀ expanded, signals.interruption? limits expanded = none)
    (offered : ∀ node ∈ request.firstNodes limits,
      candidates view request.callSite state node = (.ok (gives node), state))
    (fits : ∀ node ∈ request.firstNodes limits, ∀ member ∈ gives node,
      view.assignable state member.result request.target = (.ok true, state))
    (room : ((request.firstNodes limits).flatMap gives).length < limits.maxResults) :
    (run view signals limits request state).1.chains =
        (request.firstNodes limits).flatMap (fun node => (gives node).map node.complete) ∧
      (run view signals limits request state).2 = state := by
  obtain ⟨rounds, more⟩ : ∃ rounds, limits.rounds = rounds + 1 :=
    Nat.exists_eq_add_of_le' (Nat.le_max_left 1 limits.maxDepth)
  rw [run, more]
  generalize request.firstNodes limits = nodes at offered fits room ⊢
  cases nodes with
  | nil => exact ⟨rfl, rfl⟩
  | cons node nodes =>
      obtain ⟨expanded, waiting, round⟩ := @visitNodes_recorded σ view signals limits request _ _ _
        untyped undisturbed offered fits ⟨state, #[], #[], (node :: nodes).length, 0, 0, 0⟩ rfl
        (by simpa using room)
      have last : ∀ (rounds : Nat) (progress : Progress σ),
          (runRounds view signals limits request rounds progress []).1 = progress := by
        intro rounds progress
        cases rounds <;> rfl
      rw [runRounds]
      · simp only [round, last]
        simp
      · simp

end Search

/-- Chains with texts of their own are all proposed if there is room for them. -/
theorem Settings.length_le_length_propose {settings : Settings} {arena : TypeArena}
    {scope : ImportScope} {chains : List Chain} (room : chains.length ≤ settings.maxResults)
    (unique : (chains.map fun chain => (settings.textsOf arena scope chain).insertText).Nodup) :
    chains.length ≤ (settings.propose arena scope chains).length := by
  have isShown : (chains.map fun chain => (settings.textsOf arena scope chain).insertText) ⊆
      (settings.shown arena scope chains).map fun chain =>
        (settings.textsOf arena scope chain).insertText := by
    intro text isText
    obtain ⟨chain, isThere, rfl⟩ := List.mem_map.1 isText
    obtain ⟨twin, isShown, same⟩ := @Settings.exists_shown settings arena scope _ room _ isThere
    exact List.mem_map.2 ⟨twin, isShown, same⟩
  simpa [Settings.propose_eq, Settings.proposalsFor] using
    (List.subperm_of_subset unique isShown).length_le

/-- Types: `Box` and `Goal`. -/
def gridArena : TypeArena :=
  ⟨⟨[⟨.classType, "Box", [], 0⟩, ⟨.classType, "Goal", [], 0⟩]⟩⟩

/-- The boxes in reach: `b0`, `b1` and so on. -/
def gridRoot (row : Nat) : Binding := ⟨"b" ++ Nat.repr row, ⟨0⟩, .localVariable, false⟩

/-- The goals that a box has: `f0`, `f1` and so on. -/
def gridField (column : Nat) : Member := Member.ofField ⟨0⟩ ("f" ++ Nat.repr column) ⟨1⟩

/-- All members are the goals of a box, and everything fits. -/
def gridAnswers (columns : Nat) : Answers where
  members _ _ := .ok ((List.range columns).map gridField)
  assignable _ _ := .ok true

/-- A place where a goal is expected, with boxes in reach. -/
def gridSite (rows : Nat) : CursorSite :=
  { CursorSite.unknown with expected := some ⟨1⟩, bindings := (List.range rows).map gridRoot }

def gridView (rows columns : Nat) : ProgramView TypeArena :=
  (gridAnswers columns).view (gridSite rows)

def gridOrigins (rows : Nat) : Origins := ⟨⟨1⟩, (List.range rows).map gridRoot, []⟩

/-- Settings that ask for so many proposals, as plain text. -/
def plainResults (results : Nat) : Settings :=
  { Settings.standard with maxResults := results, snippets := false }

def gridChain (row column : Nat) : Chain :=
  ⟨gridRoot row, [⟨gridField column, ⟨0⟩⟩], ⟨1⟩⟩

theorem toDigits_injective {first second : Nat}
    (same : Nat.toDigits 10 first = Nat.toDigits 10 second) : first = second := by
  have numbers := congrArg (Nat.ofDigitChars 10 · 0) same
  simpa only [Nat.ofDigitChars_ten_toDigits] using numbers

theorem gridRoot_injective : Function.Injective gridRoot := by
  intro row other same
  have names := congrArg (fun root => root.name.toList) same
  simp only [gridRoot, String.toList_append, Nat.toList_repr] at names
  exact toDigits_injective (List.append_cancel_left names)

/-- Elements that do not repeat are all distinct. -/
theorem distinct_of_nodup {α : Type} [DecidableEq α] {items : List α} (unique : items.Nodup) :
    distinct items = items := by
  have fold : ∀ seen : List α, (seen ++ items).Nodup →
      items.foldl addNew seen = seen ++ items := by
    clear unique
    induction items with
    | nil => simp
    | cons item items ih =>
        intro seen unique
        have isNew : item ∉ seen := fun isThere =>
          (List.disjoint_of_nodup_append unique) isThere List.mem_cons_self
        rw [List.foldl_cons, addNew, if_neg isNew, ih, List.append_assoc, List.singleton_append]
        rwa [List.append_assoc, List.singleton_append]
  exact fold [] (by simpa using unique)

section Grid

variable (rows columns results : Nat)

theorem collect_grid :
    Origins.collect (gridView rows columns) (plainResults results) gridArena
      boxCompletion.cursor boxCompletion.typed = (some (gridOrigins rows), gridArena) := by
  have roots : ((List.range rows).map gridRoot).Nodup :=
    List.nodup_range.map gridRoot_injective
  have visible : ((List.range rows).map gridRoot).filter
      (fun binding => !(plainResults results).excludesRoot gridArena binding) =
      (List.range rows).map gridRoot := by
    rw [List.filter_eq_self]
    intro binding isThere
    obtain ⟨row, -, rfl⟩ := List.mem_map.1 isThere
    rfl
  have origins : Origins.forTarget (gridView rows columns)
      (plainResults results) gridArena boxCompletion.cursor ⟨1⟩ =
      (gridOrigins rows, gridArena) := by
    have noMakers : Origins.factoriesOf gridArena ⟨1⟩ = [] := by decide
    have noNames : (plainResults results).staticRoots = [] := rfl
    simp only [Origins.forTarget, gridView, Answers.view, gridSite, id, visible, noMakers, noNames,
      Origins.staticRoots, threadMap_nil, List.filterMap_nil, List.append_nil,
      distinct_of_nodup roots]
    rfl
  have notNew : ¬ (boxCompletion.typed = creationWord || (gridSite rows).namesNewType) = true :=
    Bool.false_ne_true
  have worthwhile : ¬ (gridArena.isVoid ⟨1⟩ ||
      (plainResults results).excludesTarget gridArena ⟨1⟩) = true := Bool.false_ne_true
  rw [Origins.collect]
  refine (if_neg notNew).trans ((if_neg worthwhile).trans ?_)
  exact congrArg (fun found => (some found.1, found.2)) origins

theorem candidates_grid (site : CallSite) (bound row : Nat) :
    candidates (gridView rows columns) site gridArena (Node.ofRoot bound (gridRoot row)) =
      (.ok ((List.range columns).map gridField), gridArena) := by
  have worthy : ((List.range columns).map gridField).filter
      ((Node.ofRoot bound (gridRoot row)).admits gridArena) =
      (List.range columns).map gridField := by
    rw [List.filter_eq_self]
    intro member isThere
    obtain ⟨column, -, rfl⟩ := List.mem_map.1 isThere
    rfl
  rw [candidates]
  show (Except.ok (((List.range columns).map gridField).filter
    ((Node.ofRoot bound (gridRoot row)).admits gridArena) ++ []), gridArena) = _
  rw [worthy, List.append_nil]

theorem run_grid (room : rows * columns < results) :
    (run (gridView rows columns) Signals.quiet (plainResults results).limits
      (boxCompletion.goal (gridView rows columns) gridArena (gridOrigins rows))
      gridArena).1.chains =
      (List.range rows ×ˢ List.range columns).map (fun place => gridChain place.1 place.2) ∧
    (run (gridView rows columns) Signals.quiet (plainResults results).limits
      (boxCompletion.goal (gridView rows columns) gridArena (gridOrigins rows)) gridArena).2 =
      gridArena := by
  have nodes : (boxCompletion.goal (gridView rows columns) gridArena
      (gridOrigins rows)).firstNodes (plainResults results).limits =
      (List.range rows).map fun row => Node.ofRoot Settings.standard.maxDepth (gridRoot row) := by
    rw [Request.firstNodes]
    show ((List.range rows).map gridRoot).map (Node.ofRoot Settings.standard.maxDepth) ++ [] = _
    rw [List.append_nil, List.map_map]
    rfl
  obtain ⟨chains, unchanged⟩ := @run_recorded _ (gridView rows columns) Signals.quiet
    (plainResults results).limits
    (boxCompletion.goal (gridView rows columns) gridArena (gridOrigins rows))
    (fun _ => (List.range columns).map gridField) gridArena rfl (fun _ => rfl)
    (by
      rw [nodes]
      intro node isFirst
      obtain ⟨row, -, rfl⟩ := List.mem_map.1 isFirst
      exact candidates_grid rows columns _ _ row)
    (fun _ _ _ _ => rfl)
    (by
      rw [nodes, List.flatMap_map]
      show (List.flatMap _ _).length < results
      simpa [List.length_flatMap] using room)
  refine ⟨?_, unchanged⟩
  rw [chains, nodes]
  show _ = (List.product _ _).map _
  rw [List.product, List.map_flatMap, List.flatMap_map]
  simp only [List.map_map]
  rfl

theorem insertText_gridChain (row column : Nat) :
    ((plainResults results).textsOf gridArena ImportScope.empty
      (gridChain row column)).insertText =
      String.ofList ('b' :: Nat.toDigits 10 row ++ '.' :: 'f' :: Nat.toDigits 10 column) := by
  show String.ofList (("b" ++ Nat.repr row).toList ++
    ('.' :: ("f" ++ Nat.repr column).toList ++ [])) = _
  simp

theorem insertText_gridChain_injective :
    Function.Injective fun place : Nat × Nat =>
      ((plainResults results).textsOf gridArena ImportScope.empty
        (gridChain place.1 place.2)).insertText := by
  have undotted : ∀ (c : Char) (number : Nat), c ≠ '.' → '.' ∉ c :: Nat.toDigits 10 number := by
    intro c number differs isThere
    rcases List.mem_cons.1 isThere with same | digit
    · exact differs same.symm
    · exact absurd (Nat.isDigit_of_mem_toDigits (by decide) (by decide) digit) (by decide)
  rintro ⟨row, column⟩ ⟨row', column'⟩ same
  simp only [insertText_gridChain, String.ofList_inj] at same
  obtain ⟨rows, -, columns⟩ := (List.append_cons_inj_of_notMem (undotted 'b' row (by decide))
    (undotted 'f' column (by decide))).1 same
  rw [toDigits_injective (List.tail_eq_of_cons_eq rows),
    toDigits_injective (List.tail_eq_of_cons_eq columns)]

/-- Every box with each of its goals is proposed. -/
theorem length_complete_grid (room : rows * columns < results) :
    rows * columns ≤
      (complete (gridView rows columns) (plainResults results) Signals.quiet boxCompletion
        gridArena).1.length := by
  have undisturbed : Signals.quiet.Undisturbed (plainResults results).timeoutMs :=
    ⟨rfl, fun _ => show 0 < 3000 by decide⟩
  have valid : (plainResults results).fault? = none := by
    have positive : results ≠ 0 := by omega
    simp [Settings.fault?, plainResults, Settings.standard, positive]
  obtain ⟨chains, unchanged⟩ := run_grid rows columns results room
  rw [complete_eq_propose rfl valid undisturbed (collect_grid rows columns results), chains,
    unchanged]
  have count : ((List.range rows ×ˢ List.range columns).map fun place =>
      gridChain place.1 place.2).length = rows * columns := by
    simp [List.length_product]
  have places : (List.range rows ×ˢ List.range columns).Nodup :=
    List.nodup_range.product List.nodup_range
  refine count.symm.le.trans (Settings.length_le_length_propose ?_ ?_)
  · rw [count]
    exact room.le
  · rw [List.map_map]
    exact places.map (insertText_gridChain_injective results)

end Grid

/-- With 317 boxes that have 317 goals each there are more proposals than places with five
digits: their keys do not go up, and a client that sorts by key gets another list. -/
theorem complete_grid_not_sorted :
    ¬ Increasing Proposal.keyPrecedes
        (complete (gridView 317 317) (plainResults 200000) Signals.quiet boxCompletion
          gridArena).1 ∧
      ∃ sorted : List Proposal,
        sorted.Perm (complete (gridView 317 317) (plainResults 200000) Signals.quiet
          boxCompletion gridArena).1 ∧
        SortedByKey sorted ∧
        sorted ≠ (complete (gridView 317 317) (plainResults 200000) Signals.quiet
          boxCompletion gridArena).1 := by
  have long := length_complete_grid 317 317 200000 (by decide)
  have keyed := keyed_complete (gridView 317 317) (plainResults 200000) Signals.quiet
    boxCompletion gridArena
  generalize (complete (gridView 317 317) (plainResults 200000) Signals.quiet boxCompletion
    gridArena).1 = proposals at long keyed ⊢
  have unsorted := keyed.not_sortedByKey (Nat.lt_of_lt_of_le (by decide) long)
  refine ⟨fun increasing => unsorted (SortedByKey.of_increasing increasing), ?_⟩
  obtain ⟨sorted, same, isSorted⟩ := exists_sortedByKey proposals
  exact ⟨sorted, same, isSorted, fun unchanged => unsorted (unchanged ▸ isSorted)⟩

end ChainCompletion
