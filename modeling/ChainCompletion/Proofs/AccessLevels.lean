/-
# Proofs.AccessLevels -- a wider visibility opens a member to more call sites

A private member asks for one outermost type around the call site and the declaring type, a
member without a modifier for one package.  Both are read off the names, and differently: the
package ends before the first segment that does not start small, the outermost type with it --
but a name of which all segments start small has no package, and its first segment is the
outermost type.

Still the outermost type tells the package.  A name that is cut off behind its outermost type
has the package it had (`QualifiedName.package?_topLevel`) and is not cut again
(`QualifiedName.topLevel_topLevel`).  So two names with one outermost type have one package, and
at a call site that lies in the package of its enclosing type the visibilities are nested
(`Declarations.permits_nested`).
-/
import ChainCompletion.Declarations.Access

namespace ChainCompletion

open Text

set_option autoImplicit false

namespace QualifiedName

variable {name : String} {parts : List (List Char)}

/-! ## Names and their segments -/

theorem segments_ne_nil (name : String) : segments name ≠ [] :=
  List.cons_ne_nil _ _

theorem ofSegments_segments (name : String) : ofSegments (segments name) = name := by
  rw [ofSegments, segments, joinWith_splitAtEach, String.ofList_toList]

theorem segments_ofSegments (given : parts ≠ []) (undotted : ∀ part ∈ parts, '.' ∉ part) :
    segments (ofSegments parts) = parts := by
  rw [segments, ofSegments, String.toList_ofList, splitAtEach_joinWith given undotted]

/-- A name starts with its first segments, and goes on with a dot if there are others. -/
theorem eq_ofSegments_take_append (name : String) {count : Nat} (some : 0 < count) :
    ∃ rest, name = ofSegments ((segments name).take count) ++ rest ∧
      (rest = "" ∧ (segments name).drop count = [] ∨ ∃ more, rest = "." ++ more) := by
  have whole := ofSegments_segments name
  by_cases last : (segments name).drop count = []
  · refine ⟨"", ?_, Or.inl ⟨rfl, last⟩⟩
    have same := List.take_append_drop count (segments name)
    rw [last, List.append_nil] at same
    rw [same, whole, String.append_empty]
  · have first : (segments name).take count ≠ [] := by
      simp [List.take_eq_nil_iff, segments_ne_nil, Nat.pos_iff_ne_zero.1 some]
    refine ⟨"." ++ ofSegments ((segments name).drop count), ?_, Or.inr ⟨_, rfl⟩⟩
    rw [← List.take_append_drop count (segments name), ofSegments, joinWith_append first last]
      at whole
    rw [← String.toList_inj] at whole ⊢
    rw [← whole]
    simp [ofSegments]

/-! ## The segments of the package -/

/-- The segments of a package end where one does not start small. -/
theorem packagePart_append {small rest : List (List Char)} {first : List Char}
    (areSmall : ∀ part ∈ small, startsSmall part = true) (isNot : startsSmall first = false) :
    packagePart (small ++ first :: rest) = small := by
  have mixed : ¬ (small ++ first :: rest).all startsSmall = true := by
    simp [isNot]
  rw [packagePart, if_neg mixed, List.takeWhile_append_of_pos areSmall,
    List.takeWhile_cons_of_neg (by simp [isNot]), List.append_nil]

/-- A name with a package has a segment behind it, the first that does not start small; if it
has none, then because its first segment is that one or because there is no such segment. -/
theorem packagePart_cases (parts : List (List Char)) :
    (parts.all startsSmall = true ∧ packagePart parts = []) ∨
      ∃ first rest, parts = packagePart parts ++ first :: rest ∧ startsSmall first = false ∧
        ∀ part ∈ packagePart parts, startsSmall part = true := by
  by_cases small : parts.all startsSmall = true
  · exact Or.inl ⟨small, if_pos small⟩
  · have upTo : packagePart parts = parts.takeWhile startsSmall := if_neg small
    have split := List.takeWhile_append_dropWhile (p := startsSmall) (l := parts)
    have areSmall : (parts.takeWhile startsSmall).all startsSmall = true := List.all_takeWhile
    cases behind : parts.dropWhile startsSmall with
    | nil =>
        rw [behind, List.append_nil] at split
        rw [split] at areSmall
        exact absurd areSmall small
    | cons first rest =>
        have isNot : startsSmall first = false := by
          have head := List.head?_dropWhile_not startsSmall parts
          rw [behind] at head
          simpa using head
        refine Or.inr ⟨first, rest, ?_, isNot, ?_⟩
        · rw [upTo, ← behind, split]
        · rw [upTo]
          exact List.all_eq_true.1 areSmall

/-- The segments up to the outermost type have the package of all. -/
theorem packagePart_take (parts : List (List Char)) :
    packagePart (parts.take ((packagePart parts).length + 1)) = packagePart parts := by
  rcases packagePart_cases parts with ⟨small, none⟩ | ⟨first, rest, split, isNot, areSmall⟩
  · have small' : (parts.take ((packagePart parts).length + 1)).all startsSmall = true := by
      rw [List.all_eq_true] at small ⊢
      intro part isThere
      exact small part (List.mem_of_mem_take isThere)
    rw [packagePart, if_pos small', none]
  · have cut : parts.take ((packagePart parts).length + 1) = packagePart parts ++ [first] := by
      generalize packagePart parts = package at split ⊢
      rw [split, List.take_length_add_append]
      rfl
    rw [cut]
    exact packagePart_append areSmall isNot

/-! ## The outermost type -/

theorem segments_topLevel (name : String) :
    segments (topLevel name) =
      (segments name).take ((packagePart (segments name)).length + 1) := by
  apply segments_ofSegments
  · simp [List.take_eq_nil_iff, segments_ne_nil]
  · intro part isThere
    exact not_mem_of_mem_splitAtEach (List.mem_of_mem_take isThere)

/-- The outermost type around a type lies in the same package. -/
theorem package?_topLevel (name : String) : package? (topLevel name) = package? name := by
  rw [package?, segments_topLevel, packagePart_take]
  rfl

/-- The outermost type is the outermost one around itself. -/
theorem topLevel_topLevel (name : String) : topLevel (topLevel name) = topLevel name := by
  calc topLevel (topLevel name)
      = ofSegments ((segments (topLevel name)).take
          ((packagePart (segments (topLevel name))).length + 1)) := rfl
    _ = ofSegments ((segments name).take ((packagePart (segments name)).length + 1)) := by
        rw [segments_topLevel, packagePart_take, List.take_take, Nat.min_self]
    _ = topLevel name := rfl

/-- A package is followed by a dot in every name that has it. -/
theorem eq_package_append {package : String} (has : package? name = some package) :
    ∃ rest, name = package ++ "." ++ rest := by
  rw [package?] at has
  split at has
  · cases has
  · next given =>
      obtain rfl := Option.some.inj has
      rcases packagePart_cases (segments name) with ⟨-, none⟩ | ⟨first, rest, split, -, -⟩
      · exact absurd none given
      · have some : 0 < (packagePart (segments name)).length :=
          List.length_pos_iff.2 given
        obtain ⟨tail, whole, last⟩ := eq_ofSegments_take_append name some
        have start : (segments name).take (packagePart (segments name)).length =
            packagePart (segments name) := by
          generalize packagePart (segments name) = package at split ⊢
          rw [split, List.take_left]
        rw [start] at whole
        rcases last with ⟨-, nothing⟩ | ⟨more, rfl⟩
        · generalize packagePart (segments name) = package at split nothing
          rw [split, List.drop_left] at nothing
          cases nothing
        · exact ⟨more, by rw [String.append_assoc]; exact whole⟩

end QualifiedName

open QualifiedName

/-- How far a visibility reaches, in comparison with the others. -/
def Visibility.reach : Visibility → Nat
  | .outermostOnly => 0
  | .packageOnly => 1
  | .packageAndHeirs => 2
  | .everywhere => 3

namespace Declarations

variable {decls : Declarations} {arena : TypeArena} {site : CallSite} {declaring : String}

/-- Within the outermost type one is within its package. -/
theorem inPackageOf_of_inOutermostOf {enclosing : String} (isWithin : site.enclosing = some enclosing)
    (isDerived : site.package = package? enclosing) (inOutermost : inOutermostOf site declaring = true) :
    inPackageOf site declaring = true := by
  have same : topLevel enclosing = topLevel declaring := by
    simpa [inOutermostOf, isWithin] using inOutermost
  have package : package? declaring = package? enclosing := by
    rw [← package?_topLevel declaring, ← same, package?_topLevel]
  simp [inPackageOf, isDerived, package]

/-- In the package a member may be used unless it is kept within its outermost type. -/
theorem permits_of_inPackageOf (inPackage : inPackageOf site declaring = true)
    {visibility : Visibility} (reaches : 1 ≤ visibility.reach) :
    (decls.permits arena site declaring visibility).1 = true := by
  cases visibility with
  | outermostOnly => exact absurd reaches (by decide)
  | packageOnly => exact inPackage
  | packageAndHeirs => rw [permits, if_pos inPackage]
  | everywhere => rfl

/-- **Visibilities are nested.**  At a call site that lies in the package of its enclosing type,
what a member of any declaring type may be used for with one visibility, it may be used for with
every wider one.  Names with the same outermost type have the same package.  The outermost type
is outermost around itself, and is cut out of the name, before a dot or at its end; and so is the
package, whose name is always followed by a dot. -/
theorem permits_nested (decls : Declarations) (arena : TypeArena) :
    (∀ (site : CallSite) (enclosing declaring : String), site.enclosing = some enclosing →
      site.package = package? enclosing →
      ∀ narrow wide : Visibility, narrow.reach ≤ wide.reach →
        (decls.permits arena site declaring narrow).1 = true →
        (decls.permits arena site declaring wide).1 = true) ∧
    (∀ first second : String, topLevel first = topLevel second →
      package? first = package? second) ∧
    ∀ name : String, topLevel (topLevel name) = topLevel name ∧
      (∃ rest, name = topLevel name ++ rest ∧ (rest = "" ∨ ∃ more, rest = "." ++ more)) ∧
      ∀ package, package? name = some package → ∃ rest, name = package ++ "." ++ rest := by
  refine ⟨?_, ?_, ?_⟩
  · intro site enclosing declaring isWithin isDerived narrow wide wider permitted
    cases narrow with
    | outermostOnly =>
        have inPackage := inPackageOf_of_inOutermostOf isWithin isDerived permitted
        cases wide with
        | outermostOnly => exact permitted
        | packageOnly | packageAndHeirs | everywhere =>
            exact permits_of_inPackageOf inPackage (by decide)
    | packageOnly => exact permits_of_inPackageOf permitted wider
    | packageAndHeirs =>
        cases wide with
        | everywhere => rfl
        | packageAndHeirs => exact permitted
        | packageOnly | outermostOnly => exact absurd wider (by decide)
    | everywhere =>
        cases wide with
        | everywhere => rfl
        | packageAndHeirs | packageOnly | outermostOnly => exact absurd wider (by decide)
  · intro first second same
    rw [← package?_topLevel first, same, package?_topLevel]
  · intro name
    refine ⟨topLevel_topLevel name, ?_, fun package has => eq_package_append has⟩
    obtain ⟨rest, whole, last⟩ :=
      eq_ofSegments_take_append name (Nat.succ_pos (packagePart (segments name)).length)
    exact ⟨rest, whole, last.imp_left And.left⟩

/-- A type of which all names are written with accents, and nothing above it. -/
def boxDeclarations : Declarations := empty.declare "été.Boîte" none [] []

/-- A place in a type nested in it. -/
def boxSite : CallSite := ⟨some "été.Boîte.Côté", some "été"⟩

/-- From a nested type the private members of the outer one may be used, and so may protected
ones. -/
theorem permits_nested_box :
    boxSite.package = package? "été.Boîte.Côté" ∧
    (boxDeclarations.permits .empty boxSite "été.Boîte" .outermostOnly).1 = true ∧
    (boxDeclarations.permits .empty boxSite "été.Boîte" .packageAndHeirs).1 = true := by
  have isDerived : boxSite.package = package? "été.Boîte.Côté" := by decide
  have permitted : (boxDeclarations.permits .empty boxSite "été.Boîte" .outermostOnly).1 = true := by
    decide
  obtain ⟨nested, -⟩ := permits_nested boxDeclarations .empty
  exact ⟨isDerived, permitted, nested boxSite "été.Boîte.Côté" "été.Boîte" rfl isDerived
    .outermostOnly .packageAndHeirs (by decide) permitted⟩

end Declarations

end ChainCompletion
