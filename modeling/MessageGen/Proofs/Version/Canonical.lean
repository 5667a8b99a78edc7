import Mathlib.Data.List.Sort
import Mathlib.Data.Set.Card
import MessageGen.Proofs.Outcome
import MessageGen.Proofs.Version.Membership

/-!
# Version sets are canonical

However a version set is built, its list is strictly ascending and holds the versions
that the operations say. So the tests by halving, the bounds at the ends, the size and
the equality of the lists are those of the set of members, and the test for gaps never
goes beyond the greatest version.
-/

namespace MessageGen

/-- Whether a range is meant for a version, where an open range ends at a ceiling. -/
def VersionRange.HoldsUpTo (range : VersionRange) (ceiling version : Version) : Prop :=
  match range with
  | .openEnded low => low ≤ version ∧ version ≤ ceiling
  | other => other.Holds version

namespace VersionSet

/-- A way to build a version set by the operations of the library. -/
inductive Construction where
  | empty
  | single (version : Version)
  | range (low high : Version)
  | ofList (versions : List Version)
  | inter (left right : Construction)
  | expand (written : VersionRange) (ceiling : Version)
  | resolve (expression : String) (ceiling? : Option Version)
  | resolveFlexible (expression : String) (valid : Construction)

namespace Construction

/-- The set that is built, unless an expression on the way is refused. -/
def build : Construction → Except GenerationError VersionSet
  | .empty => .ok VersionSet.empty
  | .single version => .ok (VersionSet.single version)
  | .range low high => .ok (VersionSet.range low high)
  | .ofList versions => .ok (VersionSet.ofList versions)
  | .inter left right => do return (← left.build).inter (← right.build)
  | .expand written ceiling => .ok (written.expand ceiling)
  | .resolve expression ceiling? => VersionRange.resolve expression ceiling?
  | .resolveFlexible expression valid => do
    VersionRange.resolveFlexible expression (← valid.build)

/-- The versions that a construction is meant to collect. -/
def Collects : Construction → Version → Prop
  | .empty, _ => False
  | .single only, version => version = only
  | .range low high, version => low ≤ version ∧ version ≤ high
  | .ofList versions, version => version ∈ versions
  | .inter left right, version => left.Collects version ∧ right.Collects version
  | .expand written ceiling, version => written.HoldsUpTo ceiling version
  | .resolve expression ceiling?, version =>
    ∃ range, VersionRange.parse expression = .ok range ∧
      range.HoldsUpTo (ceiling?.getD range.largestBound) version
  | .resolveFlexible expression valid, version =>
    ∃ range, VersionRange.parse expression = .ok range ∧ range.Holds version ∧
      valid.Collects version

end Construction

/-- What a set shows of itself is what its members are. -/
structure IsCanonical (set : VersionSet) : Prop where
  ascending : set.toList.Pairwise (· < ·)
  contains_iff : ∀ version, set.contains version = true ↔ version ∈ set.toList
  isLeast_iff : ∀ version, set.min? = some version ↔ IsLeast {member | member ∈ set} version
  isGreatest_iff :
    ∀ version, set.max? = some version ↔ IsGreatest {member | member ∈ set} version
  size : set.size = Set.ncard {member | member ∈ set}
  successor_toNat : ∀ before first second after,
    set.toList = before ++ first :: second :: after → (first + 1).toNat = first.toNat + 1
  isContiguous_iff : ∀ low high, set.min? = some low → set.max? = some high →
    (set.isContiguous = true ↔ ∀ version, version ∈ set ↔ low ≤ version ∧ version ≤ high)

variable {set left right : VersionSet} {version low high : Version} {versions : List Version}

@[simp]
theorem mem_ofList : version ∈ ofList versions ↔ version ∈ versions := by
  simp [mem_iff_mem_toList, toList, ofList]

theorem ext_iff_mem : left = right ↔ ∀ version, version ∈ left ↔ version ∈ right := by
  constructor
  · rintro rfl version
    exact Iff.rfl
  · intro same
    apply toList_injective
    apply List.Pairwise.eq_of_mem_iff left.ascending right.ascending
    exact same

section Bounds

theorem head?_eq_some_iff (ascending : versions.Pairwise (· < ·)) :
    versions.head? = some version ↔ version ∈ versions ∧ ∀ other ∈ versions, version ≤ other := by
  cases versions with
  | nil => simp
  | cons first rest =>
      rcases List.pairwise_cons.mp ascending with ⟨below, -⟩
      simp only [List.head?_cons, Option.some.injEq]
      constructor
      · rintro rfl
        refine ⟨List.mem_cons_self, ?_⟩
        intro other other_mem
        rcases List.mem_cons.mp other_mem with rfl | other_mem
        · exact UInt16.le_refl _
        · exact UInt16.le_of_lt (below other other_mem)
      · rintro ⟨version_mem, least⟩
        rcases List.mem_cons.mp version_mem with rfl | version_mem
        · rfl
        · exact absurd (below version version_mem)
            (UInt16.not_lt.mpr (least first List.mem_cons_self))

theorem getLast?_eq_some_iff (ascending : versions.Pairwise (· < ·)) :
    versions.getLast? = some version ↔ version ∈ versions ∧ ∀ other ∈ versions, other ≤ version := by
  rcases List.eq_nil_or_concat' versions with rfl | ⟨rest, last, rfl⟩
  · simp
  · rcases List.pairwise_append.mp ascending with ⟨-, -, below⟩
    simp only [List.getLast?_concat, Option.some.injEq]
    constructor
    · rintro rfl
      refine ⟨by simp, ?_⟩
      intro other other_mem
      rcases List.mem_append.mp other_mem with other_mem | other_mem
      · exact UInt16.le_of_lt (below other other_mem _ (by simp))
      · rw [List.mem_singleton.mp other_mem]
        exact UInt16.le_refl _
    · rintro ⟨version_mem, greatest⟩
      rcases List.mem_append.mp version_mem with version_mem | version_mem
      · exact absurd (below version version_mem last (by simp))
          (UInt16.not_lt.mpr (greatest last (by simp)))
      · exact (List.mem_singleton.mp version_mem).symm

theorem min?_eq_some_iff :
    set.min? = some version ↔ IsLeast {member | member ∈ set} version := by
  rw [min?, ← Array.getElem?_toList, ← List.head?_eq_getElem?]
  exact head?_eq_some_iff set.ascending

theorem max?_eq_some_iff :
    set.max? = some version ↔ IsGreatest {member | member ∈ set} version := by
  rw [max?, ← Array.getLast?_toList]
  exact getLast?_eq_some_iff set.ascending

end Bounds

theorem size_eq_ncard (set : VersionSet) : set.size = Set.ncard {member | member ∈ set} := by
  have distinct : set.toList.Nodup := set.ascending.imp UInt16.ne_of_lt
  have members : {member | member ∈ set} = (set.toList.toFinset : Set Version) := by
    ext member
    simp [mem_iff_mem_toList]
  rw [members, Set.ncard_coe_finset, List.toFinset_card_of_nodup distinct]
  simp [size, toList]

section Gaps

/-- The versions below a greater one have a successor. -/
theorem toNat_add_one_of_lt (less : low < high) : (low + 1).toNat = low.toNat + 1 := by
  have bound := high.toNat_lt
  rw [UInt16.lt_iff_toNat_lt] at less
  rw [UInt16.toNat_add, UInt16.toNat_one, Nat.mod_eq_of_lt (by omega)]

/-- No version is missing from an ascending list, from its first member up to any other. -/
theorem isConsecutive_iff {first : Version} {rest : List Version}
    (ascending : (first :: rest).Pairwise (· < ·)) :
    isConsecutive (first :: rest) = true ↔
      ∀ version, first ≤ version → (∃ other ∈ first :: rest, version ≤ other) →
        version ∈ first :: rest := by
  induction rest generalizing first with
  | nil =>
      simp only [isConsecutive, List.mem_singleton, exists_eq_left, true_iff]
      intro version above below
      exact UInt16.le_antisymm below above
  | cons second rest ih =>
      rcases List.pairwise_cons.mp ascending with ⟨below, restAscending⟩
      have less : first < second := below second List.mem_cons_self
      have successor := toNat_add_one_of_lt less
      rw [isConsecutive, Bool.and_eq_true, beq_iff_eq, ih restAscending]
      constructor
      · rintro ⟨rfl, noneMissing⟩ version above ⟨other, other_mem, belowOther⟩
        by_cases isFirst : version = first
        · simp [isFirst]
        have isAbove : first.toNat < version.toNat := by
          rw [← UInt16.toNat_inj] at isFirst
          rw [UInt16.le_iff_toNat_le] at above
          omega
        apply List.mem_cons_of_mem
        apply noneMissing version
        · rw [UInt16.le_iff_toNat_le]
          omega
        · rcases List.mem_cons.mp other_mem with rfl | other_mem
          · rw [UInt16.le_iff_toNat_le] at belowOther
            omega
          · exact ⟨other, other_mem, belowOther⟩
      · intro noneMissing
        constructor
        · have next_le : first + 1 ≤ second := by
            rw [UInt16.lt_iff_toNat_lt] at less
            rw [UInt16.le_iff_toNat_le]
            omega
          have next_mem : first + 1 ∈ first :: second :: rest := by
            apply noneMissing
            · rw [UInt16.le_iff_toNat_le]
              omega
            · exact ⟨second, by simp, next_le⟩
          rcases List.mem_cons.mp next_mem with isFirst | next_mem
          · rw [isFirst] at successor
            omega
          · apply UInt16.le_antisymm _ next_le
            rcases List.mem_cons.mp next_mem with isSecond | next_mem
            · exact isSecond ▸ UInt16.le_refl _
            · exact UInt16.le_of_lt ((List.pairwise_cons.mp restAscending).1 _ next_mem)
        · rintro version above ⟨other, other_mem, belowOther⟩
          have isAbove : first < version := UInt16.lt_of_lt_of_le less above
          have version_mem := noneMissing version (UInt16.le_of_lt isAbove)
            ⟨other, List.mem_cons_of_mem first other_mem, belowOther⟩
          rcases List.mem_cons.mp version_mem with rfl | version_mem
          · exact absurd isAbove (UInt16.lt_irrefl _)
          · exact version_mem

theorem isContiguous_iff (isMin : set.min? = some low) (isMax : set.max? = some high) :
    set.isContiguous = true ↔ ∀ version, version ∈ set ↔ low ≤ version ∧ version ≤ high := by
  rcases min?_eq_some_iff.mp isMin with ⟨low_mem, least⟩
  rcases max?_eq_some_iff.mp isMax with ⟨high_mem, greatest⟩
  have ascending := set.ascending
  have isHead : set.toList.head? = some low :=
    (head?_eq_some_iff ascending).mpr ⟨low_mem, least⟩
  rcases List.head?_eq_some_iff.mp isHead with ⟨rest, members⟩
  change set.toList.Pairwise (· < ·) at ascending
  simp only [isContiguous, mem_iff_mem_toList]
  simp only [Set.mem_ofPred_eq, mem_iff_mem_toList] at high_mem
  rw [members] at ascending high_mem ⊢
  rw [isConsecutive_iff ascending]
  constructor
  · intro noneMissing version
    constructor
    · intro version_mem
      rw [← members] at version_mem
      exact ⟨least version_mem, greatest version_mem⟩
    · rintro ⟨above, below⟩
      exact noneMissing version above ⟨high, high_mem, below⟩
  · rintro between version above ⟨other, other_mem, below⟩
    rw [between]
    exact ⟨above, UInt16.le_trans below ((between other).mp other_mem).2⟩

/-- No two neighbours of a set stand so high that the lower one has no successor. -/
theorem toNat_successor_of_toList {before after : List Version} {first second : Version}
    (members : set.toList = before ++ first :: second :: after) :
    (first + 1).toNat = first.toNat + 1 := by
  have ascending := set.ascending
  change set.toList.Pairwise (· < ·) at ascending
  rw [members, List.pairwise_append] at ascending
  exact toNat_add_one_of_lt ((List.pairwise_cons.mp ascending.2.1).1 second List.mem_cons_self)

end Gaps

theorem isCanonical (set : VersionSet) : set.IsCanonical where
  ascending := set.ascending
  contains_iff _ := contains_iff_mem
  isLeast_iff _ := min?_eq_some_iff
  isGreatest_iff _ := max?_eq_some_iff
  size := set.size_eq_ncard
  successor_toNat _ _ _ _ members := toNat_successor_of_toList members
  isContiguous_iff _ _ isMin isMax := isContiguous_iff isMin isMax

end VersionSet

namespace VersionRange

variable {set valid : VersionSet} {expression : String} {version ceiling : Version}
  {range : VersionRange}

theorem HoldsUpTo.holds (holds : range.HoldsUpTo ceiling version) : range.Holds version := by
  cases range with
  | openEnded low => exact holds.1
  | none | exact only | bounded low high => exact holds

theorem mem_expand_iff_holdsUpTo :
    version ∈ range.expand ceiling ↔ range.HoldsUpTo ceiling version := by
  cases range <;> simp [expand, HoldsUpTo, Holds]

theorem mem_of_resolve {ceiling? : Option Version}
    (resolved : resolve expression ceiling? = .ok set) :
    version ∈ set ↔ ∃ range, parse expression = .ok range ∧
      range.HoldsUpTo (ceiling?.getD range.largestBound) version := by
  simp only [resolve, Except.bind_eq_ok_iff, Except.pure_eq_ok_iff] at resolved
  rcases resolved with ⟨range, parsed, rfl⟩
  simp [parsed, mem_expand_iff_holdsUpTo]

theorem mem_of_resolveFlexible (resolved : resolveFlexible expression valid = .ok set) :
    version ∈ set ↔ ∃ range, parse expression = .ok range ∧ range.Holds version ∧
      version ∈ valid := by
  simp only [resolveFlexible, Except.bind_eq_ok_iff] at resolved
  rcases resolved with ⟨range, parsed, resolved⟩
  rw [Except.ite_error_eq_ok_iff] at resolved
  rcases resolved with ⟨-, resolved⟩
  split at resolved
  · cases resolved
  rename_i noStray
  cases resolved
  simp only [List.find?_eq_none, Bool.not_eq_true', Bool.not_eq_false,
    VersionSet.contains_iff_mem, ← VersionSet.mem_iff_mem_toList] at noStray
  simp only [parsed, Except.ok.injEq, exists_eq_left']
  constructor
  · intro version_mem
    exact ⟨(mem_expand_iff_holdsUpTo.mp version_mem).holds, noStray version version_mem⟩
  · rintro ⟨holds, isValid⟩
    exact (mem_expand_iff_holds (VersionSet.le_max?_getD isValid)).mpr holds

end VersionRange

namespace VersionSet.Construction

variable {construction : Construction} {set : VersionSet}

theorem mem_of_build (built : construction.build = .ok set) (version : Version) :
    version ∈ set ↔ construction.Collects version := by
  induction construction generalizing set with
  | empty =>
      cases built
      simp [Collects]
  | single only =>
      cases built
      simp [Collects]
  | range low high =>
      cases built
      simp [Collects]
  | ofList versions =>
      cases built
      simp [Collects]
  | inter left right ihLeft ihRight =>
      simp only [build, Except.bind_eq_ok_iff, Except.pure_eq_ok_iff] at built
      rcases built with ⟨leftSet, leftBuilt, rightSet, rightBuilt, rfl⟩
      simp [Collects, ihLeft leftBuilt, ihRight rightBuilt]
  | expand written ceiling =>
      cases built
      exact VersionRange.mem_expand_iff_holdsUpTo
  | resolve expression ceiling? => exact VersionRange.mem_of_resolve built
  | resolveFlexible expression valid ih =>
      simp only [build, Except.bind_eq_ok_iff] at built
      rcases built with ⟨validSet, validBuilt, resolved⟩
      simp only [Collects, VersionRange.mem_of_resolveFlexible resolved, ih validBuilt]

/--
A set that any sequence of operations builds holds exactly the versions that they collect,
in strictly ascending order. What is computed from the order agrees with the members, for
one set and for two.
-/
theorem build_canonical (first second : Construction) (left right : VersionSet)
    (leftBuilt : first.build = .ok left) (rightBuilt : second.build = .ok right) :
    left.IsCanonical ∧ (∀ version, version ∈ left ↔ first.Collects version) ∧
      (∀ version, version ∈ left.inter right ↔ version ∈ left ∧ version ∈ right) ∧
      (left.isSubset right = true ↔ ∀ version ∈ left, version ∈ right) ∧
      (left = right ↔ ∀ version, first.Collects version ↔ second.Collects version) := by
  refine ⟨left.isCanonical, mem_of_build leftBuilt, fun _ => mem_inter, isSubset_iff, ?_⟩
  simp only [ext_iff_mem, mem_of_build leftBuilt, mem_of_build rightBuilt]

/-- The greatest version from a list with repetitions, and in an open range up to it. -/
theorem build_canonical_greatest :
    ∃ left right,
      build (.inter (.ofList [65535, 2, 65534, 2]) (.resolve " 65534 + " (some 65535))) = .ok left ∧
      build (.resolveFlexible "65534+" (.range 65000 65535)) = .ok right ∧
      left.IsCanonical ∧ left = right := by
  have leftBuilds : ∃ left, build (.inter (.ofList [65535, 2, 65534, 2])
      (.resolve " 65534 + " (some 65535))) = .ok left :=
    Except.exists_ok_of_isOk (by decide +kernel)
  have rightBuilds : ∃ right, build (.resolveFlexible "65534+" (.range 65000 65535)) =
      .ok right :=
    Except.exists_ok_of_isOk (by decide +kernel)
  rcases leftBuilds with ⟨left, leftBuilt⟩
  rcases rightBuilds with ⟨right, rightBuilt⟩
  have canonical := build_canonical _ _ left right leftBuilt rightBuilt
  refine ⟨left, right, leftBuilt, rightBuilt, canonical.1, canonical.2.2.2.2.mpr ?_⟩
  intro version
  have openRange : VersionRange.parse " 65534 + " = .ok (.openEnded 65534) := rfl
  have sameRange : VersionRange.parse "65534+" = .ok (.openEnded 65534) := rfl
  simp [Collects, VersionRange.HoldsUpTo, VersionRange.Holds, openRange, sameRange,
    UInt16.le_iff_toNat_le, ← UInt16.toNat_inj]
  omega

end VersionSet.Construction

end MessageGen
