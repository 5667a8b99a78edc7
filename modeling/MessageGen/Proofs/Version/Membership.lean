import Mathlib.Tactic.Common
import MessageGen.Version.Range

/-!
# Membership in version sets and ranges

The array of a version set is ascending, so the search by halving finds exactly the
members, and the operations that test members with it mean what their names say. A
range that is expanded to a ceiling holds the versions up to the ceiling that it is
meant for, and possibly others above it; once only versions up to the ceiling are kept,
the ceiling has no effect.
-/

namespace MessageGen

namespace VersionSet

variable {set left right : VersionSet} {version : Version}

theorem getElem_lt_getElem (set : VersionSet) {lower upper : Nat} (less : lower < upper)
    (lowerInBounds : lower < set.versions.size) (upperInBounds : upper < set.versions.size) :
    set.versions[lower] < set.versions[upper] := by
  have ordered := List.pairwise_iff_getElem.mp set.ascending lower upper
    (by simpa using lowerInBounds) (by simpa using upperInBounds) less
  simpa using ordered

theorem getElem_le_getElem (set : VersionSet) {lower upper : Nat} (le : lower ≤ upper)
    (lowerInBounds : lower < set.versions.size) (upperInBounds : upper < set.versions.size) :
    set.versions[lower] ≤ set.versions[upper] := by
  rcases Nat.lt_or_eq_of_le le with less | rfl
  · exact UInt16.le_of_lt (set.getElem_lt_getElem less lowerInBounds upperInBounds)
  · exact UInt16.le_refl _

/-- The search by halving finds a version exactly if it stands between the two positions. -/
theorem containsBetween_iff (set : VersionSet) (version : Version) (low high : Nat)
    (inBounds : high ≤ set.versions.size) :
    containsBetween set.versions version low high inBounds = true ↔
      ∃ position, low ≤ position ∧ position < high ∧
        ∃ valid : position < set.versions.size, set.versions[position] = version := by
  fun_induction containsBetween set.versions version low high inBounds with
  | case1 low high inBounds nonempty middle found =>
      simp only [true_iff]
      exact ⟨middle, by omega, by omega, by omega, found⟩
  | case2 low high inBounds nonempty middle notFound below ih =>
      rw [ih]
      constructor
      · rintro ⟨position, above, inside, valid, holds⟩
        exact ⟨position, by omega, inside, valid, holds⟩
      · rintro ⟨position, above, inside, valid, holds⟩
        refine ⟨position, ?_, inside, valid, holds⟩
        by_contra notAbove
        have ordered := set.getElem_le_getElem (show position ≤ middle by omega) valid (by omega)
        rw [holds] at ordered
        exact UInt16.not_lt.mpr ordered below
  | case3 low high inBounds nonempty middle notFound notBelow ih =>
      rw [ih]
      constructor
      · rintro ⟨position, above, inside, valid, holds⟩
        exact ⟨position, above, by omega, valid, holds⟩
      · rintro ⟨position, above, inside, valid, holds⟩
        refine ⟨position, above, ?_, valid, holds⟩
        by_contra notInside
        have ordered := set.getElem_le_getElem (show middle ≤ position by omega) (by omega) valid
        rw [holds] at ordered
        exact notFound (UInt16.le_antisymm ordered (UInt16.not_lt.mp notBelow))
  | case4 low high inBounds nothing =>
      simp only [Bool.false_eq_true, false_iff]
      rintro ⟨position, above, inside, -⟩
      omega

@[simp]
theorem contains_iff_mem : set.contains version = true ↔ version ∈ set := by
  rw [contains, containsBetween_iff, mem_iff_mem_toList, toList, Array.mem_toList_iff,
    Array.mem_iff_getElem]
  constructor
  · rintro ⟨position, -, -, valid, holds⟩
    exact ⟨position, valid, holds⟩
  · rintro ⟨position, valid, holds⟩
    exact ⟨position, Nat.zero_le _, valid, valid, holds⟩

@[simp]
theorem not_mem_empty : version ∉ empty := by
  simp [mem_iff_mem_toList, toList, empty]

@[simp]
theorem mem_single {only : Version} : version ∈ single only ↔ version = only := by
  simp [mem_iff_mem_toList, toList, single]

@[simp]
theorem mem_range {low high : Version} :
    version ∈ range low high ↔ low ≤ version ∧ version ≤ high := by
  simp [mem_iff_mem_toList, toList, range, mem_rangeList]

@[simp]
theorem mem_inter : version ∈ left.inter right ↔ version ∈ left ∧ version ∈ right := by
  rw [mem_iff_mem_toList, inter, toList, List.toList_toArray, List.mem_filter, contains_iff_mem,
    ← mem_iff_mem_toList]

@[simp]
theorem isSubset_iff : left.isSubset right = true ↔ ∀ version ∈ left, version ∈ right := by
  simp only [isSubset, List.all_eq_true, contains_iff_mem, mem_iff_mem_toList]

theorem isEmpty_eq_false_iff : set.isEmpty = false ↔ ∃ version, version ∈ set := by
  rw [isEmpty, ← Array.isEmpty_toList, List.isEmpty_eq_false_iff_exists_mem]
  rfl

theorem le_max?_getD (member : version ∈ set) : version ≤ set.max?.getD 0 := by
  rw [mem_iff_mem_toList, toList, Array.mem_toList_iff, Array.mem_iff_getElem] at member
  rcases member with ⟨position, inBounds, rfl⟩
  have lastInBounds : set.versions.size - 1 < set.versions.size := by omega
  have last : set.max? = some set.versions[set.versions.size - 1] := by
    rw [max?, Array.back?_eq_getElem?, Array.getElem?_eq_getElem lastInBounds]
  rw [last, Option.getD_some]
  exact set.getElem_le_getElem (by omega) inBounds lastInBounds

end VersionSet

namespace VersionRange

variable {range : VersionRange} {version ceiling : Version}

/-- Up to the ceiling, a range is expanded to the versions that it is meant for. -/
theorem mem_expand_iff_holds (below : version ≤ ceiling) :
    version ∈ range.expand ceiling ↔ range.Holds version := by
  cases range with
  | none => simp [expand, Holds]
  | exact only => simp [expand, Holds]
  | bounded low high => simp [expand, Holds]
  | openEnded low => simp [expand, Holds, below]

end VersionRange

end MessageGen
