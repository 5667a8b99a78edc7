import Mathlib.Data.List.Sort
import Mathlib.Data.String.Basic
import MessageGen.Class.Description

/-!
# Imports of a class

The imports of a class are sorted and listed once each, so it only matters which names
are imported, and not in which order or how often they were added.
-/

namespace MessageGen

variable {name other : String} {names first second : List String}

theorem mem_insertName : other ∈ insertName name names ↔ other = name ∨ other ∈ names := by
  induction names with
  | nil => simp [insertName]
  | cons head names ih =>
      unfold insertName
      split
      · simp
      · split
        · rename_i same
          simp [same]
        · simp only [List.mem_cons, ih]
          tauto

theorem mem_foldl_insertName {sorted : List String} :
    other ∈ names.foldl (fun sorted name => insertName name sorted) sorted ↔
      other ∈ names ∨ other ∈ sorted := by
  induction names generalizing sorted with
  | nil => simp
  | cons name names ih =>
      simp only [List.foldl_cons, ih, mem_insertName, List.mem_cons]
      tauto

theorem mem_sortNames : other ∈ sortNames names ↔ other ∈ names := by
  simp [sortNames, mem_foldl_insertName]

theorem pairwise_insertName (ascending : names.Pairwise (· < ·)) :
    (insertName name names).Pairwise (· < ·) := by
  induction names with
  | nil => exact List.pairwise_singleton _ _
  | cons head names ih =>
      rcases List.pairwise_cons.mp ascending with ⟨below, rest⟩
      unfold insertName
      split
      · rename_i isFirst
        refine List.pairwise_cons.mpr ⟨?_, ascending⟩
        intro other other_mem
        rcases List.mem_cons.mp other_mem with rfl | other_mem
        · exact isFirst
        · exact lt_trans isFirst (below other other_mem)
      · rename_i notFirst
        split
        · exact ascending
        · rename_i isNew
          refine List.pairwise_cons.mpr ⟨?_, ih rest⟩
          intro other other_mem
          rcases mem_insertName.mp other_mem with rfl | other_mem
          · exact lt_of_le_of_ne (not_lt.mp notFirst) (Ne.symm isNew)
          · exact below other other_mem

theorem pairwise_sortNames (names : List String) : (sortNames names).Pairwise (· < ·) := by
  have preserved : ∀ sorted : List String, sorted.Pairwise (· < ·) →
      (names.foldl (fun sorted name => insertName name sorted) sorted).Pairwise (· < ·) := by
    induction names with
    | nil => exact fun sorted ascending => ascending
    | cons name names ih =>
        exact fun sorted ascending => ih (insertName name sorted) (pairwise_insertName ascending)
  exact preserved [] List.Pairwise.nil

/-- The sorted names depend on which names there are, and on nothing else. -/
theorem sortNames_congr (same : ∀ name, name ∈ first ↔ name ∈ second) :
    sortNames first = sortNames second := by
  apply List.Pairwise.eq_of_mem_iff (pairwise_sortNames first) (pairwise_sortNames second)
  intro name
  rw [mem_sortNames, mem_sortNames, same]

end MessageGen
