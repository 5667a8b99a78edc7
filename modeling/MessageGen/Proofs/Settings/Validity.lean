import Mathlib.Logic.Unique
import MessageGen.Proofs.Outcome
import MessageGen.Proofs.Text.Characters
import MessageGen.Settings.Basic

/-!
# Valid settings

The check of the settings says what their texts are made of: the segments of package
names are identifiers, and the extension is a word without points and slashes.
-/

namespace MessageGen

namespace Settings

variable {settings : Settings} {key package extension : String}

theorem checkPackage_eq_ok_iff : checkPackage key package = .ok () ↔
    package ≠ "" ∧ ∀ segment ∈ packageSegments package, isIdentifier segment.toList = true := by
  unfold checkPackage
  split
  · rename_i isEmpty
    simp [String.isEmpty_iff.mp isEmpty]
  · rename_i nonempty
    rw [Bool.not_eq_true, String.isEmpty_eq_false_iff] at nonempty
    split
    · rename_i segment found
      have invalid := List.find?_some found
      simp only [reduceCtorEq, false_iff, not_and]
      intro _ valid
      simp [valid segment (List.mem_of_find?_eq_some found)] at invalid
    · rename_i none_found
      simpa [nonempty] using none_found

theorem checkExtension_eq_ok_iff : checkExtension extension = .ok () ↔
    extension ≠ "" ∧ ∀ character ∈ extension.toList, character ∉ separators := by
  unfold checkExtension
  simp only [← String.isEmpty_eq_false_iff]
  cases extension.isEmpty <;> simp

theorem validate_eq_ok_iff : settings.validate = .ok () ↔
    checkPackage "base_package" settings.basePackage = .ok () ∧
      (∀ package, settings.runtimePackage = some package →
        checkPackage "runtime_package" package = .ok ()) ∧
      checkExtension settings.fileExtension = .ok () := by
  have steps : settings.validate = (do
      checkPackage "base_package" settings.basePackage
      (settings.runtimePackage.elim (.ok ()) (checkPackage "runtime_package"))
      checkExtension settings.fileExtension) := by
    unfold validate
    cases settings.runtimePackage <;> rfl
  rw [steps]
  simp only [Except.bind_eq_ok_iff, Unique.exists_iff]
  cases settings.runtimePackage <;> simp

theorem packageSegments_append_point (front back : String) :
    packageSegments (front ++ "." ++ back) = packageSegments front ++ packageSegments back := by
  simp only [packageSegments, ← List.map_append, ← List.splitOn_append_cons_self]
  rw [String.toList_append, String.toList_append, List.append_assoc]
  rfl

theorem mem_packageSegments {segment : String} (segment_mem : segment ∈ packageSegments package) :
    '.' ∉ segment.toList ∧ ∀ character ∈ segment.toList, character ∈ package.toList := by
  rcases List.mem_map.mp segment_mem with ⟨piece, piece_mem, rfl⟩
  have characters := Text.mem_of_mem_splitOn piece piece_mem
  rw [String.toList_ofList]
  exact ⟨fun point_mem => (characters '.' point_mem).2 rfl,
    fun character character_mem => (characters character character_mem).1⟩

end Settings

end MessageGen
