import MessageGen.Message.Kind
import MessageGen.Proofs.Outcome

/-!
# Parts of message names

A message name is a nonempty stem with a suffix. The family is the stem, and the whole
name for a header.
-/

namespace MessageGen

theorem stripSuffix?_eq_some_iff {suffix text stem : List Char} :
    stripSuffix? suffix text = some stem ↔ stem ++ suffix = text := by
  unfold stripSuffix?
  split
  · rename_i isSuffix
    rw [List.isSuffixOf_iff_suffix] at isSuffix
    rcases isSuffix with ⟨front, rfl⟩
    simp [eq_comm]
  · rename_i notSuffix
    simp only [reduceCtorEq, false_iff]
    rintro rfl
    exact notSuffix (List.isSuffixOf_iff_suffix.mpr ⟨stem, rfl⟩)

namespace MessageName

variable {declared : String} {name : MessageName}

theorem splitAt?_eq_some_iff {suffix : NameSuffix} : splitAt? declared suffix = some name ↔
    ∃ stem, stem ≠ [] ∧ stem ++ suffix.text.toList = declared.toList ∧
      name = if suffix = .header then ⟨declared, true⟩ else ⟨String.ofList stem, false⟩ := by
  unfold splitAt?
  split
  · rename_i none_found
    simp only [reduceCtorEq, false_iff, not_exists, not_and]
    intro stem _ parts
    rw [stripSuffix?_eq_some_iff.mpr parts] at none_found
    cases none_found
  · rename_i isSuffix
    simp only [reduceCtorEq, false_iff, not_exists, not_and]
    intro stem nonempty parts
    rw [stripSuffix?_eq_some_iff.mpr parts] at isSuffix
    cases isSuffix
    exact absurd rfl nonempty
  · rename_i stem nonempty found
    have parts := stripSuffix?_eq_some_iff.mp found
    constructor
    · intro split
      refine ⟨stem, nonempty, parts, ?_⟩
      cases suffix <;> simpa using split.symm
    · rintro ⟨other, -, otherParts, rfl⟩
      have same : other = stem := List.append_cancel_right (otherParts.trans parts.symm)
      subst same
      cases suffix <;> simp

/-- A resolved name is a stem and a suffix; the family is the stem, or the name of a header. -/
theorem exists_suffix_of_resolve (resolved : resolve declared = .ok name) :
    ∃ suffix : NameSuffix, ∃ stem, stem ≠ [] ∧ stem ++ suffix.text.toList = declared.toList ∧
      name = if suffix = .header then ⟨declared, true⟩ else ⟨String.ofList stem, false⟩ := by
  unfold resolve at resolved
  split at resolved
  · rename_i found
    cases resolved
    rcases List.exists_of_findSome?_eq_some found with ⟨suffix, -, split⟩
    exact ⟨suffix, splitAt?_eq_some_iff.mp split⟩
  · cases resolved

theorem family_prefix_of_resolve (resolved : resolve declared = .ok name) :
    name.family ≠ "" ∧ name.family.toList <+: declared.toList := by
  rcases exists_suffix_of_resolve resolved with ⟨suffix, stem, nonempty, parts, rfl⟩
  split
  · refine ⟨?_, List.prefix_refl _⟩
    intro (isEmpty : declared = "")
    rw [isEmpty] at parts
    exact nonempty (List.append_eq_nil_iff.mp parts).1
  · simp only [String.toList_ofList, ne_eq, String.ofList_eq_empty_iff]
    exact ⟨nonempty, ⟨_, parts⟩⟩

end MessageName

/-- The name and the declared type of a message are resolved on their own. -/
theorem MessageKind.resolve_eq_ok_iff {declared type : String} {kind : MessageKind}
    {name : MessageName} : MessageKind.resolve declared type = .ok (kind, name) ↔
      MessageName.resolve declared = .ok name ∧ ofDeclaration declared type = .ok kind := by
  simp only [MessageKind.resolve, Except.bind_eq_ok_iff, Except.pure_eq_ok_iff, Prod.mk.injEq]
  constructor
  · rintro ⟨_, isName, _, isKind, rfl, rfl⟩
    exact ⟨isName, isKind⟩
  · rintro ⟨isName, isKind⟩
    exact ⟨name, isName, kind, isKind, rfl, rfl⟩

end MessageGen
