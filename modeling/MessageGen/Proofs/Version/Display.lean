import MessageGen.CommandLine.Run
import MessageGen.Proofs.Field.Documentation
import MessageGen.Proofs.Version.Flexible

/-!
# Version sets that are shown on their own

A set that is shown on its own is described up to the greatest version there is. A run
that ends at this version is therefore left open. Read without a ceiling, such an open
range is only the version that it starts with, as no other is mentioned in it. All other
sets without gaps are shown by ranges that stand for them on their own.
-/

namespace MessageGen

open Text

namespace VersionSet

/-- Whether a set has the greatest version there is, and another one below it. -/
def EndsOpen (set : VersionSet) : Prop :=
  greatestVersion ∈ set ∧ ∃ version ∈ set, version < greatestVersion

variable {set : VersionSet} {low high : Version}

section Ends

theorem le_greatestVersion (version : Version) : version ≤ greatestVersion :=
  Nat.le_of_lt_succ version.toNat_lt

theorem not_endsOpen_empty : ¬empty.EndsOpen := by
  rintro ⟨greatest_mem, -⟩
  exact not_mem_empty greatest_mem

theorem endsOpen_range_iff (ordered : low ≤ high) :
    (range low high).EndsOpen ↔ low ≠ high ∧ high = greatestVersion := by
  constructor
  · rintro ⟨greatest_mem, version, version_mem, below⟩
    have isGreatest : high = greatestVersion :=
      UInt16.le_antisymm (le_greatestVersion high) (mem_range.mp greatest_mem).2
    refine ⟨?_, isGreatest⟩
    rintro rfl
    rw [isGreatest] at version_mem
    exact UInt16.not_le.mpr below (mem_range.mp version_mem).1
  · rintro ⟨notSingle, rfl⟩
    refine ⟨mem_range.mpr ⟨ordered, UInt16.le_refl _⟩, low, ?_, ?_⟩
    · exact mem_range.mpr ⟨UInt16.le_refl low, ordered⟩
    · exact UInt16.lt_of_le_of_ne ordered notSingle

end Ends

section Shown

theorem parse_display_range (ordered : low ≤ high) :
    VersionRange.parse (range low high).display = .ok (rangeForm low high greatestVersion) := by
  have written := isWritten_describe_range ordered greatestVersion
  exact VersionRange.parse_of_isWritten written
    (trim_eq_self written.hasPlainEnds.first written.hasPlainEnds.last)

theorem resolve_display_of_not_endsOpen (ordered : low ≤ high)
    (notOpen : ¬(range low high).EndsOpen) :
    VersionRange.resolve (range low high).display none = .ok (range low high) := by
  rw [endsOpen_range_iff ordered, not_and] at notOpen
  have whole : (rangeForm low high greatestVersion).expand greatestVersion = range low high :=
    expand_rangeForm
  -- Only an open range is expanded up to a ceiling.
  have anyCeiling (ceiling : Version) : (rangeForm low high greatestVersion).expand ceiling =
      (rangeForm low high greatestVersion).expand greatestVersion := by
    rw [rangeForm]
    split
    · rfl
    · rw [if_neg (notOpen ‹_›)]
      rfl
  rw [VersionRange.resolve, parse_display_range ordered]
  exact congrArg Except.ok ((anyCeiling _).trans whole)

theorem display_of_endsOpen (ordered : low ≤ high) (isOpen : (range low high).EndsOpen) :
    (range low high).display = low.numeral ++ "+" := by
  rcases (endsOpen_range_iff ordered).mp isOpen with ⟨notSingle, isGreatest⟩
  rw [display, describe_range ordered, if_neg notSingle, if_pos isGreatest]

theorem resolve_display_of_endsOpen (ordered : low ≤ high) (isOpen : (range low high).EndsOpen) :
    VersionRange.resolve (range low high).display none = .ok (range low low) := by
  rcases (endsOpen_range_iff ordered).mp isOpen with ⟨notSingle, isGreatest⟩
  rw [VersionRange.resolve, parse_display_range ordered, rangeForm, if_neg notSingle,
    if_pos isGreatest]
  rfl

theorem plus_mem_display_iff (ordered : low ≤ high) :
    '+' ∈ (range low high).display.toList ↔ (range low high).EndsOpen := by
  constructor
  · have noPlus (version : Version) : '+' ∉ version.numeral.toList :=
      version.isNumeral_numeral.not_mem rfl
    intro plus_mem
    by_contra notOpen
    rw [endsOpen_range_iff ordered, not_and] at notOpen
    rw [display, describe_range ordered] at plus_mem
    split at plus_mem
    · exact noPlus low plus_mem
    · rw [if_neg (notOpen ‹_›)] at plus_mem
      simp [noPlus low, noPlus high] at plus_mem
  · intro isOpen
    simp [display_of_endsOpen ordered isOpen]

end Shown

/-- A set without gaps is shown by a range that stands for it on its own, unless it ends open. -/
theorem resolve_display_iff (noGap : ¬set.HasGap) :
    VersionRange.resolve set.display none = .ok set ↔ ¬set.EndsOpen := by
  rcases eq_empty_or_eq_range noGap with rfl | ⟨low, high, ordered, rfl⟩
  · exact iff_of_true rfl not_endsOpen_empty
  · constructor
    · intro readBack isOpen
      have onlyLow := (resolve_display_of_endsOpen ordered isOpen).symm.trans readBack
      have high_mem : high ∈ range low low :=
        Except.ok.inj onlyLow ▸ mem_range.mpr ⟨ordered, UInt16.le_refl high⟩
      have notSingle := ((endsOpen_range_iff ordered).mp isOpen).1
      exact notSingle (UInt16.le_antisymm ordered (mem_range.mp high_mem).2)
    · exact resolve_display_of_not_endsOpen ordered

/--
A set without gaps is shown without a plus, and reads back without a ceiling, exactly if
it does not reach the greatest version from below. Otherwise it is shown as the open
range from its least version, and only this version is read back.
-/
theorem display_reads_back_iff (set : VersionSet) (noGap : ¬set.HasGap) :
    ('+' ∉ set.display.toList ↔ ¬set.EndsOpen) ∧
    (VersionRange.resolve set.display none = .ok set ↔ ¬set.EndsOpen) ∧
    (set.EndsOpen → ∃ low, set.min? = some low ∧ set.display = low.numeral ++ "+" ∧
      VersionRange.resolve set.display none = .ok (range low low)) := by
  refine ⟨?_, resolve_display_iff noGap, ?_⟩
  · rcases eq_empty_or_eq_range noGap with rfl | ⟨low, high, ordered, rfl⟩
    · exact iff_of_true (by decide) not_endsOpen_empty
    · exact not_congr (plus_mem_display_iff ordered)
  · intro isOpen
    rcases eq_empty_or_eq_range noGap with rfl | ⟨low, high, ordered, rfl⟩
    · exact absurd isOpen not_endsOpen_empty
    · exact ⟨low, min?_range ordered, display_of_endsOpen ordered isOpen,
        resolve_display_of_endsOpen ordered isOpen⟩

/-- A run that ends below the greatest version, and one that ends at it. -/
theorem display_reads_back_last : ¬(range 65533 65534).HasGap ∧ ¬(range 65534 65535).HasGap ∧
    VersionRange.resolve (range 65533 65534).display none = .ok (range 65533 65534) ∧
    ∃ low, (range 65534 65535).min? = some low ∧
      (range 65534 65535).display = low.numeral ++ "+" ∧
      VersionRange.resolve (range 65534 65535).display none = .ok (range low low) := by
  have notOpen : ¬(range 65533 65534).EndsOpen := by
    simp [endsOpen_range_iff (by decide : (65533 : Version) ≤ 65534), greatestVersion]
  have isOpen : (range 65534 65535).EndsOpen :=
    (endsOpen_range_iff (by decide)).mpr ⟨by decide, rfl⟩
  exact ⟨not_hasGap_range, not_hasGap_range,
    (display_reads_back_iff _ not_hasGap_range).2.1.mpr notOpen,
    (display_reads_back_iff _ not_hasGap_range).2.2 isOpen⟩

/-- Not all sets without gaps are shown without a plus, and not all of them read back. -/
theorem display_not_read_back_last : ¬∀ set : VersionSet, ¬set.HasGap →
    '+' ∉ set.display.toList ∧ VersionRange.resolve set.display none = .ok set := by
  intro allReadBack
  have isOpen : (range 65534 65535).EndsOpen :=
    (endsOpen_range_iff (by decide)).mpr ⟨by decide, rfl⟩
  rcases allReadBack (range 65534 65535) not_hasGap_range with ⟨noPlus, -⟩
  exact noPlus ((plus_mem_display_iff (by decide)).mpr isOpen)

end VersionSet

namespace ResolvedMessage

theorem not_hasGap_flexibleVersions {document : Document} {settings : Settings}
    {message : ResolvedMessage} (resolved : resolve document settings = .ok message) :
    ¬message.flexibleVersions.HasGap := by
  rcases resolve_eq_ok_iff.mp resolved with ⟨-, _, _, _, _, -, -, flexible, rfl⟩
  rw [flexibleVersionsOf] at flexible
  split at flexible
  · rcases VersionRange.resolveFlexible_eq_ok_iff.mp flexible with ⟨range, -, isFlexible⟩
    rw [(VersionRange.isFlexibleWithin_iff.mp isFlexible).2.2]
    exact VersionSet.not_hasGap_expand range
  · cases flexible
    exact VersionSet.not_hasGap_empty

/--
The two ranges in the summary of a message stand for its valid and its flexible versions
on their own, unless these reach the greatest version from below.
-/
theorem summary_reads_back {document : Document} {settings : Settings}
    {message : ResolvedMessage} (resolved : resolve document settings = .ok message)
    (output : GenerationOutput) : ∃ valid flexible,
      "Valid versions: " ++ valid ∈ CommandLine.summary message output ∧
      "Flexible versions: " ++ flexible ∈ CommandLine.summary message output ∧
      (VersionRange.resolve valid none = .ok message.validVersions ↔
        ¬message.validVersions.EndsOpen) ∧
      (VersionRange.resolve flexible none = .ok message.flexibleVersions ↔
        ¬message.flexibleVersions.EndsOpen) := by
  refine ⟨message.validVersions.display, message.flexibleVersions.display, ?_, ?_, ?_, ?_⟩
  · simp [CommandLine.summary]
  · simp [CommandLine.summary]
  · exact VersionSet.resolve_display_iff (ResolvedField.not_hasGap_validVersions resolved)
  · exact VersionSet.resolve_display_iff (not_hasGap_flexibleVersions resolved)

end ResolvedMessage

end MessageGen
