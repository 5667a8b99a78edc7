import MessageGen.Proofs.Version.Canonical
import MessageGen.Proofs.Version.Grammar

/-!
# Flexible versions

The range of the flexible versions is not cut down to the valid versions. It gives a set
exactly if all versions that it stands for are valid, where an open range ends at the
greatest valid version. Every other expression is refused, and the error says which of
three reasons it has: the text is no range, an open range starts too high, or a version
is not valid. In the last case it names the first such version.
-/

namespace MessageGen

namespace VersionSet

variable {versions : List Version} {version : Version}

/-- What is found first in an ascending list is the least that there is to be found. -/
theorem find?_eq_some_iff_isLeast {isWanted : Version → Bool}
    (ascending : versions.Pairwise (· < ·)) :
    versions.find? isWanted = some version ↔
      IsLeast {other | other ∈ versions ∧ isWanted other = true} version := by
  rw [← List.head?_filter, head?_eq_some_iff (ascending.filter isWanted)]
  simp only [List.mem_filter]
  rfl

/-- The ceiling of open ranges over a set that has members is its greatest member. -/
theorem isGreatest_max?_getD {set : VersionSet} (version_mem : version ∈ set) :
    IsGreatest {member | member ∈ set} (set.max?.getD 0) := by
  cases isMax : set.max? with
  | none =>
      rw [max?, ← Array.getLast?_toList, List.getLast?_eq_none_iff] at isMax
      simp [mem_iff_mem_toList, toList, isMax] at version_mem
  | some high => exact max?_eq_some_iff.mp isMax

end VersionSet

namespace VersionRange

/-- Whether a set is the one that a range of flexible versions stands for, all of it valid. -/
def IsFlexibleWithin (range : VersionRange) (valid flexible : VersionSet) : Prop :=
  match range with
  | .none => ∀ version, version ∉ flexible
  | .exact only => only ∈ valid ∧ ∀ version, version ∈ flexible ↔ version = only
  | .bounded low high =>
    (∀ version, low ≤ version → version ≤ high → version ∈ valid) ∧
      ∀ version, version ∈ flexible ↔ low ≤ version ∧ version ≤ high
  | .openEnded low =>
    ∃ high, IsGreatest {member | member ∈ valid} high ∧ low ≤ high ∧
      (∀ version, low ≤ version → version ≤ high → version ∈ valid) ∧
      ∀ version, version ∈ flexible ↔ low ≤ version ∧ version ≤ high

/-- The versions that a range stands for among the given valid ones, and that are not valid. -/
def strays (range : VersionRange) (valid : VersionSet) : Set Version :=
  {version | range.HoldsUpTo (valid.max?.getD 0) version ∧ version ∉ valid}

/-- Whether a fault is the reason that an expression gives no flexible versions. -/
def IsReason (expression : String) (valid : VersionSet) : RangeFault → Prop
  | .startsAfterHighest highest =>
    highest = valid.max?.getD 0 ∧ ∃ low, parse expression = .ok (.openEnded low) ∧ highest < low
  | .notValid stray reported =>
    reported = valid ∧ ∃ range, parse expression = .ok range ∧ IsLeast (range.strays valid) stray
  | fault => parse expression = .error (.malformedRange expression fault)

variable {expression : String} {valid flexible : VersionSet} {range : VersionRange}
  {low stray : Version}

/-- Whether an open range starts at or below the ceiling; other ranges have none. -/
def StartsWithin (range : VersionRange) (valid : VersionSet) : Prop :=
  ∀ low, range = .openEnded low → low ≤ valid.max?.getD 0

/-- The three forms of the condition on the valid versions are one, if the ceiling is a bound. -/
theorem isFlexibleWithin_iff : range.IsFlexibleWithin valid flexible ↔
    range.StartsWithin valid ∧ (∀ version, version ∉ range.strays valid) ∧
      flexible = range.expand (valid.max?.getD 0) := by
  simp only [VersionSet.ext_iff_mem, mem_expand_iff_holdsUpTo, strays, Set.mem_ofPred_eq, not_and,
    not_not, StartsWithin]
  cases range with
  | none => simp [IsFlexibleWithin, HoldsUpTo, Holds]
  | exact only => simp [IsFlexibleWithin, HoldsUpTo, Holds]
  | bounded low high => simp [IsFlexibleWithin, HoldsUpTo, Holds]
  | openEnded low =>
      simp only [IsFlexibleWithin, HoldsUpTo, openEnded.injEq, forall_eq', and_imp]
      constructor
      · rintro ⟨high, isGreatest, starts, areValid, members⟩
        have isMax := VersionSet.isGreatest_max?_getD isGreatest.1
        rw [UInt16.le_antisymm (isGreatest.2 isMax.1) (isMax.2 isGreatest.1)]
        exact ⟨starts, areValid, members⟩
      · rintro ⟨starts, areValid, members⟩
        have low_mem := areValid low (UInt16.le_refl low) starts
        exact ⟨_, VersionSet.isGreatest_max?_getD low_mem, starts, areValid, members⟩

section Outcomes

theorem resolveFlexible_of_startsAbove (parsed : parse expression = .ok (.openEnded low))
    (above : valid.max?.getD 0 < low) : resolveFlexible expression valid =
      .error (.malformedRange expression (.startsAfterHighest (valid.max?.getD 0))) := by
  rw [resolveFlexible, parsed]
  exact if_pos (decide_eq_true above)

theorem resolveFlexible_of_startsWithin (parsed : parse expression = .ok range)
    (starts : range.StartsWithin valid) : resolveFlexible expression valid =
      match (range.expand (valid.max?.getD 0)).toList.find? (!valid.contains ·) with
      | some stray => .error (.malformedRange expression (.notValid stray valid))
      | Option.none => .ok (range.expand (valid.max?.getD 0)) := by
  rw [resolveFlexible, parsed]
  cases range with
  | openEnded low =>
      have notAbove : ¬valid.max?.getD 0 < low := UInt16.not_lt.mpr (starts low rfl)
      exact if_neg (by simpa using notAbove)
  | none => rfl
  | exact only => rfl
  | bounded low high => rfl

theorem find?_expand_eq_some_iff :
    (range.expand (valid.max?.getD 0)).toList.find? (!valid.contains ·) = some stray ↔
      IsLeast (range.strays valid) stray := by
  rw [VersionSet.toList, VersionSet.find?_eq_some_iff_isLeast (range.expand _).ascending]
  refine iff_of_eq (congrArg (IsLeast · stray) (Set.ext fun version => ?_))
  apply and_congr mem_expand_iff_holdsUpTo
  rw [Bool.not_eq_true', ← Bool.not_eq_true, VersionSet.contains_iff_mem]

/-- A range that starts too high stands for no version, so it has no strays either. -/
theorem startsWithin_of_mem_strays (stray_mem : stray ∈ range.strays valid) :
    range.StartsWithin valid := by
  rintro low rfl
  exact UInt16.le_trans stray_mem.1.1 stray_mem.1.2

theorem resolveFlexible_of_stray (parsed : parse expression = .ok range)
    (isLeast : IsLeast (range.strays valid) stray) : resolveFlexible expression valid =
      .error (.malformedRange expression (.notValid stray valid)) := by
  rw [resolveFlexible_of_startsWithin parsed (startsWithin_of_mem_strays isLeast.1),
    find?_expand_eq_some_iff.mpr isLeast]

theorem resolveFlexible_of_isFlexibleWithin (parsed : parse expression = .ok range)
    (isFlexible : range.IsFlexibleWithin valid flexible) :
    resolveFlexible expression valid = .ok flexible := by
  rcases isFlexibleWithin_iff.mp isFlexible with ⟨starts, noStray, rfl⟩
  rw [resolveFlexible_of_startsWithin parsed starts]
  cases found : (range.expand (valid.max?.getD 0)).toList.find? (!valid.contains ·) with
  | none => rfl
  | some stray => exact absurd (find?_expand_eq_some_iff.mp found).1 (noStray stray)

/-- A range starts too high, has a least stray, or is a set of valid versions. -/
theorem startsAbove_or_isLeast_or_isFlexibleWithin (range : VersionRange) (valid : VersionSet) :
    (∃ low, range = .openEnded low ∧ valid.max?.getD 0 < low) ∨
      (∃ stray, IsLeast (range.strays valid) stray) ∨
      range.IsFlexibleWithin valid (range.expand (valid.max?.getD 0)) := by
  by_cases starts : range.StartsWithin valid
  · right
    cases found : (range.expand (valid.max?.getD 0)).toList.find? (!valid.contains ·) with
    | some stray => exact .inl ⟨stray, find?_expand_eq_some_iff.mp found⟩
    | none =>
        right
        refine isFlexibleWithin_iff.mpr ⟨starts, ?_, rfl⟩
        rintro version ⟨holds, notValid⟩
        have isMember := mem_expand_iff_holdsUpTo.mpr holds
        have isFound := List.find?_eq_none.mp found version isMember
        rw [Bool.not_eq_true, Bool.not_eq_false', VersionSet.contains_iff_mem] at isFound
        exact notValid isFound
  · left
    simp only [StartsWithin, not_forall, UInt16.not_le] at starts
    rcases starts with ⟨low, isOpen, above⟩
    exact ⟨low, isOpen, above⟩

/-- Resolution gives a set of valid versions, or it is refused for a reason. -/
theorem resolveFlexible_cases (expression : String) (valid : VersionSet) :
    (∃ range flexible, parse expression = .ok range ∧ range.IsFlexibleWithin valid flexible ∧
      resolveFlexible expression valid = .ok flexible) ∨
    ∃ fault, IsReason expression valid fault ∧
      resolveFlexible expression valid = .error (.malformedRange expression fault) := by
  cases parsed : parse expression with
  | error error =>
      rcases exists_isGrammatical_of_parse parsed with ⟨fault, rfl, isGrammatical⟩
      refine .inr ⟨fault, ?_, ?_⟩
      · cases fault with
        | empty | notANumber text | outOfRange text | reversedBounds => exact parsed
        | startsAfterHighest highest | notValid version reported | notFlexible field reported =>
            exact absurd isGrammatical id
      · rw [resolveFlexible, parsed]
        rfl
  | ok range =>
      rcases startsAbove_or_isLeast_or_isFlexibleWithin range valid with
        ⟨low, rfl, above⟩ | ⟨stray, isLeast⟩ | isFlexible
      · exact .inr ⟨.startsAfterHighest (valid.max?.getD 0), ⟨rfl, low, parsed, above⟩,
          resolveFlexible_of_startsAbove parsed above⟩
      · exact .inr ⟨.notValid stray valid, ⟨rfl, range, parsed, isLeast⟩,
          resolveFlexible_of_stray parsed isLeast⟩
      · exact .inl ⟨range, _, rfl, isFlexible,
          resolveFlexible_of_isFlexibleWithin parsed isFlexible⟩

theorem resolveFlexible_of_isReason {fault : RangeFault}
    (isReason : IsReason expression valid fault) :
    resolveFlexible expression valid = .error (.malformedRange expression fault) := by
  have unreadable : ∀ fault, parse expression = .error (.malformedRange expression fault) →
      resolveFlexible expression valid = .error (.malformedRange expression fault) := by
    intro fault refused
    rw [resolveFlexible, refused]
    rfl
  cases fault with
  | startsAfterHighest highest =>
      rcases isReason with ⟨rfl, low, parsed, above⟩
      exact resolveFlexible_of_startsAbove parsed above
  | notValid stray reported =>
      rcases isReason with ⟨rfl, range, parsed, isLeast⟩
      exact resolveFlexible_of_stray parsed isLeast
  | empty | notANumber text | outOfRange text | reversedBounds | notFlexible field reported =>
      exact unreadable _ isReason

end Outcomes

namespace IsFlexibleWithin

theorem subset (isFlexible : range.IsFlexibleWithin valid flexible) :
    ∀ version ∈ flexible, version ∈ valid := by
  rcases isFlexibleWithin_iff.mp isFlexible with ⟨-, noStray, rfl⟩
  intro version version_mem
  by_contra notValid
  exact noStray version ⟨mem_expand_iff_holdsUpTo.mp version_mem, notValid⟩

/-- A range that is read from a text has its bounds in order, so only `none` is empty. -/
theorem eq_none_iff (isFlexible : range.IsFlexibleWithin valid flexible)
    (written : Writes expression range) : (∀ version, version ∉ flexible) ↔ range = .none := by
  cases range with
  | none => exact iff_of_true isFlexible rfl
  | exact only =>
      simp only [reduceCtorEq, iff_false, not_forall, not_not]
      exact ⟨only, (isFlexible.2 only).mpr rfl⟩
  | bounded low high =>
      rcases written with ⟨_, _, _, -, -, -, written⟩
      cases written with
      | bounded _ _ _ _ ordered =>
          simp only [reduceCtorEq, iff_false, not_forall, not_not]
          exact ⟨low, (isFlexible.2 low).mpr ⟨UInt16.le_refl low, ordered⟩⟩
  | openEnded low =>
      rcases isFlexible with ⟨high, -, starts, -, members⟩
      simp only [reduceCtorEq, iff_false, not_forall, not_not]
      exact ⟨low, (members low).mpr ⟨UInt16.le_refl low, starts⟩⟩

end IsFlexibleWithin

theorem resolveFlexible_eq_ok_iff : resolveFlexible expression valid = .ok flexible ↔
    ∃ range, parse expression = .ok range ∧ range.IsFlexibleWithin valid flexible := by
  constructor
  · intro resolved
    rcases resolveFlexible_cases expression valid with
      ⟨range, other, parsed, isFlexible, same⟩ | ⟨fault, -, refused⟩
    · cases resolved.symm.trans same
      exact ⟨range, parsed, isFlexible⟩
    · cases resolved.symm.trans refused
  · rintro ⟨range, parsed, isFlexible⟩
    exact resolveFlexible_of_isFlexibleWithin parsed isFlexible

/--
Flexible versions are what their range stands for if all of that is valid; an open range
ends at the greatest valid version and must not start above it. Everything else is refused
as malformed, with the expression as it was given and the reason for it, and a version
that is named is the least one that is not valid. Only `none` gives no flexible versions.
-/
theorem resolveFlexible_exact (expression : String) (valid : VersionSet) :
    (∀ flexible, resolveFlexible expression valid = .ok flexible ↔
      ∃ range, parse expression = .ok range ∧ range.IsFlexibleWithin valid flexible) ∧
    (∀ flexible, resolveFlexible expression valid = .ok flexible →
      (∀ version ∈ flexible, version ∈ valid) ∧
      ((∀ version, version ∉ flexible) ↔ parse expression = .ok .none)) ∧
    (∀ error, resolveFlexible expression valid = .error error ↔
      ∃ fault, IsReason expression valid fault ∧ error = .malformedRange expression fault) := by
  refine ⟨fun flexible => resolveFlexible_eq_ok_iff, ?_, ?_⟩
  · intro flexible resolved
    rcases resolveFlexible_eq_ok_iff.mp resolved with ⟨range, parsed, isFlexible⟩
    refine ⟨isFlexible.subset, ?_⟩
    rw [isFlexible.eq_none_iff (parse_eq_ok_iff.mp parsed), parsed, Except.ok.injEq]
  · intro error
    constructor
    · intro refused
      rcases resolveFlexible_cases expression valid with
        ⟨range, flexible, -, -, resolved⟩ | ⟨fault, isReason, same⟩
      · cases refused.symm.trans resolved
      · cases refused.symm.trans same
        exact ⟨fault, isReason, rfl⟩
    · rintro ⟨fault, isReason, rfl⟩
      exact resolveFlexible_of_isReason isReason

/-- Versions without the 2. -/
def gappedVersions : VersionSet :=
  ⟨#[1, 3, 4, 5], by decide⟩

/-- Without the 2, the range `3+` ends at 5, `1-4` has a stray, and `6+` starts too high. -/
theorem resolveFlexible_exact_gapped :
    (resolveFlexible "3+" gappedVersions = .ok (.range 3 5) ∧
      ∀ version ∈ VersionSet.range 3 5, version ∈ gappedVersions) ∧
    resolveFlexible "1-4" gappedVersions =
      .error (.malformedRange "1-4" (.notValid 2 gappedVersions)) ∧
    resolveFlexible "6+" gappedVersions =
      .error (.malformedRange "6+" (.startsAfterHighest 5)) := by
  have members (version : Version) : version ∈ gappedVersions ↔
      version.toNat = 1 ∨ version.toNat = 3 ∨ version.toNat = 4 ∨ version.toNat = 5 := by
    simp [gappedVersions, VersionSet.mem_iff_mem_toList, VersionSet.toList, ← UInt16.toNat_inj]
  have isGreatest : IsGreatest {member | member ∈ gappedVersions} 5 :=
    VersionSet.max?_eq_some_iff.mp rfl
  have resolved : resolveFlexible "3+" gappedVersions = .ok (.range 3 5) := by
    apply ((resolveFlexible_exact "3+" _).1 _).mpr
    refine ⟨.openEnded 3, rfl, 5, isGreatest, by decide, ?_, fun _ => VersionSet.mem_range⟩
    intro version above below
    have lower : 3 ≤ version.toNat := above
    have upper : version.toNat ≤ 5 := below
    exact (members version).mpr (by omega)
  refine ⟨⟨resolved, ((resolveFlexible_exact _ _).2.1 _ resolved).1⟩, ?_, ?_⟩
  · apply ((resolveFlexible_exact _ _).2.2 _).mpr
    refine ⟨.notValid 2 gappedVersions, ⟨rfl, .bounded 1 4, rfl, ?_, ?_⟩, rfl⟩
    · exact ⟨⟨by decide, by decide⟩, by decide⟩
    · rintro version ⟨⟨above, below⟩, notValid⟩
      have lower : 1 ≤ version.toNat := above
      have notFirst : version.toNat ≠ 1 := fun isFirst =>
        notValid ((members version).mpr (.inl isFirst))
      exact UInt16.le_iff_toNat_le.mpr (show 2 ≤ version.toNat by omega)
  · apply ((resolveFlexible_exact _ _).2.2 _).mpr
    exact ⟨.startsAfterHighest 5, ⟨rfl, 6, rfl, by decide⟩, rfl⟩

end VersionRange

end MessageGen
