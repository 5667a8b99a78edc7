import Mathlib.Tactic.Common
import MessageGen.Text.Case

/-!
# What case mappings make of characters

A case mapping never makes an underscore of another character. The mappings are tables,
so this is a fact about what the tables list: no sequence holds an underscore, and no run
holds the code point that its shift would bring there. On ASCII the tables are the
mappings of single letters. The lower-case mapping of a character starts with one that is
its own: the tables list nothing that they lead to.
-/

namespace MessageGen.Text

variable {runs : List CaseRun} {sequences : List (Nat × List Nat)} {character : Char}

/-- A number that is no code point stands for the null character. -/
theorem toNat_ofNat_eq_or (codePoint : Nat) :
    (Char.ofNat codePoint).toNat = codePoint ∨ (Char.ofNat codePoint).toNat = 0 := by
  by_cases isValid : codePoint.isValidChar
  · rw [Char.ofNat, dif_pos isValid]
    exact .inl rfl
  · rw [Char.ofNat, dif_neg isValid]
    exact .inr rfl

theorem eq_of_ofNat_eq_underscore {codePoint : Nat} (same : Char.ofNat codePoint = '_') :
    codePoint = 95 := by
  have isCodePoint := toNat_ofNat_eq_or codePoint
  rw [same] at isCodePoint
  rcases isCodePoint with isSame | isZero
  · exact isSame.symm
  · cases isZero

theorem underscore_not_mem_mapCase (different : character ≠ '_')
    (sequencesApart : ∀ entry ∈ sequences, 95 ∉ entry.2)
    (runsApart : ∀ run ∈ runs, run.contains (95 - run.shift).toNat = false) :
    '_' ∉ mapCase runs sequences character := by
  unfold mapCase
  split
  · rename_i sequence found
    intro underscore_mem
    rcases List.mem_map.mp underscore_mem with ⟨codePoint, codePoint_mem, isUnderscore⟩
    rw [eq_of_ofNat_eq_underscore isUnderscore] at codePoint_mem
    rcases List.lookup_eq_some_iff.mp found with ⟨before, after, rfl, -⟩
    exact sequencesApart (character.toNat, sequence) (by simp) codePoint_mem
  · split
    · rename_i run found
      intro underscore_mem
      have shifted := eq_of_ofNat_eq_underscore (List.mem_singleton.mp underscore_mem).symm
      have isPreimage : (95 - run.shift).toNat = character.toNat := by omega
      have isContained := List.find?_some found
      have apart := runsApart run (List.mem_of_find?_eq_some found)
      rw [isPreimage, isContained] at apart
      cases apart
    · rw [List.mem_singleton]
      exact different.symm

theorem tables_avoid_underscore :
    ((∀ entry ∈ upperSequences, 95 ∉ entry.2) ∧
      ∀ run ∈ upperRuns, run.contains (95 - run.shift).toNat = false) ∧
    (∀ entry ∈ lowerSequences, 95 ∉ entry.2) ∧
      ∀ run ∈ lowerRuns, run.contains (95 - run.shift).toNat = false := by
  decide +kernel

theorem underscore_not_mem_upperCase (different : character ≠ '_') : '_' ∉ upperCase character :=
  underscore_not_mem_mapCase different tables_avoid_underscore.1.1 tables_avoid_underscore.1.2

theorem underscore_not_mem_lowerCase (different : character ≠ '_') : '_' ∉ lowerCase character :=
  underscore_not_mem_mapCase different tables_avoid_underscore.2.1 tables_avoid_underscore.2.2

/-- What holds of every code point of ASCII holds of its characters. -/
@[elab_as_elim]
theorem ascii_cases {motive : Char → Prop} (character : Char) (isAscii : character.toNat < 128)
    (holds : ∀ codePoint < 128, motive (Char.ofNat codePoint)) : motive character :=
  Char.ofNat_toNat character ▸ holds character.toNat isAscii

/-- Of the runs of a table, only the first can hold an ASCII character. -/
theorem mapCase_of_ascii {first : CaseRun} (isAscii : character.toNat < 128)
    (sequencesAbove : ∀ entry ∈ sequences, 128 ≤ entry.1)
    (runsAbove : ∀ run ∈ runs, 128 ≤ run.first) :
    mapCase (first :: runs) sequences character =
      if first.contains character.toNat then [Char.ofNat (character.toNat + first.shift).toNat]
      else [character] := by
  have noSequence : sequences.lookup character.toNat = none := by
    rw [List.lookup_eq_none_iff]
    intro entry entry_mem
    have above := sequencesAbove entry entry_mem
    have different : character.toNat ≠ entry.1 := by omega
    simpa using different
  have noOther : runs.find? (·.contains character.toNat) = none := by
    rw [List.find?_eq_none]
    intro run run_mem
    have above := runsAbove run run_mem
    simp only [CaseRun.contains, Bool.and_eq_true, decide_eq_true_eq]
    omega
  rw [mapCase, noSequence, List.find?_cons, noOther]
  cases first.contains character.toNat <;> rfl

theorem tables_above_ascii :
    ((∀ entry ∈ upperSequences, 128 ≤ entry.1) ∧ ∀ run ∈ upperRuns.tail, 128 ≤ run.first) ∧
    (∀ entry ∈ lowerSequences, 128 ≤ entry.1) ∧ ∀ run ∈ lowerRuns.tail, 128 ≤ run.first := by
  decide +kernel

theorem upperCase_of_ascii (isAscii : character.toNat < 128) :
    upperCase character = [character.toUpper] := by
  change mapCase (⟨0x61, 0x7A, 1, -32⟩ :: upperRuns.tail) upperSequences character = _
  rw [mapCase_of_ascii isAscii tables_above_ascii.1.1 tables_above_ascii.1.2]
  exact ascii_cases character isAscii (by decide)

theorem lowerCase_of_ascii (isAscii : character.toNat < 128) :
    lowerCase character = [character.toLower] := by
  change mapCase (⟨0x41, 0x5A, 1, 32⟩ :: lowerRuns.tail) lowerSequences character = _
  rw [mapCase_of_ascii isAscii tables_above_ascii.2.1 tables_above_ascii.2.2]
  exact ascii_cases character isAscii (by decide)

section FixedPoints

variable {run other : CaseRun} {codePoint : Nat}

/-- Whether a table lists a code point neither by itself nor in a run. -/
def IsUnlisted (runs : List CaseRun) (sequences : List (Nat × List Nat)) (codePoint : Nat) : Prop :=
  (∀ entry ∈ sequences, entry.1 ≠ codePoint) ∧ ∀ run ∈ runs, run.contains codePoint = false

instance (codePoint : Nat) : Decidable (IsUnlisted runs sequences codePoint) :=
  inferInstanceAs (Decidable (_ ∧ _))

theorem mapCase_of_isUnlisted (unlisted : IsUnlisted runs sequences character.toNat) :
    mapCase runs sequences character = [character] := by
  have noSequence : sequences.lookup character.toNat = none := by
    rw [List.lookup_eq_none_iff]
    intro entry entry_mem
    simpa using (unlisted.1 entry entry_mem).symm
  have noRun : runs.find? (·.contains character.toNat) = none := by
    simpa [List.find?_eq_none] using unlisted.2
  rw [mapCase, noSequence, noRun]

theorem mapCase_ofNat_of_isUnlisted (zeroUnlisted : IsUnlisted runs sequences 0)
    (unlisted : IsUnlisted runs sequences codePoint) :
    mapCase runs sequences (Char.ofNat codePoint) = [Char.ofNat codePoint] := by
  apply mapCase_of_isUnlisted
  rcases toNat_ofNat_eq_or codePoint with same | isZero
  · rwa [same]
  · rwa [isZero]

/-- The run of the code points to which a case mapping moves a run. -/
def CaseRun.image (run : CaseRun) : CaseRun :=
  ⟨(run.first + run.shift).toNat, (run.last + run.shift).toNat, run.step, 0⟩

/-- Whether two runs can be seen to have nothing in common: one ends first, or they alternate. -/
def CaseRun.isApart (run other : CaseRun) : Bool :=
  run.last.blt other.first || other.last.blt run.first ||
    run.first % 2 != other.first % 2 && other.step == 2 && (run.step == 2 || run.first == run.last)

theorem CaseRun.contains_iff :
    run.contains codePoint = true ↔
      run.first ≤ codePoint ∧ codePoint ≤ run.last ∧ (codePoint - run.first) % run.step = 0 := by
  simp [CaseRun.contains, and_assoc]

theorem CaseRun.contains_image (nonnegative : 0 ≤ run.first + run.shift)
    (isContained : run.contains codePoint = true) :
    run.image.contains (codePoint + run.shift).toNat = true := by
  rw [contains_iff] at isContained ⊢
  rcases isContained with ⟨above, below, isMultiple⟩
  have distance : (codePoint + run.shift).toNat - (run.first + run.shift).toNat =
      codePoint - run.first := by
    omega
  simp only [image, distance]
  exact ⟨by omega, by omega, isMultiple⟩

theorem CaseRun.not_contains_of_isApart (apart : run.isApart other = true)
    (isContained : run.contains codePoint = true) : other.contains codePoint = false := by
  rw [Bool.eq_false_iff]
  intro otherContained
  rw [contains_iff] at isContained otherContained
  simp only [isApart, Bool.or_eq_true, Bool.and_eq_true, Nat.blt_eq, bne_iff_ne, beq_iff_eq]
    at apart
  rcases apart with (before | after) | ⟨⟨parity, otherAlternates⟩, alternates | single⟩
  · omega
  · omega
  · rw [alternates] at isContained
    rw [otherAlternates] at otherContained
    omega
  · rw [otherAlternates] at otherContained
    omega

/--
The lower-case table lists nothing that it leads to. Runs are compared by their bounds, as
there are too many code points in them to try.
-/
theorem lowerTable_fixed :
    IsUnlisted lowerRuns lowerSequences 0 ∧
    (∀ entry ∈ lowerSequences, ∃ first ∈ entry.2.head?,
      IsUnlisted lowerRuns lowerSequences first) ∧
    ∀ run ∈ lowerRuns, 0 ≤ run.first + run.shift ∧
      (∀ entry ∈ lowerSequences, run.image.contains entry.1 = false) ∧
      lowerRuns.all run.image.isApart = true := by
  decide +kernel

theorem isUnlisted_of_contains (run_mem : run ∈ lowerRuns)
    (isContained : run.contains codePoint = true) :
    IsUnlisted lowerRuns lowerSequences (codePoint + run.shift).toNat := by
  rcases lowerTable_fixed.2.2 run run_mem with ⟨nonnegative, sequencesApart, runsApart⟩
  have inImage := CaseRun.contains_image nonnegative isContained
  refine ⟨?_, ?_⟩
  · rintro entry entry_mem same
    have notContained := sequencesApart entry entry_mem
    rw [same, inImage] at notContained
    cases notContained
  · intro other other_mem
    exact CaseRun.not_contains_of_isApart (List.all_eq_true.mp runsApart other other_mem) inImage

/-- A lower-case mapping is never empty, and starts with a character that it leaves as it is. -/
theorem exists_lowerCase_eq_cons (character : Char) :
    ∃ first rest, lowerCase character = first :: rest ∧ lowerCase first = [first] := by
  rcases lowerTable_fixed with ⟨zeroUnlisted, headsUnlisted, -⟩
  cases listed : lowerSequences.lookup character.toNat with
  | some sequence =>
      rcases List.lookup_eq_some_iff.mp listed with ⟨before, after, isTable, -⟩
      have entry_mem : (character.toNat, sequence) ∈ lowerSequences := by simp [isTable]
      rcases headsUnlisted _ entry_mem with ⟨first, isHead, unlisted⟩
      rcases List.head?_eq_some_iff.mp isHead with ⟨rest, rfl⟩
      have mapped : lowerCase character = Char.ofNat first :: rest.map Char.ofNat := by
        rw [lowerCase, mapCase, listed]
        rfl
      exact ⟨_, _, mapped, mapCase_ofNat_of_isUnlisted zeroUnlisted unlisted⟩
  | none =>
      cases found : lowerRuns.find? (·.contains character.toNat) with
      | some run =>
          have isContained := List.find?_some found
          have unlisted := isUnlisted_of_contains (List.mem_of_find?_eq_some found) isContained
          have mapped : lowerCase character =
              [Char.ofNat (character.toNat + run.shift).toNat] := by
            rw [lowerCase, mapCase, listed, found]
          exact ⟨_, _, mapped, mapCase_ofNat_of_isUnlisted zeroUnlisted unlisted⟩
      | none =>
          have unchanged : lowerCase character = [character] := by
            rw [lowerCase, mapCase, listed, found]
          exact ⟨_, _, unchanged, unchanged⟩

end FixedPoints
end MessageGen.Text
