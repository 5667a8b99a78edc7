import MessageGen.Proofs.Version.Canonical
import MessageGen.Proofs.Version.Grammar

/-!
# Version sets that are read back

A set without gaps is described by the range that it is, so that reading the range up to
the same ceiling gives the set back. A set with a gap is described by its list. The list
is not a range, because a comma stands in it, but its versions can be read from it one by
one. So no two sets have one description.
-/

namespace MessageGen

open Text

namespace Version

/-- The numeral of a version, as it is written in lists and ranges. -/
def numeral (version : Version) : String :=
  toString version.toNat

theorem isNumeral_numeral (version : Version) : version.IsNumeral version.numeral.toList := by
  have written : version.numeral.toList = Nat.toDigits 10 version.toNat := by
    simp [numeral]
  rw [written]
  constructor
  · simp
  · intro character character_mem
    exact Nat.isDigit_of_mem_toDigits (by omega) (by omega) character_mem
  · exact Nat.ofDigitChars_ten_toDigits

end Version

namespace VersionSet

/-- Whether a version is missing between two members. -/
def HasGap (set : VersionSet) : Prop :=
  ∃ low ∈ set, ∃ high ∈ set, ∃ version, version ∉ set ∧ low < version ∧ version < high

variable {set left right : VersionSet} {low high ceiling version : Version}

section Shape

theorem exists_min?_max? (version_mem : version ∈ set) :
    ∃ low high, set.min? = some low ∧ set.max? = some high ∧ low ≤ high := by
  have nonempty : set.toList ≠ [] := List.ne_nil_of_mem version_mem
  have isMin : set.min? = some (set.toList.head nonempty) := by
    rw [min?, ← Array.getElem?_toList, ← List.head?_eq_getElem?]
    exact List.head?_eq_some_head nonempty
  have isMax : set.max? = some (set.toList.getLast nonempty) := by
    rw [max?, ← Array.getLast?_toList]
    exact List.getLast?_eq_some_getLast nonempty
  refine ⟨_, _, isMin, isMax, ?_⟩
  exact (min?_eq_some_iff.mp isMin).2 (max?_eq_some_iff.mp isMax).1

theorem not_hasGap_of_between (low high : Version)
    (between : ∀ version, low ≤ version → version ≤ high → version ∈ set)
    (within : ∀ version ∈ set, low ≤ version ∧ version ≤ high) : ¬set.HasGap := by
  rintro ⟨first, first_mem, last, last_mem, version, missing, above, below⟩
  apply missing
  apply between
  · exact UInt16.le_trans (within first first_mem).1 (UInt16.le_of_lt above)
  · exact UInt16.le_trans (UInt16.le_of_lt below) (within last last_mem).2

theorem not_hasGap_empty : ¬empty.HasGap := by
  rintro ⟨low, low_mem, -⟩
  exact not_mem_empty low_mem

theorem not_hasGap_range : ¬(range low high).HasGap := by
  apply not_hasGap_of_between low high
  · intro version above below
    exact mem_range.mpr ⟨above, below⟩
  · intro version version_mem
    exact mem_range.mp version_mem

theorem not_hasGap_single : ¬(single version).HasGap := by
  apply not_hasGap_of_between version version
  · intro other above below
    exact mem_single.mpr (UInt16.le_antisymm below above)
  · intro other other_mem
    rw [mem_single.mp other_mem]
    exact ⟨UInt16.le_refl version, UInt16.le_refl version⟩

theorem not_hasGap_expand (range : VersionRange) : ¬(range.expand ceiling).HasGap := by
  cases range with
  | none => exact not_hasGap_empty
  | exact only => exact not_hasGap_single
  | bounded low high => exact not_hasGap_range
  | openEnded low => exact not_hasGap_range

theorem not_hasGap_inter (leftNoGap : ¬left.HasGap) (rightNoGap : ¬right.HasGap) :
    ¬(left.inter right).HasGap := by
  rintro ⟨low, low_mem, high, high_mem, version, missing, above, below⟩
  rcases mem_inter.mp low_mem with ⟨lowLeft, lowRight⟩
  rcases mem_inter.mp high_mem with ⟨highLeft, highRight⟩
  by_cases version_mem : version ∈ left
  · apply rightNoGap
    refine ⟨low, lowRight, high, highRight, version, ?_, above, below⟩
    intro inRight
    exact missing (mem_inter.mpr ⟨version_mem, inRight⟩)
  · exact leftNoGap ⟨low, lowLeft, high, highLeft, version, version_mem, above, below⟩

theorem min?_range (ordered : low ≤ high) : (range low high).min? = some low := by
  apply min?_eq_some_iff.mpr
  constructor
  · exact mem_range.mpr ⟨UInt16.le_refl low, ordered⟩
  · intro version version_mem
    exact (mem_range.mp version_mem).1

theorem max?_range (ordered : low ≤ high) : (range low high).max? = some high := by
  apply max?_eq_some_iff.mpr
  constructor
  · exact mem_range.mpr ⟨ordered, UInt16.le_refl high⟩
  · intro version version_mem
    exact (mem_range.mp version_mem).2

theorem isContiguous_range (ordered : low ≤ high) : (range low high).isContiguous = true := by
  apply (isContiguous_iff (min?_range ordered) (max?_range ordered)).mpr
  intro version
  exact mem_range

/-- A set without gaps has no member, or all versions between two bounds. -/
theorem eq_empty_or_eq_range (noGap : ¬set.HasGap) :
    set = empty ∨ ∃ low high, low ≤ high ∧ set = range low high := by
  rcases Classical.em (∃ version, version ∈ set) with ⟨version, version_mem⟩ | noMember
  · rcases exists_min?_max? version_mem with ⟨low, high, isMin, isMax, ordered⟩
    rcases min?_eq_some_iff.mp isMin with ⟨low_mem, least⟩
    rcases max?_eq_some_iff.mp isMax with ⟨high_mem, greatest⟩
    refine .inr ⟨low, high, ordered, ext_iff_mem.mpr fun version => ?_⟩
    rw [mem_range]
    constructor
    · intro version_mem
      exact ⟨least version_mem, greatest version_mem⟩
    · rintro ⟨above, below⟩
      by_contra missing
      apply noGap
      refine ⟨low, low_mem, high, high_mem, version, missing, ?_, ?_⟩
      · apply UInt16.lt_of_le_of_ne above
        rintro rfl
        exact missing low_mem
      · apply UInt16.lt_of_le_of_ne below
        rintro rfl
        exact missing high_mem
  · left
    apply ext_iff_mem.mpr
    intro version
    simp only [not_mem_empty, iff_false]
    intro version_mem
    exact noMember ⟨version, version_mem⟩

theorem HasGap.isContiguous_eq_false (gap : set.HasGap) : set.isContiguous = false := by
  rcases gap with ⟨first, first_mem, last, last_mem, version, missing, above, below⟩
  rcases exists_min?_max? first_mem with ⟨low, high, isMin, isMax, -⟩
  by_contra isContiguous
  simp only [Bool.not_eq_false, isContiguous_iff isMin isMax] at isContiguous
  apply missing
  apply (isContiguous version).mpr
  constructor
  · exact UInt16.le_trans ((isContiguous first).mp first_mem).1 (UInt16.le_of_lt above)
  · exact UInt16.le_trans (UInt16.le_of_lt below) ((isContiguous last).mp last_mem).2

end Shape

section Ranges

theorem describe_range (ordered : low ≤ high) : (range low high).describe ceiling =
    if low = high then low.numeral
    else if high = ceiling then low.numeral ++ "+"
    else low.numeral ++ "-" ++ high.numeral := by
  simp only [describe, min?_range ordered, max?_range ordered, isContiguous_range ordered,
    Bool.not_true, Bool.false_eq_true, if_false, Version.numeral]

/-- The range that a nonempty set without gaps is described by. -/
def rangeForm (low high ceiling : Version) : VersionRange :=
  if low = high then .exact low
  else if high = ceiling then .openEnded low
  else .bounded low high

theorem isWritten_describe_range (ordered : low ≤ high) (ceiling : Version) :
    VersionRange.IsWritten ((range low high).describe ceiling).toList
      (rangeForm low high ceiling) := by
  rw [describe_range ordered, rangeForm]
  split
  · exact .exact low.isNumeral_numeral
  split
  · simpa using VersionRange.IsWritten.openEnded low.isNumeral_numeral allBlank_nil
  · simpa using VersionRange.IsWritten.bounded low.isNumeral_numeral allBlank_nil allBlank_nil
      high.isNumeral_numeral ordered

theorem expand_rangeForm : (rangeForm low high ceiling).expand ceiling = range low high := by
  rw [rangeForm]
  split
  · rename_i isSingle
    subst isSingle
    apply ext_iff_mem.mpr
    intro version
    rw [VersionRange.expand, mem_single, mem_range]
    constructor
    · rintro rfl
      exact ⟨UInt16.le_refl _, UInt16.le_refl _⟩
    · rintro ⟨above, below⟩
      exact UInt16.le_antisymm below above
  split
  · rename_i isCeiling
    rw [VersionRange.expand, isCeiling]
  · rfl

theorem resolve_describe (noGap : ¬set.HasGap) (ceiling : Version) :
    VersionRange.resolve (set.describe ceiling) (some ceiling) = .ok set := by
  rcases eq_empty_or_eq_range noGap with rfl | ⟨low, high, ordered, rfl⟩
  · have parsed : VersionRange.parse "none" = .ok .none :=
      VersionRange.parse_of_isWritten .none (by decide)
    change VersionRange.resolve "none" (some ceiling) = _
    rw [VersionRange.resolve, parsed]
    rfl
  · have written := isWritten_describe_range ordered ceiling
    have parsed := VersionRange.parse_of_isWritten written
      (trim_eq_self written.hasPlainEnds.first written.hasPlainEnds.last)
    rw [VersionRange.resolve, parsed]
    exact congrArg Except.ok expand_rangeForm

end Ranges

section Lists

/-- Reads versions with commas between them. Without any text there are no versions. -/
def readListed? (text : String) : Option (List Version) :=
  if text = "" then some []
  else ((text.toList.splitOn ',').mapM (VersionRange.readVersion text)).toOption

/-- Between commas only, the pieces of a list keep the blanks in front of them. -/
theorem intercalate_comma_blank (first : List Char) (rest : List (List Char)) :
    [',', ' '].intercalate (first :: rest) =
      [','].intercalate (first :: rest.map fun piece => ' ' :: piece) := by
  induction rest generalizing first with
  | nil => simp
  | cons second rest ih =>
      simp only [List.intercalate_cons_cons, List.map_cons, ih]
      cases rest <;> simp [List.intercalate_cons_cons]

theorem listed_eq_empty_iff : set.listed = "" ↔ set.toList = [] := by
  constructor
  · intro noText
    rcases members : set.toList with _ | ⟨first, rest⟩
    · rfl
    · have noCharacters := congrArg String.toList noText
      have nonempty := first.isNumeral_numeral.nonempty
      simp only [Version.numeral] at nonempty
      cases rest <;> simp [listed, members] at noCharacters
  · intro noMember
    simp [listed, noMember]

theorem splitOn_listed {first : Version} {rest : List Version}
    (members : set.toList = first :: rest) : set.listed.toList.splitOn ',' =
      first.numeral.toList :: rest.map fun version => ' ' :: version.numeral.toList := by
  have noComma (version : Version) : ',' ∉ version.numeral.toList :=
    version.isNumeral_numeral.not_mem rfl
  have pieces : set.listed.toList = [','].intercalate
      (first.numeral.toList :: rest.map fun version => ' ' :: version.numeral.toList) := by
    rw [listed, String.toList_intercalate, members, List.map_cons, List.map_cons]
    change [',', ' '].intercalate _ = _
    rw [intercalate_comma_blank, List.map_map, List.map_map]
    rfl
  rw [pieces]
  apply List.splitOn_intercalate
  · intro piece piece_mem
    rcases List.mem_cons.mp piece_mem with rfl | piece_mem
    · exact noComma first
    · rcases List.mem_map.mp piece_mem with ⟨version, -, rfl⟩
      simp [noComma version]
  · simp

/-- The versions that a set is listed with are its members. -/
theorem readListed?_listed (set : VersionSet) : readListed? set.listed = some set.toList := by
  have isRead (front : List Char) (frontBlank : AllBlank front) (version : Version) :
      VersionRange.readVersion set.listed (front ++ version.numeral.toList) = .ok version := by
    simpa using VersionRange.readVersion_numeral version.isNumeral_numeral frontBlank allBlank_nil
  rcases members : set.toList with _ | ⟨first, rest⟩
  · rw [listed_eq_empty_iff.mpr members]
    rfl
  · have someText : set.listed ≠ "" := by
      simp [listed_eq_empty_iff, members]
    have restRead : (rest.map fun version => ' ' :: version.numeral.toList).mapM
        (VersionRange.readVersion set.listed) = .ok rest := by
      rw [List.mapM_map]
      have eachRead := funext fun version => isRead [' '] (by decide) version
      change rest.mapM (fun version => VersionRange.readVersion set.listed
        ([' '] ++ version.numeral.toList)) = _
      rw [eachRead]
      exact (List.mapM_pure).trans (by simp [pure, Except.pure])
    rw [readListed?, if_neg someText, splitOn_listed members, List.mapM_cons,
      ← List.nil_append first.numeral.toList, isRead [] allBlank_nil, restRead]
    rfl

theorem listed_injective {other : VersionSet} (same : other.listed = set.listed) :
    other = set := by
  apply toList_injective
  have isRead := readListed?_listed other
  rw [same, readListed?_listed set] at isRead
  exact (Option.some.inj isRead).symm

theorem HasGap.describe_eq (gap : set.HasGap) : set.describe ceiling = set.listed := by
  have notContiguous := gap.isContiguous_eq_false
  rcases gap with ⟨first, first_mem, -⟩
  rcases exists_min?_max? first_mem with ⟨low, high, isMin, isMax, -⟩
  simp [describe, isMin, isMax, notContiguous]

theorem HasGap.comma_mem_listed (gap : set.HasGap) : ',' ∈ set.listed.toList := by
  rcases gap with ⟨low, low_mem, high, high_mem, version, -, above, below⟩
  rcases members : set.toList with _ | ⟨first, _ | ⟨second, rest⟩⟩
  · simp [mem_iff_mem_toList, members] at low_mem
  · simp only [mem_iff_mem_toList, members, List.mem_singleton] at low_mem high_mem
    rw [low_mem] at above
    rw [high_mem] at below
    exact absurd (UInt16.lt_trans above below) (UInt16.lt_irrefl first)
  · simp [listed, members]

end Lists

end VersionSet

namespace VersionRange

variable {text : List Char} {expression : String} {range : VersionRange}

theorem comma_not_mem_of_allBlank (blank : AllBlank text) : ',' ∉ text := by
  intro comma_mem
  exact absurd (blank ',' comma_mem) (by decide)

theorem IsWritten.comma_not_mem (written : IsWritten text range) : ',' ∉ text := by
  cases written with
  | none => simp
  | exact numeral => exact numeral.not_mem rfl
  | openEnded numeral blank =>
      simp [numeral.not_mem (by rfl : ','.isDigit = false), comma_not_mem_of_allBlank blank]
  | bounded lowNumeral beforeBlank afterBlank highNumeral ordered =>
      simp [lowNumeral.not_mem (by rfl : ','.isDigit = false),
        highNumeral.not_mem (by rfl : ','.isDigit = false),
        comma_not_mem_of_allBlank beforeBlank, comma_not_mem_of_allBlank afterBlank]

/-- A text with a comma is not a range, whatever the ceiling. -/
theorem resolve_of_comma (comma_mem : ',' ∈ expression.toList) (ceiling? : Option Version) :
    ∃ fault, resolve expression ceiling? = .error (.malformedRange expression fault) := by
  cases parsed : parse expression with
  | error error =>
      rcases exists_malformedRange_of_parse parsed with ⟨fault, rfl⟩
      refine ⟨fault, ?_⟩
      rw [resolve, parsed]
      rfl
  | ok range =>
      rcases parse_eq_ok_iff.mp parsed with
        ⟨front, text, back, whole, frontBlank, backBlank, written⟩
      have noComma : ',' ∉ expression.toList := by
        simp [whole, comma_not_mem_of_allBlank frontBlank, comma_not_mem_of_allBlank backBlank,
          written.comma_not_mem]
      exact absurd comma_mem noComma

end VersionRange

namespace VersionSet

variable {set : VersionSet} {ceiling : Version}

theorem HasGap.describe_refused (gap : set.HasGap) (ceiling : Version) : ∃ fault,
    VersionRange.resolve (set.describe ceiling) (some ceiling) =
      .error (.malformedRange (set.describe ceiling) fault) := by
  rw [gap.describe_eq]
  exact VersionRange.resolve_of_comma gap.comma_mem_listed _

theorem describe_injective {other : VersionSet}
    (same : other.describe ceiling = set.describe ceiling) : other = set := by
  by_cases gap : set.HasGap
  · by_cases otherGap : other.HasGap
    · rw [gap.describe_eq, otherGap.describe_eq] at same
      exact listed_injective same
    · rcases gap.describe_refused ceiling with ⟨fault, refused⟩
      rw [← same, VersionSet.resolve_describe otherGap ceiling] at refused
      cases refused
  · have isRead := VersionSet.resolve_describe gap ceiling
    by_cases otherGap : other.HasGap
    · rcases otherGap.describe_refused ceiling with ⟨fault, refused⟩
      rw [same, isRead] at refused
      cases refused
    · rw [← same, VersionSet.resolve_describe otherGap ceiling] at isRead
      exact Except.ok.inj isRead

/--
Reading the description of a set gives back the set if it has no gap, and is refused as
malformed if it has one. No other set has the same description.
-/
theorem describe_faithful (set : VersionSet) (ceiling : Version) :
    (¬set.HasGap →
      VersionRange.resolve (set.describe ceiling) (some ceiling) = .ok set) ∧
    (set.HasGap → ∃ fault, VersionRange.resolve (set.describe ceiling) (some ceiling) =
      .error (.malformedRange (set.describe ceiling) fault)) ∧
    ∀ other : VersionSet, other.describe ceiling = set.describe ceiling → other = set := by
  refine ⟨?_, ?_, ?_⟩
  · intro noGap
    exact VersionSet.resolve_describe noGap ceiling
  · intro gap
    exact gap.describe_refused ceiling
  · intro other same
    exact describe_injective same

/-- A run up to the greatest version there is, and a set that skips a version. -/
theorem describe_faithful_gapped :
    (¬(range 65534 65535).HasGap ∧
      VersionRange.resolve ((range 65534 65535).describe 65535) (some 65535) =
        .ok (range 65534 65535)) ∧
    (ofList [3, 1]).HasGap ∧ ∃ fault,
      VersionRange.resolve ((ofList [3, 1]).describe 3) (some 3) =
        .error (.malformedRange ((ofList [3, 1]).describe 3) fault) := by
  have gap : (ofList [3, 1]).HasGap :=
    ⟨1, by simp, 3, by simp, 2, by simp, by decide, by decide⟩
  exact ⟨⟨not_hasGap_range, (describe_faithful _ 65535).1 not_hasGap_range⟩, gap,
    (describe_faithful _ 3).2.1 gap⟩

end VersionSet

end MessageGen
