import MessageGen.Text.Numeral

/-!
# Sets of protocol versions

A version is a 16-bit number. A set of versions is kept as a strictly ascending
array, so that two sets with the same members are equal, the least and the greatest
member stand at the ends, and membership is found by halving. All sets are built by
the operations of this file; `toList` is the view in which their laws are stated.
-/

namespace MessageGen

/-- A protocol version. -/
abbrev Version := UInt16

/-- A finite set of versions, in ascending order without repetition. -/
structure VersionSet where
  /-- The members, in ascending order. -/
  versions : Array Version
  /-- No member is repeated and each is above the one before it. -/
  ascending : versions.toList.Pairwise (· < ·)

namespace VersionSet

/-- The members in ascending order. -/
def toList (set : VersionSet) : List Version :=
  set.versions.toList

instance : Membership Version VersionSet :=
  ⟨fun set version => version ∈ set.toList⟩

instance (version : Version) (set : VersionSet) : Decidable (version ∈ set) :=
  inferInstanceAs (Decidable (version ∈ set.toList))

theorem mem_iff_mem_toList {version : Version} {set : VersionSet} :
    version ∈ set ↔ version ∈ set.toList :=
  Iff.rfl

/-- Sets with the same list of members are equal. -/
theorem toList_injective {left right : VersionSet} (same : left.toList = right.toList) :
    left = right := by
  cases left with
  | mk leftVersions leftAscending =>
    cases right with
    | mk rightVersions rightAscending =>
      simp only [toList] at same
      have : leftVersions = rightVersions := Array.toList_inj.1 same
      subst this
      rfl

instance : DecidableEq VersionSet := fun left right =>
  if same : left.toList = right.toList then isTrue (toList_injective same)
  else isFalse fun equal => same (congrArg toList equal)

/-- The set without members. -/
def empty : VersionSet :=
  ⟨#[], by simp⟩

instance : EmptyCollection VersionSet := ⟨empty⟩

instance : Inhabited VersionSet := ⟨empty⟩

/-- The set with one member. -/
def single (version : Version) : VersionSet :=
  ⟨#[version], by simp⟩

/-- The versions from a lower to an upper bound, both included. -/
def rangeList (low high : Version) : List Version :=
  (List.range' low.toNat (high.toNat + 1 - low.toNat)).map UInt16.ofNat

theorem mem_rangeList {low high version : Version} :
    version ∈ rangeList low high ↔ low ≤ version ∧ version ≤ high := by
  have bound := version.toNat_lt
  have highBound := high.toNat_lt
  simp only [rangeList, List.mem_map, List.mem_range'_1, UInt16.le_iff_toNat_le]
  constructor
  · rintro ⟨number, ⟨lower, upper⟩, rfl⟩
    rw [UInt16.toNat_ofNat', Nat.mod_eq_of_lt (by omega)]
    omega
  · rintro ⟨lower, upper⟩
    exact ⟨version.toNat, by omega, UInt16.ofNat_toNat⟩

theorem pairwise_rangeList (low high : Version) :
    (rangeList low high).Pairwise (· < ·) := by
  have highBound := high.toNat_lt
  rw [rangeList, List.pairwise_map]
  refine List.Pairwise.imp_of_mem ?_ (List.pairwise_lt_range' (s := low.toNat) 1)
  intro left right leftMember rightMember less
  simp only [List.mem_range'_1] at leftMember rightMember
  rw [UInt16.lt_iff_toNat_lt, UInt16.toNat_ofNat', UInt16.toNat_ofNat',
    Nat.mod_eq_of_lt (by omega), Nat.mod_eq_of_lt (by omega)]
  exact less

/-- All versions between two bounds, both included; none if the bounds are reversed. -/
def range (low high : Version) : VersionSet :=
  ⟨(rangeList low high).toArray, by simpa using pairwise_rangeList low high⟩

/-- Keeps one of each group of equal neighbours. -/
def dropRepeats : List Version → List Version
  | [] => []
  | [version] => [version]
  | first :: second :: rest =>
    if first = second then dropRepeats (second :: rest)
    else first :: dropRepeats (second :: rest)

@[simp]
theorem mem_dropRepeats {version : Version} {versions : List Version} :
    version ∈ dropRepeats versions ↔ version ∈ versions := by
  fun_induction dropRepeats versions with
  | case1 => rfl
  | case2 => rfl
  | case3 second rest ih => simp [ih]
  | case4 first second rest _ ih => simp [ih]

theorem pairwise_dropRepeats {versions : List Version} (sorted : versions.Pairwise (· ≤ ·)) :
    (dropRepeats versions).Pairwise (· < ·) := by
  fun_induction dropRepeats versions with
  | case1 => exact List.Pairwise.nil
  | case2 => simp
  | case3 second rest ih => exact ih (List.pairwise_cons.1 sorted).2
  | case4 first second rest distinct ih =>
    obtain ⟨below, sortedRest⟩ := List.pairwise_cons.1 sorted
    refine List.pairwise_cons.2 ⟨?_, ih sortedRest⟩
    intro version member
    have firstBelow : first < second := by
      have := below second (by simp)
      have different : first.toNat ≠ second.toNat := fun same => distinct (UInt16.toNat_inj.1 same)
      rw [UInt16.le_iff_toNat_le] at this
      rw [UInt16.lt_iff_toNat_lt]
      omega
    rcases List.mem_cons.1 (mem_dropRepeats.1 member) with rfl | inRest
    · exact firstBelow
    · have := (List.pairwise_cons.1 sortedRest).1 version inRest
      rw [UInt16.le_iff_toNat_le] at this
      rw [UInt16.lt_iff_toNat_lt] at firstBelow ⊢
      omega

/-- The order in which versions are sorted. -/
def isBelow (left right : Version) : Bool :=
  decide (left ≤ right)

theorem pairwise_sorted (versions : List Version) :
    (versions.mergeSort isBelow).Pairwise (· ≤ ·) := by
  have transitive : ∀ left middle right : Version,
      isBelow left middle → isBelow middle right → isBelow left right := by
    intro left middle right
    simpa [isBelow] using UInt16.le_trans
  have total : ∀ left right : Version, isBelow left right || isBelow right left := by
    intro left right
    simpa [isBelow] using UInt16.le_total left right
  simpa [isBelow] using List.pairwise_mergeSort transitive total versions

/-- The set of the versions of a list, which may be in any order and repeat itself. -/
def ofList (versions : List Version) : VersionSet :=
  ⟨(dropRepeats (versions.mergeSort isBelow)).toArray, by
    simpa using pairwise_dropRepeats (pairwise_sorted versions)⟩

/-- The number of members. -/
def size (set : VersionSet) : Nat :=
  set.versions.size

/-- Whether the set has no member. -/
def isEmpty (set : VersionSet) : Bool :=
  set.versions.isEmpty

/-- The least member. -/
def min? (set : VersionSet) : Option Version :=
  set.versions[0]?

/-- The greatest member. -/
def max? (set : VersionSet) : Option Version :=
  set.versions.back?

/-- Looks for a version among the positions from `low` up to but not including `high`. -/
def containsBetween (versions : Array Version) (version : Version) (low high : Nat)
    (inBounds : high ≤ versions.size) : Bool :=
  if nonempty : low < high then
    let middle := (low + high) / 2
    if versions[middle] = version then true
    else if versions[middle] < version then
      containsBetween versions version (middle + 1) high inBounds
    else containsBetween versions version low middle (by omega)
  else false
termination_by high - low

/-- Membership, found by halving the ascending array. -/
def contains (set : VersionSet) (version : Version) : Bool :=
  containsBetween set.versions version 0 set.versions.size (Nat.le_refl _)

/-- Whether every member of the first set is in the second. -/
def isSubset (left right : VersionSet) : Bool :=
  left.toList.all right.contains

/-- The members that two sets share. -/
def inter (left right : VersionSet) : VersionSet :=
  ⟨(left.toList.filter right.contains).toArray, by
    simpa [toList] using left.ascending.filter right.contains⟩

instance : Inter VersionSet := ⟨inter⟩

/-- Whether each version of a list is the successor of the one before it. -/
def isConsecutive : List Version → Bool
  | first :: second :: rest => second == first + 1 && isConsecutive (second :: rest)
  | _ => true

/-- Whether the set has all versions between its least and its greatest member. -/
def isContiguous (set : VersionSet) : Bool :=
  isConsecutive set.toList

/-- The members as decimal numerals, with a comma and a space between neighbours. -/
def listed (set : VersionSet) : String :=
  String.intercalate ", " (set.toList.map fun version => toString version.toNat)

/--
Writes a set as a version range. A run that reaches the ceiling is left open at its
upper end; a set with a gap has no range and is listed.
-/
def describe (set : VersionSet) (ceiling : Version) : String :=
  match set.min?, set.max? with
  | some low, some high =>
    if !set.isContiguous then set.listed
    else if low = high then toString low.toNat
    else if high = ceiling then toString low.toNat ++ "+"
    else toString low.toNat ++ "-" ++ toString high.toNat
  | _, _ => "none"

/-- The greatest version there is. -/
def greatestVersion : Version := 65535

/-- Writes a set on its own, with the greatest version there is as the ceiling. -/
def display (set : VersionSet) : String :=
  set.describe greatestVersion

instance : ToString VersionSet := ⟨display⟩

/-- Extends the runs of a list by a version that stands before it. -/
def extendRuns (version : Version) : List (Version × Version) → List (Version × Version)
  | [] => [(version, version)]
  | (low, high) :: rest =>
    if low == version + 1 then (version, high) :: rest
    else (version, version) :: (low, high) :: rest

/-- The longest runs of consecutive members, as pairs of bounds in ascending order. -/
def runs (set : VersionSet) : List (Version × Version) :=
  set.toList.foldr extendRuns []

end VersionSet

end MessageGen
