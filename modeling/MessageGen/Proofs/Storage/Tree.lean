import Mathlib.Data.List.Nodup
import Mathlib.Data.List.Perm.Subperm
import MessageGen.Proofs.Outcome
import MessageGen.Proofs.Storage.Route
import MessageGen.Storage.Tree

/-!
# Locations in a file tree

Following a path fails or arrives where the route of the path leads, whatever the tree
has there. The tree only decides whether each step starts at a directory, so a path
that can be followed still can be when there are more directories.
-/

namespace MessageGen

/-- Where a part of a path leads from a location. -/
def Path.Part.enter (location : Location) : Path.Part → Location
  | .here => location
  | .above => location.dropLast
  | .entry name => location ++ [name]

namespace FileTree

/-- Where a path leads, if it can be followed. -/
def destination (tree : FileTree) (path : Path) : Location :=
  path.route.2.foldl Path.Part.enter (if path.route.1 then [] else tree.workingDirectory)

variable {tree other before middle after : FileTree} {location : Location} {entry : FileEntry}
  {path : Path}

@[simp]
theorem entry?_nil (tree : FileTree) : tree.entry? [] = some .directory :=
  rfl

theorem entry?_of_nonempty (nonempty : location ≠ []) :
    tree.entry? location = tree.entries.lookup location := by
  unfold entry?
  simp [nonempty]

theorem lookup_filter_ne (entries : List (Location × FileEntry)) (location other : Location) :
    (entries.filter (·.1 != location)).lookup other =
      if other = location then none else entries.lookup other := by
  induction entries with
  | nil => simp
  | cons first entries ih =>
      rcases first with ⟨here, entry⟩
      by_cases isRemoved : here = location
      · subst isRemoved
        rw [List.filter_cons_of_neg (by simp), ih, List.lookup_cons]
        by_cases same : other = here
        · simp [same]
        · simp [same, beq_eq_false_iff_ne.mpr same]
      · rw [List.filter_cons_of_pos (by simp [isRemoved]), List.lookup_cons, ih, List.lookup_cons]
        by_cases same : other = here
        · simp [same, isRemoved]
        · simp [beq_eq_false_iff_ne.mpr same]

theorem entry?_put (nonempty : location ≠ []) (searched : Location) :
    entry? (tree.put location entry) searched =
      if searched = location then some entry else tree.entry? searched := by
  by_cases isRoot : searched = []
  · simp [isRoot, nonempty.symm]
  · rw [entry?_of_nonempty isRoot, entry?_of_nonempty isRoot, put, List.lookup_cons,
      lookup_filter_ne]
    by_cases same : searched = location
    · simp [same]
    · simp [same, beq_eq_false_iff_ne.mpr same]

theorem entry?_erase (nonempty : location ≠ []) (searched : Location) :
    entry? (tree.erase location) searched =
      if searched = location then none else tree.entry? searched := by
  by_cases isRoot : searched = []
  · simp [isRoot, nonempty.symm]
  · rw [entry?_of_nonempty isRoot, entry?_of_nonempty isRoot, erase, lookup_filter_ne]

theorem nonempty_of_entry?_ne (isOther : tree.entry? location ≠ some .directory) :
    location ≠ [] := by
  rintro rfl
  exact isOther rfl

theorem foldl_enter_entries (names : List String) (start : Location) :
    (names.map Path.Part.entry).foldl Path.Part.enter start = start ++ names := by
  induction names generalizing start with
  | nil => simp
  | cons name names ih => simpa [Path.Part.enter] using ih (start ++ [name])

/-- A path that only enters directories leads below the location of the path it is joined to. -/
theorem destination_join (tree : FileTree) (root : Path) {names : List String}
    (enters : path.route = (false, names.map .entry)) :
    tree.destination (root.join path) = tree.destination root ++ names := by
  have relative : path.route.1 = false := by rw [enters]
  rw [destination, Path.route_join root relative, enters, List.foldl_append, foldl_enter_entries,
    destination]

/-- A path whose last step enters a name leads to a location of that name. -/
theorem exists_destination_eq_append (tree : FileTree) {name : String}
    (isLast : [Path.Part.entry name] <:+ path.route.2) :
    ∃ directory, tree.destination path = directory ++ [name] := by
  rcases isLast with ⟨front, steps⟩
  rw [destination, ← steps, List.foldl_append]
  exact ⟨_, rfl⟩

theorem foldl_enter_filter (parts : List Path.Part) (start : Location) :
    (parts.filter (· ≠ .here)).foldl Path.Part.enter start = parts.foldl Path.Part.enter start := by
  induction parts generalizing start with
  | nil => rfl
  | cons part parts ih =>
      cases part with
      | here => exact ih start
      | above => exact ih _
      | entry name => exact ih _

theorem eq_foldl_of_follow {start : Location} {parts : List Path.Part}
    (followed : tree.follow start parts = .ok location) :
    location = parts.foldl Path.Part.enter start := by
  fun_induction tree.follow start parts with
  | case1 start => exact (Except.ok.inj followed).symm
  | case2 => cases followed
  | case3 => cases followed
  | case4 start parts isDirectory ih => exact ih followed
  | case5 start parts isDirectory ih => exact ih followed
  | case6 => cases followed
  | case7 start parts isDirectory name short ih => exact ih followed

theorem destination_of_locate (located : tree.locate path = .ok location) :
    location = tree.destination path := by
  unfold locate at located
  split at located
  · cases located
  · split at located
    · cases located
    · split at located
      · cases located
      · rw [eq_foldl_of_follow located, destination, Path.route, foldl_enter_filter]

/-- Whatever is a directory in a tree is one in another tree, and relative paths start alike. -/
structure KeepsDirectories (before after : FileTree) : Prop where
  directory : ∀ location, before.entry? location = some .directory →
    after.entry? location = some .directory
  workingDirectory : after.workingDirectory = before.workingDirectory

theorem KeepsDirectories.refl (tree : FileTree) : tree.KeepsDirectories tree :=
  ⟨fun _ isDirectory => isDirectory, rfl⟩

theorem KeepsDirectories.trans (first : before.KeepsDirectories middle)
    (second : middle.KeepsDirectories after) : before.KeepsDirectories after :=
  ⟨fun location isDirectory => second.directory location (first.directory location isDirectory),
    second.workingDirectory.trans first.workingDirectory⟩

theorem KeepsDirectories.destination (keeps : before.KeepsDirectories after) (path : Path) :
    after.destination path = before.destination path := by
  rw [FileTree.destination, keeps.workingDirectory, FileTree.destination]

theorem KeepsDirectories.follow (keeps : before.KeepsDirectories after) {start : Location}
    {parts : List Path.Part} (followed : before.follow start parts = .ok location) :
    after.follow start parts = .ok location := by
  fun_induction before.follow start parts with
  | case1 start => exact followed
  | case2 => cases followed
  | case3 => cases followed
  | case4 start parts isDirectory ih =>
      simpa only [FileTree.follow, keeps.directory _ isDirectory] using ih followed
  | case5 start parts isDirectory ih =>
      simpa only [FileTree.follow, keeps.directory _ isDirectory] using ih followed
  | case6 => cases followed
  | case7 start parts isDirectory name short ih =>
      simpa only [FileTree.follow, keeps.directory _ isDirectory, short, if_false]
        using ih followed

theorem KeepsDirectories.locate (keeps : before.KeepsDirectories after)
    (located : before.locate path = .ok location) : after.locate path = .ok location := by
  unfold FileTree.locate at located ⊢
  rw [keeps.workingDirectory]
  split at located
  · cases located
  · rename_i noNul
    rw [if_neg noNul]
    split at located
    · cases located
    · rename_i nonempty
      rw [if_neg nonempty]
      split at located
      · cases located
      · rename_i short
        rw [if_neg short]
        exact keeps.follow located

end FileTree

end MessageGen
