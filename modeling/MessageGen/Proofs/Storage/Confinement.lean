import MessageGen.Proofs.Storage.Writing

/-!
# Writing below a directory

A run that writes files to paths which only enter directories below the output directory
changes nothing else, whether it succeeds or fails on the way. The output directory and
those that lead to it are made if they are missing, so that these may be new.
-/

namespace MessageGen

/-- A path leads to a file below a directory, through directories with names. -/
def Path.LiesUnder (root path : Path) : Prop :=
  ∃ (directories : List String) (file : String),
    path.route = (root.route.1, root.route.2 ++ (directories ++ [file]).map .entry)

namespace FileTree

/-- A location to which a path leads that the given path starts with. -/
def OnWay (tree : FileTree) (root : Path) (location : Location) : Prop :=
  ∃ leading : Path, leading.route.1 = root.route.1 ∧ leading.route.2 <+: root.route.2 ∧
    tree.destination leading = location

/--
Only what lies below a directory has changed, apart from directories that are new on the
way to it.
-/
structure ChangesBelow (root : Path) (before after : FileTree) : Prop where
  entry : ∀ location, before.destination root <+: location ∨
    after.entry? location = before.entry? location ∨
    before.OnWay root location ∧ before.entry? location = none ∧
      after.entry? location = some .directory
  workingDirectory : after.workingDirectory = before.workingDirectory

variable {tree before middle after : FileTree} {location : Location} {root target path : Path}
  {files : List (Path × String)} {staged : List (StagedFile Location)}

section Relation

theorem destination_eq_of_workingDirectory
    (same : after.workingDirectory = before.workingDirectory) (path : Path) :
    after.destination path = before.destination path := by
  rw [destination, same, destination]

theorem ChangesBelow.refl (tree : FileTree) : ChangesBelow root tree tree :=
  ⟨fun _ => .inr (.inl rfl), rfl⟩

theorem ChangesBelow.destination (changes : ChangesBelow root before after) (path : Path) :
    after.destination path = before.destination path :=
  destination_eq_of_workingDirectory changes.workingDirectory path

theorem ChangesBelow.trans (first : ChangesBelow root before middle)
    (second : ChangesBelow root middle after) : ChangesBelow root before after := by
  refine ⟨?_, second.workingDirectory.trans first.workingDirectory⟩
  intro location
  rcases second.entry location with below | same | ⟨onWay, isFree, isNew⟩
  · exact .inl (first.destination root ▸ below)
  · rw [same]
    exact first.entry location
  · rcases first.entry location with below | same | ⟨-, -, wasNew⟩
    · exact .inl below
    · rcases onWay with ⟨leading, sameStart, leads, rfl⟩
      refine .inr (.inr ⟨⟨leading, sameStart, leads, (first.destination leading).symm⟩, ?_, isNew⟩)
      rw [← same, isFree]
    · rw [isFree] at wasNew
      cases wasNew

theorem changesBelow_put (below : tree.destination root <+: location) (nonempty : location ≠ [])
    (entry : FileEntry) : ChangesBelow root tree (tree.put location entry) := by
  refine ⟨?_, rfl⟩
  intro searched
  rw [entry?_put nonempty]
  split
  · rename_i same
    exact .inl (same ▸ below)
  · exact .inr (.inl rfl)

theorem changesBelow_erase (below : tree.destination root <+: location) (nonempty : location ≠ []) :
    ChangesBelow root tree (tree.erase location) := by
  refine ⟨?_, rfl⟩
  intro searched
  rw [entry?_erase nonempty]
  split
  · rename_i same
    exact .inl (same ▸ below)
  · exact .inr (.inl rfl)

end Relation

/-- The temporary files of staged files lie below a directory. -/
def HasStagedBelow (tree : FileTree) (root : Path) (staged : List (StagedFile Location)) : Prop :=
  ∀ file ∈ staged, tree.destination root <+: file.temporary ∧ file.temporary ≠ []

theorem ChangesBelow.hasStagedBelow_iff (changes : ChangesBelow root before after) :
    after.HasStagedBelow root staged ↔ before.HasStagedBelow root staged := by
  simp only [HasStagedBelow, changes.destination]

section Directories

/-- Names that a path enters behind another path lead below the location of that path. -/
theorem destination_of_route_append {names : List String}
    (route : path.route = (root.route.1, root.route.2 ++ names.map .entry)) :
    tree.destination path = tree.destination root ++ names := by
  rw [destination, route, List.foldl_append, foldl_enter_entries, destination]

theorem changesBelow_makeDirectory
    (reached : tree.destination root <+: tree.destination path ∨
      tree.OnWay root (tree.destination path)) :
    ChangesBelow root tree (tree.runOn (FileAccess.makeDirectory path)).2 := by
  rcases tree.makeDirectory_cases path with same | ⟨isFree, isNew⟩
  · rw [same]
    exact .refl tree
  · rw [isNew]
    have notDirectory : tree.entry? (tree.destination path) ≠ some .directory := by
      simp [isFree]
    refine ⟨?_, rfl⟩
    intro searched
    rw [entry?_put (nonempty_of_entry?_ne notDirectory)]
    split
    · rename_i same
      subst same
      exact reached.imp_right fun onWay => .inr ⟨onWay, isFree, rfl⟩
    · exact .inr (.inl rfl)

/-- A path that starts another one is on the way to a directory, or leads below it. -/
theorem reached_of_leading {leading : Path} {names : List String}
    (sameStart : leading.route.1 = root.route.1)
    (leads : leading.route.2 <+: root.route.2 ++ names.map .entry) :
    tree.destination root <+: tree.destination leading ∨
      tree.OnWay root (tree.destination leading) := by
  rcases List.prefix_or_prefix_of_prefix leads (List.prefix_append _ _) with inside | ⟨more, steps⟩
  · exact .inr ⟨leading, sameStart, inside, rfl⟩
  · rw [← steps, List.prefix_append_right_inj] at leads
    rcases List.prefix_map_iff.mp leads with ⟨others, -, rfl⟩
    left
    rw [destination_of_route_append (Prod.ext sameStart steps.symm)]
    exact List.prefix_append _ _

theorem changesBelow_createDirectories {names : List String}
    (route : path.route = (root.route.1, root.route.2 ++ names.map .entry)) (tree : FileTree) :
    ChangesBelow root tree (tree.runOn (FileAccess.createDirectories path)).2 := by
  apply createDirectories_preserves .refl
  · intro before middle after first second
    exact first.trans second
  · intro leading sameStart leads tree
    rw [route] at sameStart leads
    exact changesBelow_makeDirectory (reached_of_leading sameStart leads)

end Directories

section Files

theorem route_directoryOf (nonempty : target.route.2 ≠ []) :
    (FileAccess.directoryOf target).route = (target.route.1, target.route.2.dropLast) := by
  have hereRoute : Path.route ⟨"."⟩ = Path.route ⟨""⟩ := by decide
  cases found : target.parent? with
  | none => exact absurd (Path.steps_of_parent?_eq_none found) nonempty
  | some parent =>
      simp only [FileAccess.directoryOf, found]
      rw [← Path.route_of_parent? found]
      split
      · rename_i isEmpty
        rcases parent with ⟨text⟩
        cases String.isEmpty_iff.mp isEmpty
        exact hereRoute
      · rfl

/-- A temporary file is made in its directory. -/
theorem below_of_createTemporary {directory : Path} {contents : String}
    (made : tree.createTemporary directory contents = .ok (location, after)) :
    tree.destination directory <+: location := by
  rcases createTemporary_eq_ok_iff.mp made with ⟨around, located, -, rfl, -⟩
  rcases tree.exists_freshLocation_eq around with ⟨-, number, inDirectory⟩
  rw [← destination_of_locate located, inDirectory]
  exact List.prefix_append _ _

/-- A file below a directory is staged below it, if it can be staged. -/
theorem changesBelow_of_stage (under : root.LiesUnder target) {contents : String}
    {outcome : Except GenerationError Location}
    (run : before.runOn (FileAccess.stage target contents) = (outcome, after)) :
    ChangesBelow root before after ∧ ∀ temporary, outcome = .ok temporary →
      before.destination root <+: temporary ∧ temporary ≠ [] := by
  rcases under with ⟨directories, file, route⟩
  have directoryRoute : (FileAccess.directoryOf target).route =
      (root.route.1, root.route.2 ++ directories.map .entry) := by
    have nonempty : target.route.2 ≠ [] := by simp [route]
    rw [route_directoryOf nonempty, route]
    simp [← List.append_assoc]
  have changes : ChangesBelow root before (before.withDirectoryOf target) :=
    changesBelow_createDirectories directoryRoute before
  rcases stage_cases run with ⟨_, _, rfl, left⟩ | ⟨location, rfl, made⟩
  · refine ⟨?_, ?_⟩
    · rcases left with rfl | rfl
      · exact .refl _
      · exact changes
    · intro temporary impossible
      cases impossible
  · have below : before.destination root <+: location := by
      have inDirectory := below_of_createTemporary made
      rw [destination_of_route_append directoryRoute, changes.destination] at inDirectory
      exact (List.prefix_append _ _).trans inDirectory
    rcases put_of_createTemporary made with ⟨isTemporary, -, rfl⟩
    refine ⟨?_, ?_⟩
    · apply changes.trans
      apply changesBelow_put _ isTemporary.nonempty
      rwa [changes.destination]
    · intro temporary same
      cases same
      exact ⟨below, isTemporary.nonempty⟩

/-- Files below a directory are staged below it; if one cannot be, the others are removed. -/
theorem changesBelow_of_stageAll (under : ∀ file ∈ files, root.LiesUnder file.1)
    {outcome : Except GenerationError (List (StagedFile Location))}
    (run : before.runOn (FileAccess.stageAll files) = (outcome, after)) :
    ChangesBelow root before after ∧
      ∀ staged, outcome = .ok staged → before.HasStagedBelow root staged := by
  induction files generalizing before outcome after with
  | nil =>
      cases run
      refine ⟨.refl before, ?_⟩
      intro staged same
      cases same
      exact List.forall_mem_nil _
  | cons file files ih =>
      rcases file with ⟨target, contents⟩
      have restUnder := fun file file_mem => under file (List.mem_cons_of_mem _ file_mem)
      rcases stageAll_cons_cases run with ⟨_, rfl, first⟩ |
        ⟨temporary, middle, first, ⟨_, left, rfl, others, rfl⟩ | ⟨rest, rfl, others⟩⟩
      · refine ⟨(changesBelow_of_stage (under _ List.mem_cons_self) first).1, ?_⟩
        intro _ impossible
        cases impossible
      · rcases changesBelow_of_stage (under _ List.mem_cons_self) first with ⟨changes, isBelow⟩
        rcases isBelow temporary rfl with ⟨below, nonempty⟩
        have restChanges := changes.trans (ih restUnder others).1
        refine ⟨restChanges.trans (changesBelow_erase ?_ nonempty), ?_⟩
        · rwa [restChanges.destination]
        · intro _ impossible
          cases impossible
      · rcases changesBelow_of_stage (under _ List.mem_cons_self) first with ⟨changes, isBelow⟩
        rcases ih restUnder others with ⟨restChanges, restBelow⟩
        refine ⟨changes.trans restChanges, ?_⟩
        intro staged same
        cases same
        exact List.forall_mem_cons.mpr
          ⟨isBelow temporary rfl, changes.hasStagedBelow_iff.mp (restBelow rest rfl)⟩

theorem changesBelow_moveFile (sourceBelow : before.destination root <+: location)
    (sourceNonempty : location ≠ []) (under : root.LiesUnder target)
    (moved : before.moveFile location target = .ok after) : ChangesBelow root before after := by
  rcases moveFile_eq_ok_iff.mp moved with ⟨destination, entry, located, -, notDirectory, rfl⟩
  have erased := changesBelow_erase sourceBelow sourceNonempty
  apply erased.trans
  apply changesBelow_put _ (nonempty_of_entry?_ne notDirectory)
  rcases under with ⟨directories, file, route⟩
  rw [erased.destination, destination_of_locate located, destination_of_route_append route]
  exact List.prefix_append _ _

theorem changesBelow_removeTemporaries (below : before.HasStagedBelow root staged) :
    ChangesBelow root before (before.runOn do
      for file in staged do FileAccess.removeTemporary file.temporary).2 := by
  induction staged generalizing before with
  | nil => exact .refl before
  | cons file staged ih =>
      rcases List.forall_mem_cons.mp below with ⟨⟨fileBelow, nonempty⟩, restBelow⟩
      have erased := changesBelow_erase fileBelow nonempty
      rw [List.forIn_cons]
      exact erased.trans (ih (erased.hasStagedBelow_iff.mpr restBelow))

/-- Files below a directory are put in place below it; if one cannot be, the others are removed. -/
theorem changesBelow_moveAll (below : before.HasStagedBelow root staged)
    (under : ∀ file ∈ staged, root.LiesUnder file.target) :
    ChangesBelow root before (before.runOn (FileAccess.moveAll staged)).2 := by
  induction staged generalizing before with
  | nil => exact .refl before
  | cons file staged ih =>
      rw [FileAccess.moveAll, runOn_bind, runOn_moveTemporary]
      cases moved : before.moveFile file.temporary file.target with
      | error fault =>
          simp only [runOn_bind, runOn_pure]
          exact changesBelow_removeTemporaries below
      | ok middle =>
          rcases List.forall_mem_cons.mp below with ⟨⟨fileBelow, nonempty⟩, restBelow⟩
          rcases List.forall_mem_cons.mp under with ⟨fileUnder, restUnder⟩
          have changes := changesBelow_moveFile fileBelow nonempty fileUnder moved
          have restChanges := ih (changes.hasStagedBelow_iff.mpr restBelow) restUnder
          simp only [runOn_bind]
          apply changes.trans
          cases (middle.runOn (FileAccess.moveAll staged)).1 <;> exact restChanges

/-- Files below a directory are written below it, and a run that fails leaves nothing elsewhere. -/
theorem changesBelow_writeFiles {generated : List GeneratedFile}
    (under : ∀ file ∈ generated, root.LiesUnder (root.join file.path)) (before : FileTree) :
    ChangesBelow root before (before.runOn (FileAccess.writeFiles root generated)).2 := by
  have filesUnder : ∀ file ∈ generated.map fun file => (root.join file.path, file.contents),
      root.LiesUnder file.1 := by
    intro file file_mem
    rcases List.mem_map.mp file_mem with ⟨source, source_mem, rfl⟩
    exact under source source_mem
  rw [FileAccess.writeFiles, runOn_bind]
  rcases staging : before.runOn (FileAccess.stageAll (generated.map fun file =>
    (root.join file.path, file.contents))) with ⟨_ | staged, middle⟩
  · rw [staging]
    exact (changesBelow_of_stageAll filesUnder staging).1
  · rw [staging]
    rcases changesBelow_of_stageAll filesUnder staging with ⟨changes, below⟩
    have targets := (stages_of_stageAll staging).targets
    apply changes.trans
    apply changesBelow_moveAll
    · exact changes.hasStagedBelow_iff.mpr (below staged rfl)
    · intro file file_mem
      have target_mem := List.mem_map_of_mem (f := (·.target)) file_mem
      rw [targets] at target_mem
      rcases List.mem_map.mp target_mem with ⟨written, written_mem, same⟩
      rw [← same]
      exact filesUnder written written_mem

end Files

end FileTree

end MessageGen
