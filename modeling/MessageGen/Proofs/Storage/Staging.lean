import MessageGen.Proofs.Storage.Tree
import MessageGen.Storage.Staging
import MessageGen.Text.Numeral

/-!
# Staged files

Staging only adds to a tree: new directories, and temporary files at locations where
there was nothing. A temporary file gets the first free name of a list that is longer
than the list of entries, so a free name is always found.
-/

namespace MessageGen

namespace FileTree

/-- The outcome of a run on a file tree, and the tree that it leaves. -/
def runOn {Outcome : Type} (tree : FileTree) (run : StateM FileTree Outcome) :
    Outcome × FileTree :=
  run tree

variable {tree before middle after : FileTree} {location : Location} {path : Path}
  {files : List (Path × String)} {staged : List (StagedFile Location)}

section Runs

variable {Outcome Result : Type}

@[simp]
theorem runOn_pure (outcome : Outcome) : tree.runOn (pure outcome) = (outcome, tree) :=
  rfl

@[simp]
theorem runOn_bind (run : StateM FileTree Outcome) (next : Outcome → StateM FileTree Result) :
    tree.runOn (run >>= next) = (tree.runOn run).2.runOn (next (tree.runOn run).1) :=
  rfl

@[simp]
theorem runOn_map (function : Outcome → Result) (run : StateM FileTree Outcome) :
    tree.runOn (function <$> run) = (function (tree.runOn run).1, (tree.runOn run).2) :=
  rfl

@[simp]
theorem runOn_isDirectory :
    tree.runOn (FileAccess.isDirectory path) = (tree.isDirectory path, tree) :=
  rfl

@[simp]
theorem runOn_createTemporary {contents : String} :
    tree.runOn (FileAccess.createTemporary path contents) =
      match tree.createTemporary path contents with
      | .ok (location, changed) => (.ok location, changed)
      | .error fault => (.error fault, tree) :=
  rfl

@[simp]
theorem runOn_moveTemporary : tree.runOn (FileAccess.moveTemporary location path) =
    match tree.moveFile location path with
    | .ok changed => (.ok (), changed)
    | .error fault => (.error fault, tree) :=
  rfl

@[simp]
theorem runOn_removeTemporary :
    tree.runOn (FileAccess.removeTemporary location) = ((), tree.erase location) :=
  rfl

@[simp]
theorem runOn_makeDirectory : tree.runOn (FileAccess.makeDirectory path) =
    match tree.makeDirectory path with
    | .ok changed => (.ok (), changed)
    | .error fault => (.error fault, tree) :=
  rfl

theorem snd_runOn_isDirectory (found missing : Outcome) :
    (tree.runOn (do
      if ← FileAccess.isDirectory path then return found else return missing)).2 = tree := by
  by_cases isDirectory : tree.isDirectory path = true <;> simp [isDirectory]

end Runs

/-- A tree has what another one has, and perhaps new directories. -/
structure GrowsTo (before after : FileTree) : Prop where
  entry : ∀ location, after.entry? location = before.entry? location ∨
    before.entry? location = none ∧ after.entry? location = some .directory
  workingDirectory : after.workingDirectory = before.workingDirectory

theorem GrowsTo.refl (tree : FileTree) : tree.GrowsTo tree :=
  ⟨fun _ => Or.inl rfl, rfl⟩

theorem GrowsTo.trans (first : before.GrowsTo middle) (second : middle.GrowsTo after) :
    before.GrowsTo after := by
  refine ⟨?_, second.workingDirectory.trans first.workingDirectory⟩
  intro location
  rcases second.entry location with same | ⟨isFree, isNew⟩
  · rw [same]
    exact first.entry location
  · rcases first.entry location with same | ⟨-, wasNew⟩
    · exact Or.inr ⟨same.symm.trans isFree, isNew⟩
    · rw [isFree] at wasNew
      cases wasNew

theorem GrowsTo.keepsDirectories (grows : before.GrowsTo after) :
    before.KeepsDirectories after := by
  refine ⟨?_, grows.workingDirectory⟩
  intro location isDirectory
  rcases grows.entry location with same | ⟨isFree, -⟩
  · exact same.trans isDirectory
  · rw [isFree] at isDirectory
    cases isDirectory

theorem growsTo_put (isFree : tree.entry? location = none) :
    tree.GrowsTo (tree.put location .directory) := by
  have notDirectory : tree.entry? location ≠ some .directory := by simp [isFree]
  refine ⟨?_, rfl⟩
  intro searched
  rw [entry?_put (nonempty_of_entry?_ne notDirectory)]
  split
  · rename_i same
    subst same
    exact Or.inr ⟨isFree, rfl⟩
  · exact Or.inl rfl

/-- An attempt to make a directory makes it where there is nothing, or changes nothing. -/
theorem makeDirectory_cases (tree : FileTree) (path : Path) :
    (tree.runOn (FileAccess.makeDirectory path)).2 = tree ∨
      tree.entry? (tree.destination path) = none ∧
        (tree.runOn (FileAccess.makeDirectory path)).2 =
          tree.put (tree.destination path) .directory := by
  rw [runOn_makeDirectory]
  cases made : tree.makeDirectory path with
  | error fault => exact Or.inl rfl
  | ok changed =>
      rw [makeDirectory, Except.bind_eq_ok_iff] at made
      rcases made with ⟨location, located, made⟩
      split at made
      · cases made
      · rename_i isFree
        cases made
        rw [← destination_of_locate located]
        exact Or.inr ⟨isFree, rfl⟩

theorem growsTo_makeDirectory (tree : FileTree) (path : Path) :
    tree.GrowsTo (tree.runOn (FileAccess.makeDirectory path)).2 := by
  rcases tree.makeDirectory_cases path with same | ⟨isFree, isNew⟩
  · rw [same]
    exact .refl tree
  · rw [isNew]
    exact growsTo_put isFree

section Directories

variable {relates : FileTree → FileTree → Prop}

theorem ensureDirectory_preserves {made : Path}
    (makes : ∀ tree : FileTree, relates tree (tree.runOn (FileAccess.makeDirectory made)).2)
    (tree : FileTree) : relates tree (tree.runOn (FileAccess.ensureDirectory made)).2 := by
  rw [FileAccess.ensureDirectory, runOn_bind]
  have related := makes tree
  cases (tree.runOn (FileAccess.makeDirectory made)).1 with
  | ok => exact related
  | error fault =>
      rw [snd_runOn_isDirectory]
      exact related

/--
Whatever the attempts to make a path and the paths it starts with preserve, making a
directory with those that lead to it preserves, also if it fails.
-/
theorem createDirectories_preserves (refl : ∀ tree, relates tree tree)
    (trans : ∀ before middle after, relates before middle → relates middle after →
      relates before after)
    (path : Path)
    (makes : ∀ leading : Path, leading.route.1 = path.route.1 →
      leading.route.2 <+: path.route.2 →
      ∀ tree : FileTree, relates tree (tree.runOn (FileAccess.makeDirectory leading)).2)
    (tree : FileTree) : relates tree (tree.runOn (FileAccess.createDirectories path)).2 := by
  induction length : path.text.length using Nat.strongRecOn generalizing path tree with
  | ind bound ih =>
      have makesPath := makes path rfl (List.prefix_refl _)
      rw [FileAccess.createDirectories]
      split
      · exact refl tree
      · rw [runOn_bind]
        have related := makesPath tree
        cases (tree.runOn (FileAccess.makeDirectory path)).1 with
        | ok => exact related
        | error fault =>
            generalize (tree.runOn (FileAccess.makeDirectory path)).2 = middle at related
            apply trans tree middle _ related
            split
            · rename_i impossible
              cases impossible
            · split
              · exact refl middle
              · rename_i parent found
                have parentRoute := Path.route_of_parent? found
                rw [runOn_bind]
                have inside := ih _ (length ▸ Path.length_parent?_lt found) parent (by
                    intro leading sameStart leads
                    rw [parentRoute] at sameStart leads
                    exact makes leading sameStart (leads.trans (List.dropLast_prefix _)))
                  middle rfl
                cases (middle.runOn (FileAccess.createDirectories parent)).1 with
                | error fault => exact inside
                | ok => exact trans _ _ _ inside (ensureDirectory_preserves makesPath _)
            · rw [snd_runOn_isDirectory]
              exact refl middle

end Directories

theorem growsTo_createDirectories (tree : FileTree) (path : Path) :
    tree.GrowsTo (tree.runOn (FileAccess.createDirectories path)).2 := by
  apply createDirectories_preserves .refl
  · intro before middle after first second
    exact first.trans second
  · intro leading _ _ tree
    exact tree.growsTo_makeDirectory leading

theorem temporaryName_injective : Function.Injective temporaryName := by
  intro first second same
  simp only [temporaryName, ← String.toList_inj, String.toList_append] at same
  have sameNumeral : Text.decimal first = Text.decimal second := by
    simpa [Text.decimal] using List.append_cancel_left same
  have sameRead := congrArg Text.readDecimal? sameNumeral
  rwa [Text.readDecimal?_decimal, Text.readDecimal?_decimal, Option.some_inj] at sameRead

/-- Whether a location has the name of a temporary file. -/
def IsTemporary (location : Location) : Prop :=
  ∃ directory number, location = directory ++ [temporaryName number]

/-- There is no point in the name of a temporary file. -/
theorem point_not_mem_temporaryName (number : Nat) : '.' ∉ (temporaryName number).toList := by
  intro point_mem
  rw [temporaryName, String.toList_append, List.mem_append] at point_mem
  rcases point_mem with inFront | inNumeral
  · exact absurd inFront (by decide)
  · have isDigit := Nat.isDigit_of_mem_toDigits (b := 10) (by decide) (by decide)
      (by simpa using inNumeral)
    exact absurd isDigit (by decide)

/-- Among more locations than there are entries some location is free. -/
theorem exists_free {candidates : List Location} (distinct : candidates.Nodup)
    (nonempty : ∀ location ∈ candidates, location ≠ [])
    (more : tree.entries.length < candidates.length) :
    ∃ location ∈ candidates, tree.entry? location = none := by
  by_contra allTaken
  have taken : candidates ⊆ tree.entries.map (·.1) := by
    intro location location_mem
    by_contra notEntry
    refine allTaken ⟨location, location_mem, ?_⟩
    rw [entry?_of_nonempty (nonempty location location_mem), List.lookup_eq_none_iff]
    intro entry entry_mem
    simp only [bne_iff_ne]
    rintro rfl
    exact notEntry (List.mem_map_of_mem entry_mem)
  have fewer := (distinct.subperm taken).length_le
  rw [List.length_map] at fewer
  omega

/-- A fresh location is free, and it lies in the directory that it is for. -/
theorem exists_freshLocation_eq (tree : FileTree) (directory : Location) :
    tree.entry? (tree.freshLocation directory) = none ∧
      ∃ number, tree.freshLocation directory = directory ++ [temporaryName number] := by
  simp only [freshLocation]
  generalize hasCandidates : ((List.range (tree.entries.length + 1)).map fun number =>
    directory ++ [temporaryName number]) = candidates
  have temporary : ∀ location ∈ candidates, ∃ number,
      location = directory ++ [temporaryName number] := by
    subst hasCandidates
    intro location location_mem
    rcases List.mem_map.mp location_mem with ⟨number, -, rfl⟩
    exact ⟨number, rfl⟩
  have distinct : candidates.Nodup := by
    subst hasCandidates
    apply List.nodup_range.map
    intro first second same
    exact temporaryName_injective (List.singleton_inj.mp (List.append_cancel_left same))
  have nonempty : ∀ location ∈ candidates, location ≠ [] := by
    intro location location_mem
    rcases temporary location location_mem with ⟨number, rfl⟩
    simp
  have more : tree.entries.length < candidates.length := by
    simp [← hasCandidates]
  rcases exists_free distinct nonempty more with ⟨free, free_mem, isFree⟩
  cases found : candidates.find? fun location => (tree.entry? location).isNone with
  | none =>
      have taken := List.find?_eq_none.mp found free free_mem
      simp [isFree] at taken
  | some location =>
      have locationFree := List.find?_some found
      show tree.entry? location = none ∧ ∃ number, location = directory ++ [temporaryName number]
      exact ⟨Option.isNone_iff_eq_none.mp locationFree,
        temporary location (List.mem_of_find?_eq_some found)⟩

/-- A temporary file is made at a fresh location in a directory that is there. -/
theorem createTemporary_eq_ok_iff {directory : Path} {contents : String} :
    tree.createTemporary directory contents = .ok (location, after) ↔
      ∃ around, tree.locate directory = .ok around ∧ tree.entry? around = some .directory ∧
        tree.freshLocation around = location ∧ tree.put location (.file contents) = after := by
  simp only [createTemporary, Except.bind_eq_ok_iff]
  refine exists_congr fun around => and_congr_right fun _ => ?_
  rcases tree.entry? around with _ | _ | _
  · simp
  · simp only [Except.ok.injEq, Prod.mk.injEq, true_and]
    constructor
    · rintro ⟨rfl, rfl⟩
      exact ⟨rfl, rfl⟩
    · rintro ⟨rfl, rfl⟩
      exact ⟨rfl, rfl⟩
  · simp

theorem put_of_createTemporary {directory : Path} {contents : String}
    (made : tree.createTemporary directory contents = .ok (location, after)) :
    IsTemporary location ∧ tree.entry? location = none ∧
      tree.put location (.file contents) = after := by
  rcases createTemporary_eq_ok_iff.mp made with ⟨around, -, -, rfl, isPut⟩
  rcases tree.exists_freshLocation_eq around with ⟨isFree, number, isTemporary⟩
  exact ⟨⟨around, number, isTemporary⟩, isFree, isPut⟩

/-- The tree once the directory of a file is made, or was found impossible to make. -/
def withDirectoryOf (tree : FileTree) (target : Path) : FileTree :=
  (tree.runOn (FileAccess.createDirectories (FileAccess.directoryOf target))).2

/-- A file is staged in its directory; if it cannot be, no more than directories were made. -/
theorem stage_cases {target : Path} {contents : String} {outcome : Except GenerationError Location}
    (run : before.runOn (FileAccess.stage target contents) = (outcome, after)) :
    (∃ path fault, outcome = .error (.file path fault) ∧
      (after = before ∨ after = before.withDirectoryOf target)) ∨
    ∃ temporary, outcome = .ok temporary ∧
      (before.withDirectoryOf target).createTemporary (FileAccess.directoryOf target) contents =
        .ok (temporary, after) := by
  rw [FileAccess.stage, runOn_bind, runOn_isDirectory] at run
  by_cases isDirectory : before.isDirectory target = true
  · simp only [isDirectory, if_true, runOn_pure, Prod.mk.injEq] at run
    rcases run with ⟨rfl, rfl⟩
    exact Or.inl ⟨_, _, rfl, Or.inl rfl⟩
  · simp only [isDirectory, Bool.false_eq_true, if_false, runOn_bind] at run
    rcases ran : before.runOn (FileAccess.createDirectories (FileAccess.directoryOf target)) with
      ⟨_ | _, grown⟩
    · simp only [ran, runOn_pure, Prod.mk.injEq] at run
      rcases run with ⟨rfl, rfl⟩
      exact Or.inl ⟨_, _, rfl, Or.inr (by rw [withDirectoryOf, ran])⟩
    · simp only [ran, runOn_bind, runOn_createTemporary] at run
      rw [withDirectoryOf, ran]
      cases made : grown.createTemporary (FileAccess.directoryOf target) contents with
      | error fault =>
          simp only [made, runOn_pure, Prod.mk.injEq] at run
          rcases run with ⟨rfl, rfl⟩
          exact Or.inl ⟨_, _, rfl, Or.inr rfl⟩
      | ok created =>
          simp only [made, runOn_pure, Prod.mk.injEq] at run
          rcases run with ⟨rfl, rfl⟩
          exact Or.inr ⟨created.1, rfl, rfl⟩

theorem growsTo_withDirectoryOf (tree : FileTree) (target : Path) :
    tree.GrowsTo (tree.withDirectoryOf target) :=
  tree.growsTo_createDirectories (FileAccess.directoryOf target)

/-- A staged file lies at a fresh location of a tree that has new directories at most. -/
theorem exists_growsTo_of_stage {target : Path} {contents : String} {temporary : Location}
    (run : before.runOn (FileAccess.stage target contents) = (.ok temporary, after)) :
    ∃ grown, before.GrowsTo grown ∧ IsTemporary temporary ∧ grown.entry? temporary = none ∧
      grown.put temporary (.file contents) = after := by
  rcases stage_cases run with ⟨_, _, fails, -⟩ | ⟨location, same, made⟩
  · cases fails
  · cases same
    exact ⟨_, before.growsTo_withDirectoryOf target, put_of_createTemporary made⟩

theorem IsTemporary.nonempty (temporary : IsTemporary location) : location ≠ [] := by
  rcases temporary with ⟨directory, number, rfl⟩
  simp

theorem GrowsTo.free (grows : before.GrowsTo after) (isFree : after.entry? location = none) :
    before.entry? location = none := by
  rcases grows.entry location with same | ⟨wasFree, -⟩
  · rw [← same, isFree]
  · exact wasFree

/-- A run that stages files goes on after a file is staged; if it fails then, the file is removed. -/
theorem runOn_stageAll_cons (tree : FileTree) (target : Path) (contents : String)
    (files : List (Path × String)) :
    tree.runOn (FileAccess.stageAll ((target, contents) :: files)) =
      match tree.runOn (FileAccess.stage target contents) with
      | (.error error, middle) => (.error error, middle)
      | (.ok temporary, middle) =>
        match middle.runOn (FileAccess.stageAll files) with
        | (.error error, after) => (.error error, after.erase temporary)
        | (.ok rest, after) => (.ok (⟨temporary, target⟩ :: rest), after) := by
  rw [FileAccess.stageAll, runOn_bind]
  rcases tree.runOn (FileAccess.stage target contents) with ⟨_ | temporary, middle⟩
  · rfl
  · simp only [runOn_bind]
    rcases middle.runOn (FileAccess.stageAll files) with ⟨_ | rest, after⟩ <;> rfl

/-- A run over files stops at the first one, or later, or has staged them all. -/
theorem stageAll_cons_cases {target : Path} {contents : String}
    {outcome : Except GenerationError (List (StagedFile Location))}
    (run : before.runOn (FileAccess.stageAll ((target, contents) :: files)) = (outcome, after)) :
    (∃ error, outcome = .error error ∧
      before.runOn (FileAccess.stage target contents) = (.error error, after)) ∨
    ∃ temporary middle, before.runOn (FileAccess.stage target contents) =
        (.ok temporary, middle) ∧
      ((∃ error left, outcome = .error error ∧
        middle.runOn (FileAccess.stageAll files) = (.error error, left) ∧
        left.erase temporary = after) ∨
      ∃ rest, outcome = .ok (⟨temporary, target⟩ :: rest) ∧
        middle.runOn (FileAccess.stageAll files) = (.ok rest, after)) := by
  rw [runOn_stageAll_cons] at run
  rcases first : before.runOn (FileAccess.stage target contents) with ⟨error | temporary, middle⟩
  · simp only [first, Prod.mk.injEq] at run
    rcases run with ⟨rfl, rfl⟩
    exact Or.inl ⟨error, rfl, rfl⟩
  · rcases others : middle.runOn (FileAccess.stageAll files) with ⟨error | rest, left⟩
    · simp only [first, others, Prod.mk.injEq] at run
      rcases run with ⟨rfl, rfl⟩
      exact Or.inr ⟨temporary, middle, rfl, Or.inl ⟨error, left, rfl, others, rfl⟩⟩
    · simp only [first, others, Prod.mk.injEq] at run
      rcases run with ⟨rfl, rfl⟩
      exact Or.inr ⟨temporary, middle, rfl, Or.inr ⟨rest, rfl, others⟩⟩

theorem stageAll_cons_of_runOn {target : Path} {contents : String}
    (run : before.runOn (FileAccess.stageAll ((target, contents) :: files)) =
      (.ok staged, after)) :
    ∃ temporary middle rest,
      before.runOn (FileAccess.stage target contents) = (.ok temporary, middle) ∧
      middle.runOn (FileAccess.stageAll files) = (.ok rest, after) ∧
      ⟨temporary, target⟩ :: rest = staged := by
  rcases stageAll_cons_cases run with
    ⟨_, fails, -⟩ | ⟨temporary, middle, first, ⟨_, _, fails, -⟩ | ⟨rest, isStaged, others⟩⟩
  · cases fails
  · cases fails
  · cases isStaged
    exact ⟨temporary, middle, rest, first, others, rfl⟩

/-- Files are staged: their texts lie where there was nothing, and else there are new directories
at most. -/
structure Stages (before after : FileTree) (files : List (Path × String))
    (staged : List (StagedFile Location)) : Prop where
  targets : staged.map (·.target) = files.map (·.1)
  distinct : (staged.map (·.temporary)).Nodup
  fresh : ∀ location ∈ staged.map (·.temporary),
    IsTemporary location ∧ before.entry? location = none
  contents : (staged.map fun file => after.entry? file.temporary) =
    files.map fun file => some (.file file.2)
  others : ∀ location ∉ staged.map (·.temporary), after.entry? location = before.entry? location ∨
    before.entry? location = none ∧ after.entry? location = some .directory
  workingDirectory : after.workingDirectory = before.workingDirectory

theorem Stages.cons {grown : FileTree} {target : Path} {contents : String} {temporary : Location}
    (grows : before.GrowsTo grown) (isTemporary : IsTemporary temporary)
    (isFree : grown.entry? temporary = none)
    (stages : (grown.put temporary (.file contents)).Stages after files staged) :
    before.Stages after ((target, contents) :: files) (⟨temporary, target⟩ :: staged) := by
  have entry_put : ∀ searched, entry? (grown.put temporary (.file contents)) searched =
      if searched = temporary then some (.file contents) else grown.entry? searched :=
    entry?_put isTemporary.nonempty
  have isNew : temporary ∉ staged.map (·.temporary) := by
    intro temporary_mem
    have free := (stages.fresh temporary temporary_mem).2
    rw [entry_put, if_pos rfl] at free
    cases free
  have kept : after.entry? temporary = some (.file contents) := by
    rcases stages.others temporary isNew with same | ⟨free, -⟩
    · rw [same, entry_put, if_pos rfl]
    · rw [entry_put, if_pos rfl] at free
      cases free
  constructor
  · simp [stages.targets]
  · exact List.nodup_cons.mpr ⟨isNew, stages.distinct⟩
  · intro location location_mem
    rcases List.mem_cons.mp location_mem with rfl | location_mem
    · exact ⟨isTemporary, grows.free isFree⟩
    · rcases stages.fresh location location_mem with ⟨named, free⟩
      have different : location ≠ temporary := fun same => isNew (same ▸ location_mem)
      rw [entry_put, if_neg different] at free
      exact ⟨named, grows.free free⟩
  · simp only [List.map_cons, stages.contents, kept]
  · intro location notStaged
    rw [List.map_cons, List.mem_cons, not_or] at notStaged
    rcases notStaged with ⟨different, notStaged⟩
    have same : entry? (grown.put temporary (.file contents)) location =
        grown.entry? location := by
      rw [entry_put, if_neg different]
    rcases stages.others location notStaged with unchanged | ⟨free, isDirectory⟩
    · rw [unchanged, same]
      exact grows.entry location
    · rw [same] at free
      exact Or.inr ⟨grows.free free, isDirectory⟩
  · rw [stages.workingDirectory]
    exact grows.workingDirectory

theorem Stages.keepsDirectories (stages : before.Stages after files staged) :
    before.KeepsDirectories after := by
  refine ⟨?_, stages.workingDirectory⟩
  intro location isDirectory
  have notStaged : location ∉ staged.map (·.temporary) := by
    intro location_mem
    rw [(stages.fresh location location_mem).2] at isDirectory
    cases isDirectory
  rcases stages.others location notStaged with same | ⟨isFree, -⟩
  · exact same.trans isDirectory
  · rw [isFree] at isDirectory
    cases isDirectory

/-- A successful run that stages files has staged them all. -/
theorem stages_of_stageAll (run : before.runOn (FileAccess.stageAll files) = (.ok staged, after)) :
    before.Stages after files staged := by
  induction files generalizing before staged with
  | nil =>
      cases run
      exact ⟨rfl, List.nodup_nil, by simp, rfl, fun _ _ => Or.inl rfl, rfl⟩
  | cons file files ih =>
      rcases file with ⟨target, contents⟩
      rcases stageAll_cons_of_runOn run with ⟨temporary, middle, rest, first, continued, rfl⟩
      rcases exists_growsTo_of_stage first with ⟨grown, grows, isTemporary, isFree, rfl⟩
      exact Stages.cons grows isTemporary isFree (ih continued)

section Failures

variable {error : GenerationError}

/-- A file that cannot be staged leaves new directories at most. -/
theorem growsTo_of_stage_error {target : Path} {contents : String}
    (run : before.runOn (FileAccess.stage target contents) = (.error error, after)) :
    (∃ path fault, error = .file path fault) ∧ before.GrowsTo after := by
  rcases stage_cases run with ⟨path, fault, same, left⟩ | ⟨_, staged, -⟩
  · cases same
    refine ⟨⟨path, fault, rfl⟩, ?_⟩
    rcases left with rfl | rfl
    · exact .refl _
    · exact before.growsTo_withDirectoryOf target
  · cases staged

/-- Once the temporary file of a staged file is removed, new directories are left at most. -/
theorem GrowsTo.erase {temporary : Location} {contents : String}
    (grows : (before.put temporary (.file contents)).GrowsTo after)
    (nonempty : temporary ≠ []) (isFree : before.entry? temporary = none) :
    before.GrowsTo (after.erase temporary) := by
  refine ⟨?_, grows.workingDirectory⟩
  intro location
  rw [entry?_erase nonempty]
  by_cases same : location = temporary
  · subst same
    simp [isFree]
  · rw [if_neg same]
    have entry := grows.entry location
    rwa [entry?_put nonempty, if_neg same] at entry

/-- If some file cannot be staged, new directories are left at most, however many were staged. -/
theorem growsTo_of_stageAll_error
    (run : before.runOn (FileAccess.stageAll files) = (.error error, after)) :
    (∃ path fault, error = .file path fault) ∧ before.GrowsTo after := by
  induction files generalizing before after with
  | nil => simp [FileAccess.stageAll] at run
  | cons file files ih =>
      rcases file with ⟨target, contents⟩
      rcases stageAll_cons_cases run with ⟨_, same, first⟩ |
        ⟨temporary, middle, first, ⟨_, left, same, others, rfl⟩ | ⟨_, isStaged, -⟩⟩
      · cases same
        exact growsTo_of_stage_error first
      · cases same
        rcases exists_growsTo_of_stage first with ⟨grown, grows, isTemporary, isFree, isStaged⟩
        rcases ih others with ⟨isFault, restGrows⟩
        rw [← isStaged] at restGrows
        exact ⟨isFault, grows.trans (restGrows.erase isTemporary.nonempty isFree)⟩
      · cases isStaged

/-- The first file that cannot be staged fails the run with its error. -/
theorem exists_stageAll_error {earlier : List (Path × String)} {file : Path × String}
    {failed : FileTree} (later : List (Path × String))
    (run : before.runOn (FileAccess.stageAll earlier) = (.ok staged, middle))
    (fails : middle.runOn (FileAccess.stage file.1 file.2) = (.error error, failed)) :
    ∃ after, before.runOn (FileAccess.stageAll (earlier ++ file :: later)) =
      (.error error, after) := by
  induction earlier generalizing before staged with
  | nil =>
      cases run
      rw [List.nil_append, runOn_stageAll_cons, fails]
      exact ⟨failed, rfl⟩
  | cons first earlier ih =>
      rcases first with ⟨target, contents⟩
      rcases stageAll_cons_of_runOn run with ⟨temporary, next, rest, isStaged, continued, -⟩
      rcases ih continued with ⟨after, stops⟩
      rw [List.cons_append, runOn_stageAll_cons, isStaged]
      simp only [stops]
      exact ⟨after.erase temporary, rfl⟩

end Failures

end FileTree

end MessageGen
