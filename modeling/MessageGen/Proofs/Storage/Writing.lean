import MessageGen.Proofs.Storage.Staging

/-!
# Files put in place

Putting staged files in place removes the temporary files and gives the targets their
texts, one after another. What a successful run leaves at a location is the text that
was written there last, and what the tree had there before if no file was written to
it. A file stays as it is when later runs write to other locations.
-/

namespace MessageGen.FileTree

variable {tree before middle after : FileTree} {location : Location} {path : Path}
  {files : List (Path × String)} {staged : List (StagedFile Location)} {written : List Path}

/-- The text that files have in the end at a location, if they are written in order. -/
def lastText? (tree : FileTree) : List (Path × String) → Location → Option String
  | [], _ => none
  | (target, contents) :: files, location =>
    (tree.lastText? files location).or
      (if tree.destination target = location then some contents else none)

theorem moveFile_eq_ok_iff {source : Location} {target : Path} :
    tree.moveFile source target = .ok after ↔
      ∃ location moved, tree.locate target = .ok location ∧ tree.entry? source = some moved ∧
        tree.entry? location ≠ some .directory ∧
        (tree.erase source).put location moved = after := by
  simp only [moveFile, Except.bind_eq_ok_iff]
  refine exists_congr fun location => ?_
  rcases tree.entry? source with _ | moved
  · simp
  · rcases tree.entry? location with _ | _ | contents <;> simp

section Moves

variable {source : Location} {target : Path} {contents : String}

theorem locate_of_moveFile (moved : before.moveFile source target = .ok after) :
    before.locate target = .ok (before.destination target) := by
  rcases moveFile_eq_ok_iff.mp moved with ⟨location, entry, located, -, -, -⟩
  rw [← destination_of_locate located, located]

theorem entry?_of_moveFile (moved : before.moveFile source target = .ok after)
    (isFile : before.entry? source = some (.file contents)) (searched : Location) :
    after.entry? searched =
      if searched = before.destination target then some (.file contents)
      else if searched = source then none else before.entry? searched := by
  rcases moveFile_eq_ok_iff.mp moved with ⟨location, entry, located, hasEntry, notDirectory, rfl⟩
  rw [isFile] at hasEntry
  cases hasEntry
  have sourceNonempty : source ≠ [] := by
    rintro rfl
    cases isFile
  rw [← destination_of_locate located, entry?_put (nonempty_of_entry?_ne notDirectory),
    entry?_erase sourceNonempty]

theorem keepsDirectories_of_moveFile (moved : before.moveFile source target = .ok after)
    (isFile : before.entry? source = some (.file contents)) : before.KeepsDirectories after := by
  refine ⟨?_, ?_⟩
  · intro searched isDirectory
    rw [entry?_of_moveFile moved isFile]
    rcases moveFile_eq_ok_iff.mp moved with ⟨location, entry, located, -, notDirectory, -⟩
    have notTarget : searched ≠ before.destination target := by
      rw [← destination_of_locate located]
      exact fun same => notDirectory (same ▸ isDirectory)
    have notSource : searched ≠ source := by
      rintro rfl
      rw [isFile] at isDirectory
      cases isDirectory
    rw [if_neg notTarget, if_neg notSource, isDirectory]
  · rcases moveFile_eq_ok_iff.mp moved with ⟨location, entry, -, -, -, rfl⟩
    rfl

end Moves

theorem moveAll_cons_of_runOn {file : StagedFile Location}
    (run : before.runOn (FileAccess.moveAll (file :: staged)) = (.ok written, after)) :
    ∃ middle rest, before.moveFile file.temporary file.target = .ok middle ∧
      middle.runOn (FileAccess.moveAll staged) = (.ok rest, after) ∧
      file.target :: rest = written := by
  rw [FileAccess.moveAll, runOn_bind, runOn_moveTemporary] at run
  cases moved : before.moveFile file.temporary file.target with
  | error fault => simp [moved] at run
  | ok middle =>
      simp only [moved, runOn_bind] at run
      rcases others : middle.runOn (FileAccess.moveAll staged) with ⟨_ | rest, final⟩
      · simp [others] at run
      · simp only [others, runOn_pure, Prod.mk.injEq, Except.ok.injEq] at run
        rcases run with ⟨rfl, rfl⟩
        exact ⟨middle, rest, rfl, others, rfl⟩

/-- Files from temporary locations are put in place: their targets have the texts written last. -/
structure Settles (before after : FileTree) (files : List (Path × String))
    (temporaries : List Location) : Prop where
  keeps : before.KeepsDirectories after
  located : ∀ file ∈ files, after.locate file.1 = .ok (before.destination file.1)
  entry : ∀ location, after.entry? location =
    match before.lastText? files location with
    | some contents => some (.file contents)
    | none => if location ∈ temporaries then none else before.entry? location

theorem lastText?_of_keepsDirectories (keeps : before.KeepsDirectories after)
    (files : List (Path × String)) (location : Location) :
    after.lastText? files location = before.lastText? files location := by
  induction files with
  | nil => rfl
  | cons file files ih => simp only [lastText?, ih, keeps.destination]

theorem Settles.cons {source : Location} {target : Path} {contents : String}
    {temporaries : List Location} (moved : before.moveFile source target = .ok middle)
    (isStaged : before.entry? source = some (.file contents))
    (apart : before.destination target ∉ temporaries)
    (settles : middle.Settles after files temporaries) :
    before.Settles after ((target, contents) :: files) (source :: temporaries) := by
  have keeps := keepsDirectories_of_moveFile moved isStaged
  constructor
  · exact keeps.trans settles.keeps
  · intro file file_mem
    rcases List.mem_cons.mp file_mem with rfl | file_mem
    · exact (keeps.trans settles.keeps).locate (locate_of_moveFile moved)
    · rw [settles.located file file_mem, keeps.destination]
  · intro searched
    rw [settles.entry, lastText?_of_keepsDirectories keeps, lastText?,
      entry?_of_moveFile moved isStaged]
    cases before.lastText? files searched with
    | some later => rfl
    | none =>
        by_cases isTarget : searched = before.destination target
        · subst isTarget
          simp [apart]
        · have notTarget : ¬before.destination target = searched := Ne.symm isTarget
          by_cases isSource : searched = source
          · subst isSource
            simp [isTarget, notTarget]
          · simp [isTarget, notTarget, isSource]

/-- A successful run puts the staged files in place and returns their paths. -/
theorem settles_of_moveAll
    (run : before.runOn (FileAccess.moveAll staged) = (.ok written, after))
    (targets : staged.map (·.target) = files.map (·.1))
    (contents : (staged.map fun file => before.entry? file.temporary) =
      files.map fun file => some (.file file.2))
    (distinct : (staged.map (·.temporary)).Nodup)
    (apart : ∀ file ∈ files, before.destination file.1 ∉ staged.map (·.temporary)) :
    written = files.map (·.1) ∧ before.Settles after files (staged.map (·.temporary)) := by
  induction staged generalizing before files written with
  | nil =>
      cases List.map_eq_nil_iff.mp targets.symm
      cases run
      exact ⟨rfl, ⟨.refl _, by simp, fun _ => by simp [lastText?]⟩⟩
  | cons first staged ih =>
      rcases files with _ | ⟨⟨target, text⟩, files⟩
      · cases targets
      · rcases moveAll_cons_of_runOn run with ⟨middle, rest, moved, continued, rfl⟩
        simp only [List.map_cons, List.cons.injEq] at targets contents
        rcases targets with ⟨rfl, targets⟩
        rcases contents with ⟨isStaged, contents⟩
        rw [List.map_cons, List.nodup_cons] at distinct
        rcases distinct with ⟨isNew, distinct⟩
        have keeps := keepsDirectories_of_moveFile moved isStaged
        have targetApart := apart _ List.mem_cons_self
        rw [List.map_cons, List.mem_cons, not_or] at targetApart
        have stillStaged : (staged.map fun file => middle.entry? file.temporary) =
            files.map fun file => some (.file file.2) := by
          rw [← contents]
          apply List.map_congr_left
          intro file file_mem
          have file_mem := List.mem_map_of_mem (f := (·.temporary)) file_mem
          have notTarget : file.temporary ≠ before.destination first.target :=
            fun same => targetApart.2 (same ▸ file_mem)
          have notSource : file.temporary ≠ first.temporary := fun same => isNew (same ▸ file_mem)
          rw [entry?_of_moveFile moved isStaged, if_neg notTarget, if_neg notSource]
        rcases ih continued targets stillStaged distinct (by
            intro file file_mem
            have fileApart := apart file (List.mem_cons_of_mem _ file_mem)
            rw [List.map_cons, List.mem_cons, not_or] at fileApart
            rw [keeps.destination]
            exact fileApart.2) with ⟨rfl, settles⟩
        exact ⟨rfl, settles.cons moved isStaged targetApart.2⟩

/-- Files are written: their paths lead to the texts written last, and else there are new
directories at most. -/
structure Writes (before after : FileTree) (files : List (Path × String)) : Prop where
  keeps : before.KeepsDirectories after
  located : ∀ file ∈ files, after.locate file.1 = .ok (before.destination file.1)
  written : ∀ location contents, before.lastText? files location = some contents →
    after.entry? location = some (.file contents)
  others : ∀ location, before.lastText? files location = none →
    after.entry? location = before.entry? location ∨
      before.entry? location = none ∧ after.entry? location = some .directory

/-- A successful run writes all files and returns their paths. -/
theorem writes_of_writeFiles {root : Path} {generated : List GeneratedFile}
    (run : before.runOn (FileAccess.writeFiles root generated) = (.ok written, after))
    (named : ∀ file ∈ generated, ¬IsTemporary (before.destination (root.join file.path))) :
    written = generated.map (fun file => root.join file.path) ∧
      before.Writes after (generated.map fun file => (root.join file.path, file.contents)) := by
  rw [FileAccess.writeFiles, runOn_bind] at run
  generalize hasFiles : (generated.map fun file => (root.join file.path, file.contents)) = files
    at run
  have paths : generated.map (fun file => root.join file.path) = files.map (·.1) := by
    rw [← hasFiles, List.map_map]
    rfl
  have fileNamed : ∀ file ∈ files, ¬IsTemporary (before.destination file.1) := by
    subst hasFiles
    intro file file_mem
    rcases List.mem_map.mp file_mem with ⟨source, source_mem, rfl⟩
    exact named source source_mem
  rcases staging : before.runOn (FileAccess.stageAll files) with ⟨_ | staged, middle⟩
  · simp [staging] at run
  · simp only [staging] at run
    have stages := stages_of_stageAll staging
    have directories := stages.keepsDirectories
    rcases settles_of_moveAll run stages.targets stages.contents stages.distinct (by
        intro file file_mem isStaged
        rw [directories.destination] at isStaged
        exact fileNamed file file_mem (stages.fresh _ isStaged).1) with ⟨rfl, settles⟩
    have sameText := lastText?_of_keepsDirectories directories files
    refine ⟨paths.symm, directories.trans settles.keeps, ?_, ?_, ?_⟩
    · intro file file_mem
      rw [settles.located file file_mem, directories.destination]
    · intro location contents isLast
      rw [settles.entry, sameText, isLast]
    · intro location isNone
      rw [settles.entry, sameText, isNone]
      by_cases isStaged : location ∈ staged.map (·.temporary)
      · exact Or.inl (by simp [isStaged, (stages.fresh location isStaged).2])
      · simpa [isStaged] using stages.others location isStaged

theorem lastText?_eq_none_iff : tree.lastText? files location = none ↔
    ∀ file ∈ files, tree.destination file.1 ≠ location := by
  induction files with
  | nil => simp [lastText?]
  | cons file files ih => simp [lastText?, ih, and_comm]

/-- The last text is that of the last file that leads to a location. -/
theorem exists_last_of_lastText? {contents : String}
    (isLast : tree.lastText? files location = some contents) :
    ∃ earlier target later, files = earlier ++ (target, contents) :: later ∧
      tree.destination target = location ∧
      ∀ file ∈ later, tree.destination file.1 ≠ location := by
  induction files with
  | nil => cases isLast
  | cons file files ih =>
      rw [lastText?] at isLast
      cases found : tree.lastText? files location with
      | some text =>
          rw [found, Option.some_or] at isLast
          cases isLast
          rcases ih found with ⟨earlier, target, later, rfl, leads, apart⟩
          exact ⟨file :: earlier, target, later, rfl, leads, apart⟩
      | none =>
          rw [found, Option.none_or, Option.ite_none_right_eq_some] at isLast
          rcases isLast with ⟨leads, sameText⟩
          cases sameText
          exact ⟨[], file.1, files, rfl, leads, lastText?_eq_none_iff.mp found⟩

theorem lastText?_of_nodup (distinct : (files.map fun file => tree.destination file.1).Nodup)
    {file : Path × String} (file_mem : file ∈ files) :
    tree.lastText? files (tree.destination file.1) = some file.2 := by
  induction files with
  | nil => cases file_mem
  | cons first files ih =>
      rw [List.map_cons, List.nodup_cons] at distinct
      rcases distinct with ⟨isNew, distinct⟩
      rcases List.mem_cons.mp file_mem with rfl | file_mem
      · have isLast : tree.lastText? files (tree.destination file.1) = none := by
          rw [lastText?_eq_none_iff]
          intro other other_mem same
          exact isNew (List.mem_map.mpr ⟨other, other_mem, same⟩)
        simp [lastText?, isLast]
      · simp [lastText?, ih distinct file_mem]

theorem readText_eq_ok_iff {contents : String} : tree.readText path = .ok contents ↔
    ∃ location, tree.locate path = .ok location ∧
      tree.entry? location = some (.file contents) := by
  simp only [readText, Except.bind_eq_ok_iff]
  refine exists_congr fun location => and_congr_right fun _ => ?_
  rcases tree.entry? location with _ | _ | text <;> simp

theorem Writes.readText (writes : before.Writes after files) {file : Path × String}
    (file_mem : file ∈ files)
    (isLast : before.lastText? files (before.destination file.1) = some file.2) :
    after.readText file.1 = .ok file.2 :=
  readText_eq_ok_iff.mpr
    ⟨_, writes.located file file_mem, writes.written _ _ isLast⟩

/-- A file that is written can be read, and what is read was written last to its place. -/
theorem Writes.exists_last (writes : before.Writes after files) {file : Path × String}
    (file_mem : file ∈ files) :
    ∃ earlier last later, files = earlier ++ last :: later ∧
      before.destination last.1 = before.destination file.1 ∧
      (∀ other ∈ later, before.destination other.1 ≠ before.destination file.1) ∧
      after.readText file.1 = .ok last.2 := by
  cases found : before.lastText? files (before.destination file.1) with
  | none => exact absurd rfl (lastText?_eq_none_iff.mp found file file_mem)
  | some contents =>
      rcases exists_last_of_lastText? found with ⟨earlier, target, later, split, leads, apart⟩
      refine ⟨earlier, (target, contents), later, split, leads, apart, ?_⟩
      exact readText_eq_ok_iff.mpr
        ⟨_, writes.located file file_mem, writes.written _ _ found⟩

/-- Files to which nothing is written are as they were, and no other file is new. -/
theorem Writes.entry?_eq_file_iff (writes : before.Writes after files)
    (apart : ∀ file ∈ files, before.destination file.1 ≠ location) (contents : String) :
    after.entry? location = some (.file contents) ↔
      before.entry? location = some (.file contents) := by
  rcases writes.others location (lastText?_eq_none_iff.mpr apart) with same | ⟨isFree, isNew⟩
  · rw [same]
  · simp [isFree, isNew]

/-- A file can still be read after others are written elsewhere. -/
theorem Writes.readText_of_apart (writes : before.Writes after files) {contents : String}
    (isRead : before.readText path = .ok contents)
    (apart : ∀ file ∈ files, before.destination file.1 ≠ before.destination path) :
    after.readText path = .ok contents := by
  rcases readText_eq_ok_iff.mp isRead with ⟨location, located, isFile⟩
  refine readText_eq_ok_iff.mpr ⟨location, writes.keeps.locate located, ?_⟩
  have notWritten : before.lastText? files location = none := by
    rw [destination_of_locate located]
    exact lastText?_eq_none_iff.mpr apart
  rcases writes.others location notWritten with same | ⟨isFree, -⟩
  · exact same.trans isFile
  · rw [isFree] at isFile
    cases isFile

end MessageGen.FileTree
