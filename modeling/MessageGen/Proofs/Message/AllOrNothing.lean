import MessageGen.Proofs.Message.Collisions

/-!
# Writing all or nothing

A run that fails while it generates leaves the file tree alone, and one that fails while
it stages files adds directories at most, however many files are staged by then. A run
that succeeds returns the paths of all files in their order and changes no other file.
Two files of a run may lead to one place, and then the later one is there in the end.
-/

namespace MessageGen

/-- A request with a field whose structure is nowhere defined. -/
def danglingRequest : Document :=
  { topicRequest with commonStructures := [] }

/-- A tree with a directory in the place of a file of `topicRequest`. -/
def blockedTree : FileTree where
  entries := [(["out"], .directory), (["out", "org"], .directory),
    (["out", "org", "fetch"], .directory),
    (["out", "org", "fetch", "FetchRequest.java"], .directory)]
  workingDirectory := []

namespace ResolvedMessage

variable {document : Document} {settings : Settings} {message : ResolvedMessage}
  {output : GenerationOutput} {error : GenerationError} {before : FileTree}

theorem runOn_write_of_error (failed : message.generate = .error error) (root : Path)
    (tree : FileTree) : tree.runOn (message.write root).run = (.error error, tree) := by
  simp [write, liftExcept, failed]

/-- If the files of a run cannot all be staged, the run fails and adds directories at most. -/
theorem growsTo_of_staging_error (generated : message.generate = .ok output) {root : Path}
    {middle : FileTree} (run : before.runOn (FileAccess.stageAll (output.filesBelow root)) =
      (.error error, middle)) :
    (∃ path fault, error = .file path fault) ∧ before.GrowsTo middle ∧
      before.runOn (message.write root).run = (.error error, middle) := by
  rcases FileTree.growsTo_of_stageAll_error run with ⟨isFault, grows⟩
  refine ⟨isFault, grows, ?_⟩
  rw [GenerationOutput.filesBelow] at run
  rw [runOn_write generated, FileAccess.writeFiles, FileTree.runOn_bind, run]
  rfl

end ResolvedMessage

end MessageGen
