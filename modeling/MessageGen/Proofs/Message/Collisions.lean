import MessageGen.Proofs.Message.References
import MessageGen.Proofs.Message.Writing

/-!
# Collisions of generated files

The structures of a run have different names, but the message is not one of them: a
structure may have the name of the message, and then both classes go to one file.
Requests and responses of a family share a directory, so structures of one name collide
across runs as well. With plain names these are the only collisions, and files that do
not collide keep their texts when all of them are written below one directory.
-/

namespace MessageGen

/-- Settings with a base package of one segment. -/
def compactSettings : Settings where
  basePackage := "org"
  runtimePackage := none
  fileExtension := "java"
  outputDirectory := ⟨"out"⟩

/-- A message with a field whose structure has the name of the message. -/
def echoDocument : Document where
  name := "EchoRequest"
  type := "request"
  apiKey := 9
  validVersions := "0-1"
  flexibleVersions := none
  commonStructures := []
  fields := [.declaring "Inner" "EchoRequest" (some [.declaring "Text" "string" none])]

/-- A message of the fetch family with a structure that has one field. -/
def fetchDocument (name type structureName fieldName : String) : Document where
  name
  type
  apiKey := 1
  validVersions := "0-3"
  flexibleVersions := none
  commonStructures := [⟨structureName, allVersions, [.declaring fieldName "string" none]⟩]
  fields := [.declaring "Items" ("[]" ++ structureName) none]

def topicRequest : Document :=
  fetchDocument "FetchRequest" "request" "Topic" "Name"

def topicResponse : Document :=
  fetchDocument "FetchResponse" "response" "Topic" "Identifier"

def partitionResponse : Document :=
  fetchDocument "FetchResponse" "response" "Partition" "Name"

namespace ResolvedMessage

variable {document firstDocument secondDocument : Document} {settings : Settings}
  {message first second : ResolvedMessage} {output firstOutput secondOutput : GenerationOutput}

/-- With plain names, paths with different names or directories lead to different files. -/
theorem route_filePath_eq_iff (resolvedFirst : resolve firstDocument settings = .ok first)
    (resolvedSecond : resolve secondDocument settings = .ok second)
    (plainFirst : firstDocument.HasPlainNames) (plainSecond : secondDocument.HasPlainNames)
    {firstName secondName : String} (firstName_mem : firstName ∈ firstDocument.classNames)
    (secondName_mem : secondName ∈ secondDocument.classNames) :
    (first.context.filePath firstName).route = (second.context.filePath secondName).route ↔
      first.directoryNames = second.directoryNames ∧ firstName = secondName := by
  rw [route_filePath resolvedFirst (plainFirst _ List.mem_cons_self).2
      (Document.plain_of_mem_classNames plainFirst firstName_mem).2,
    route_filePath resolvedSecond (plainSecond _ List.mem_cons_self).2
      (Document.plain_of_mem_classNames plainSecond secondName_mem).2,
    ← directoryNames_append_fileName_eq_iff resolvedFirst resolvedSecond]
  have entry_injective : Function.Injective Path.Part.entry := fun _ _ same =>
    Path.Part.entry.inj same
  rw [Prod.mk.injEq, entry_injective.list_map.eq_iff, and_iff_right rfl]

theorem nodup_route_iff (generated : message.generate = .ok output) :
    (output.files.map (·.path.route)).Nodup ↔
      message.document.classNames.Nodup ∧
        ∀ firstName ∈ message.document.classNames, ∀ secondName ∈ message.document.classNames,
          (message.context.filePath firstName).route =
            (message.context.filePath secondName).route → firstName = secondName := by
  have routes : output.files.map (·.path.route) =
      message.document.classNames.map fun name => (message.context.filePath name).route := by
    have paths := congrArg (List.map Path.route) (map_path_files_of_generate generated)
    rw [List.map_map, List.map_map] at paths
    exact paths
  rw [routes]
  constructor
  · intro distinct
    exact ⟨distinct.of_map, (List.nodup_map_iff_inj_on distinct.of_map).mp distinct⟩
  · rintro ⟨distinct, injective⟩
    exact (List.nodup_map_iff_inj_on distinct).mpr injective

/--
The files of a run do not collide exactly if no structure has the name of the message and
no two class names lead to one file. With plain names the first condition is enough, and
then a run that writes the files leaves each of them with its own text.
-/
theorem files_distinct_iff (resolved : resolve document settings = .ok message)
    (generated : message.generate = .ok output) :
    ((output.files.map (·.className)).Nodup ↔
      document.name ∉ document.keptStructures.map (·.name)) ∧
    ((output.files.map (·.path.route)).Nodup ↔
      document.name ∉ document.keptStructures.map (·.name) ∧
      ∀ firstName ∈ document.classNames, ∀ secondName ∈ document.classNames,
        (message.context.filePath firstName).route = (message.context.filePath secondName).route →
          firstName = secondName) ∧
    (document.HasPlainNames →
      ((output.files.map (·.path.route)).Nodup ↔
        document.name ∉ document.keptStructures.map (·.name)) ∧
      (document.name ∉ document.keptStructures.map (·.name) →
        ∀ root before written after,
          FileTree.runOn before (message.write root).run = (.ok written, after) →
          written = output.files.map (fun file => root.join file.path) ∧
          ∀ file ∈ output.files, after.readText (root.join file.path) = .ok file.contents)) := by
  have sameDocument := document_of_resolve resolved
  have routes := nodup_route_iff generated
  rw [sameDocument, Document.nodup_classNames_iff] at routes
  refine ⟨?_, routes, ?_⟩
  · rw [map_className_files_of_generate generated, sameDocument, Document.nodup_classNames_iff]
  · intro plain
    refine ⟨?_, ?_⟩
    · rw [routes, and_iff_left_iff_imp]
      intro _ firstName firstName_mem secondName secondName_mem same
      exact ((route_filePath_eq_iff resolved resolved plain plain firstName_mem
        secondName_mem).mp same).2
    · intro notKept root before written after run
      refine ⟨(writes_of_write resolved generated run).1, ?_⟩
      intro file file_mem
      exact readText_of_write resolved generated plain
        (Document.nodup_classNames_iff.mpr notKept) run file_mem

theorem files_distinct_forest : forestDocument.HasPlainNames ∧
    ∃ message output written after, resolve forestDocument compactSettings = .ok message ∧
      message.generate = .ok output ∧ (output.files.map (·.path.route)).Nodup ∧
      FileTree.runOn ⟨[], []⟩ (message.write ⟨"out"⟩).run = (.ok written, after) ∧
      ∀ file ∈ output.files, after.readText (Path.join ⟨"out"⟩ file.path) = .ok file.contents := by
  have plain : forestDocument.HasPlainNames := by decide
  have notKept : forestDocument.name ∉ forestDocument.keptStructures.map (·.name) := by decide
  have succeeds : (resolve forestDocument compactSettings >>= fun message =>
      (FileTree.runOn ⟨[], []⟩ (message.write ⟨"out"⟩).run).1).isOk = true := by
    decide +kernel
  rcases Except.exists_ok_of_isOk succeeds with ⟨written, isWritten⟩
  rcases Except.bind_eq_ok_iff.mp isWritten with ⟨message, resolved, wrote⟩
  have run : FileTree.runOn ⟨[], []⟩ (message.write ⟨"out"⟩).run = (.ok written, _) :=
    Prod.ext wrote rfl
  rcases exists_output_of_write run with ⟨output, generated⟩
  rcases (files_distinct_iff resolved generated).2.2 plain with ⟨distinct_iff, onDisk⟩
  exact ⟨plain, message, output, written, _, resolved, generated, distinct_iff.mpr notKept, run,
    (onDisk notKept _ _ _ _ run).2⟩

/-- A structure with the name of the message goes to the file of the message. -/
theorem files_not_distinct_echo : ¬∀ document settings message output,
    resolve document settings = .ok message → message.generate = .ok output →
      (output.files.map (·.path)).Nodup := by
  intro distinct
  have succeeds : (resolve echoDocument .standard >>= generate).isOk = true := by
    decide +kernel
  rcases Except.exists_ok_of_isOk succeeds with ⟨output, run⟩
  rcases Except.bind_eq_ok_iff.mp run with ⟨message, resolved, generated⟩
  have distinctPaths := distinct echoDocument .standard message output resolved generated
  rw [map_path_files_of_generate generated, document_of_resolve resolved] at distinctPaths
  exact Document.nodup_classNames_iff.mp distinctPaths.of_map (by decide)

/-- Without points in the names of messages, directories are the same if the families are. -/
theorem directoryNames_eq_iff (resolvedFirst : resolve firstDocument settings = .ok first)
    (resolvedSecond : resolve secondDocument settings = .ok second)
    (pointFreeFirst : '.' ∉ firstDocument.name.toList)
    (pointFreeSecond : '.' ∉ secondDocument.name.toList) :
    first.directoryNames = second.directoryNames ↔
      packageSegment first.name.family = packageSegment second.name.family := by
  rw [directoryNames_of_point_free resolvedFirst pointFreeFirst,
    directoryNames_of_point_free resolvedSecond pointFreeSecond, List.append_cancel_left_eq,
    List.singleton_inj]

/-- No files of two runs share a path exactly if no classes of theirs do. -/
theorem forall_files_route_ne_iff (resolvedFirst : resolve firstDocument settings = .ok first)
    (generatedFirst : first.generate = .ok firstOutput)
    (resolvedSecond : resolve secondDocument settings = .ok second)
    (generatedSecond : second.generate = .ok secondOutput) :
    (∀ file ∈ firstOutput.files, ∀ other ∈ secondOutput.files,
        file.path.route ≠ other.path.route) ↔
      ∀ firstName ∈ firstDocument.classNames, ∀ secondName ∈ secondDocument.classNames,
        (first.context.filePath firstName).route ≠
          (second.context.filePath secondName).route := by
  rw [forall_path_files_iff resolvedFirst generatedFirst fun path =>
    ∀ other ∈ secondOutput.files, path.route ≠ other.path.route]
  refine forall₂_congr fun firstName _ => ?_
  exact forall_path_files_iff resolvedSecond generatedSecond fun path =>
    (first.context.filePath firstName).route ≠ path.route

/-- With plain names, classes share a path exactly if they share a directory and a name. -/
theorem forall_classes_route_ne_iff (resolvedFirst : resolve firstDocument settings = .ok first)
    (resolvedSecond : resolve secondDocument settings = .ok second)
    (plainFirst : firstDocument.HasPlainNames) (plainSecond : secondDocument.HasPlainNames) :
    (∀ firstName ∈ firstDocument.classNames, ∀ secondName ∈ secondDocument.classNames,
        (first.context.filePath firstName).route ≠
          (second.context.filePath secondName).route) ↔
      first.directoryNames ≠ second.directoryNames ∨
        ∀ name ∈ firstDocument.classNames, name ∉ secondDocument.classNames := by
  constructor
  · intro apart
    by_cases sameDirectory : first.directoryNames = second.directoryNames
    · right
      intro className first_mem second_mem
      apply apart className first_mem className second_mem
      exact (route_filePath_eq_iff resolvedFirst resolvedSecond plainFirst plainSecond first_mem
        second_mem).mpr ⟨sameDirectory, rfl⟩
    · exact Or.inl sameDirectory
  · intro apart firstName first_mem secondName second_mem same
    rcases (route_filePath_eq_iff resolvedFirst resolvedSecond plainFirst plainSecond first_mem
      second_mem).mp same with ⟨sameDirectory, rfl⟩
    rcases apart with otherDirectory | otherNames
    · exact otherDirectory sameDirectory
    · exact otherNames _ first_mem second_mem

/--
The files of two runs with the same settings do not collide exactly if no class name of
the one leads to the file of a class name of the other. With plain names this is so if
the directories differ or no class name is shared, where directories are those of the
families. Runs that do not collide leave every file of both with its own text, in either
order.
-/
theorem files_disjoint_iff (resolvedFirst : resolve firstDocument settings = .ok first)
    (generatedFirst : first.generate = .ok firstOutput)
    (resolvedSecond : resolve secondDocument settings = .ok second)
    (generatedSecond : second.generate = .ok secondOutput) :
    ((∀ file ∈ firstOutput.files, ∀ other ∈ secondOutput.files,
        file.path.route ≠ other.path.route) ↔
      ∀ firstName ∈ firstDocument.classNames, ∀ secondName ∈ secondDocument.classNames,
        (first.context.filePath firstName).route ≠ (second.context.filePath secondName).route) ∧
    ('.' ∉ firstDocument.name.toList → '.' ∉ secondDocument.name.toList →
      (first.directoryNames = second.directoryNames ↔
        packageSegment first.name.family = packageSegment second.name.family)) ∧
    (firstDocument.HasPlainNames → secondDocument.HasPlainNames →
      ((∀ file ∈ firstOutput.files, ∀ other ∈ secondOutput.files,
          file.path.route ≠ other.path.route) ↔
        first.directoryNames ≠ second.directoryNames ∨
          ∀ name ∈ firstDocument.classNames, name ∉ secondDocument.classNames) ∧
      ((first.directoryNames ≠ second.directoryNames ∨
          ∀ name ∈ firstDocument.classNames, name ∉ secondDocument.classNames) →
        firstDocument.classNames.Nodup → secondDocument.classNames.Nodup →
        ∀ root before middle after firstWritten secondWritten,
          FileTree.runOn before (first.write root).run = (.ok firstWritten, middle) ∧
              FileTree.runOn middle (second.write root).run = (.ok secondWritten, after) ∨
            FileTree.runOn before (second.write root).run = (.ok secondWritten, middle) ∧
              FileTree.runOn middle (first.write root).run = (.ok firstWritten, after) →
          ∀ file ∈ firstOutput.files ++ secondOutput.files,
            after.readText (root.join file.path) = .ok file.contents)) := by
  have classes_iff := forall_files_route_ne_iff resolvedFirst generatedFirst resolvedSecond
    generatedSecond
  refine ⟨classes_iff, directoryNames_eq_iff resolvedFirst resolvedSecond, ?_⟩
  intro plainFirst plainSecond
  refine ⟨?_, ?_⟩
  · rw [classes_iff]
    exact forall_classes_route_ne_iff resolvedFirst resolvedSecond plainFirst plainSecond
  · intro apart distinctFirst distinctSecond root before middle after firstWritten secondWritten
      runs file file_mem
    rcases runs with ⟨firstRun, secondRun⟩ | ⟨secondRun, firstRun⟩
    · exact readText_of_both_writes resolvedFirst generatedFirst plainFirst distinctFirst
        resolvedSecond generatedSecond plainSecond distinctSecond apart firstRun secondRun file
        file_mem
    · have apartSwapped : second.directoryNames ≠ first.directoryNames ∨
          ∀ name ∈ secondDocument.classNames, name ∉ firstDocument.classNames :=
        apart.imp Ne.symm fun noSharedName name second_mem first_mem =>
          noSharedName name first_mem second_mem
      have swapped_mem : file ∈ secondOutput.files ++ firstOutput.files :=
        List.mem_append.mpr (List.mem_append.mp file_mem).symm
      exact readText_of_both_writes resolvedSecond generatedSecond plainSecond distinctSecond
        resolvedFirst generatedFirst plainFirst distinctFirst apartSwapped secondRun firstRun file
        swapped_mem

theorem files_disjoint_fetch : ∃ first second firstOutput secondOutput middle after
    firstWritten secondWritten,
    resolve topicRequest compactSettings = .ok first ∧
    first.generate = .ok firstOutput ∧
    resolve partitionResponse compactSettings = .ok second ∧
    second.generate = .ok secondOutput ∧
    first.directoryNames = second.directoryNames ∧
    (∀ file ∈ firstOutput.files, ∀ other ∈ secondOutput.files,
      file.path.route ≠ other.path.route) ∧
    FileTree.runOn ⟨[], []⟩ (first.write ⟨"out"⟩).run = (.ok firstWritten, middle) ∧
    FileTree.runOn middle (second.write ⟨"out"⟩).run = (.ok secondWritten, after) ∧
    ∀ file ∈ firstOutput.files ++ secondOutput.files,
      after.readText (Path.join ⟨"out"⟩ file.path) = .ok file.contents := by
  have succeeds : (resolve topicRequest compactSettings >>= fun first =>
      resolve partitionResponse compactSettings >>= fun second =>
      (FileTree.runOn ⟨[], []⟩ (first.write ⟨"out"⟩).run).1 >>= fun _ =>
      (FileTree.runOn (FileTree.runOn ⟨[], []⟩ (first.write ⟨"out"⟩).run).2
        (second.write ⟨"out"⟩).run).1).isOk = true := by
    decide +kernel
  rcases Except.exists_ok_of_isOk succeeds with ⟨secondWritten, bothWritten⟩
  rcases Except.bind_eq_ok_iff.mp bothWritten with ⟨first, resolvedFirst, restWritten⟩
  rcases Except.bind_eq_ok_iff.mp restWritten with ⟨second, resolvedSecond, restWritten⟩
  rcases Except.bind_eq_ok_iff.mp restWritten with ⟨firstWritten, firstWrote, secondWrote⟩
  have firstRun : FileTree.runOn ⟨[], []⟩ (first.write ⟨"out"⟩).run = (.ok firstWritten, _) :=
    Prod.ext firstWrote rfl
  have secondRun : FileTree.runOn _ (second.write ⟨"out"⟩).run = (.ok secondWritten, _) :=
    Prod.ext secondWrote rfl
  rcases exists_output_of_write firstRun with ⟨firstOutput, generatedFirst⟩
  rcases exists_output_of_write secondRun with ⟨secondOutput, generatedSecond⟩
  rcases files_disjoint_iff resolvedFirst generatedFirst resolvedSecond generatedSecond with
    ⟨-, directories_iff, plainNames⟩
  rcases plainNames (by decide) (by decide) with ⟨disjoint_iff, onDisk⟩
  have noSharedName : ∀ name ∈ topicRequest.classNames, name ∉ partitionResponse.classNames := by
    decide
  have sameDirectory : first.directoryNames = second.directoryNames := by
    apply (directories_iff (by decide) (by decide)).mpr
    have firstName : Except.ok first.name = .ok ⟨"Fetch", false⟩ :=
      (name_of_resolve resolvedFirst).symm.trans rfl
    have secondName : Except.ok second.name = .ok ⟨"Fetch", false⟩ :=
      (name_of_resolve resolvedSecond).symm.trans rfl
    rw [Except.ok.inj firstName, Except.ok.inj secondName]
  exact ⟨first, second, firstOutput, secondOutput, _, _, firstWritten, secondWritten,
    resolvedFirst, generatedFirst, resolvedSecond, generatedSecond, sameDirectory,
    disjoint_iff.mpr (Or.inr noSharedName), firstRun, secondRun,
    onDisk (Or.inr noSharedName) (by decide) (by decide) _ _ _ _ _ _
      (Or.inl ⟨firstRun, secondRun⟩)⟩

/-- A request and its response that each declare a structure of one name share its file. -/
theorem files_not_disjoint_fetch :
    ¬∀ firstDocument secondDocument settings first second firstOutput secondOutput,
      firstDocument.name ≠ secondDocument.name →
      resolve firstDocument settings = .ok first → first.generate = .ok firstOutput →
      resolve secondDocument settings = .ok second → second.generate = .ok secondOutput →
        ∀ file ∈ firstOutput.files, ∀ other ∈ secondOutput.files, file.path ≠ other.path := by
  intro disjoint
  have requestPaths : ((resolve topicRequest .standard >>= generate).toOption.map fun output =>
      output.files.map (·.path)) =
      some [⟨"org/wiregen/protocol/fetch/Topic.java"⟩,
        ⟨"org/wiregen/protocol/fetch/FetchRequest.java"⟩] := by
    decide +kernel
  have responsePaths : ((resolve topicResponse .standard >>= generate).toOption.map fun output =>
      output.files.map (·.path)) =
      some [⟨"org/wiregen/protocol/fetch/Topic.java"⟩,
        ⟨"org/wiregen/protocol/fetch/FetchResponse.java"⟩] := by
    decide +kernel
  rcases Except.exists_ok_of_map_toOption requestPaths with ⟨firstOutput, firstRun, firstPaths⟩
  rcases Except.exists_ok_of_map_toOption responsePaths with ⟨secondOutput, secondRun, secondPaths⟩
  rcases Except.bind_eq_ok_iff.mp firstRun with ⟨first, resolvedFirst, generatedFirst⟩
  rcases Except.bind_eq_ok_iff.mp secondRun with ⟨second, resolvedSecond, generatedSecond⟩
  have topic_mem_first : ⟨"org/wiregen/protocol/fetch/Topic.java"⟩ ∈
      firstOutput.files.map (·.path) := by
    rw [firstPaths]
    exact List.mem_cons_self
  have topic_mem_second : ⟨"org/wiregen/protocol/fetch/Topic.java"⟩ ∈
      secondOutput.files.map (·.path) := by
    rw [secondPaths]
    exact List.mem_cons_self
  rcases List.mem_map.mp topic_mem_first with ⟨file, file_mem, isTopic⟩
  rcases List.mem_map.mp topic_mem_second with ⟨other, other_mem, isOtherTopic⟩
  exact disjoint _ _ _ first second firstOutput secondOutput (by decide) resolvedFirst
    generatedFirst resolvedSecond generatedSecond file file_mem other other_mem
    (isTopic.trans isOtherTopic.symm)

end ResolvedMessage

end MessageGen
