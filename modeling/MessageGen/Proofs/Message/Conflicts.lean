import MessageGen.Proofs.Message.References

/-!
# Conflicts between names of a class

A class that a run makes declares every member and every method once, and no method that
is final. A class with a conflict is not made: its run stops with an error, and if
nothing else is wrong, the error names the class and the first method in conflict.
-/

namespace MessageGen

open ClassDescription Emission

variable {context : ClassContext} {registry : StructureRegistry} {name : String}
  {versions : VersionSet} {fields : List Field} {resolvedFields : List ResolvedField}

theorem declaresOnce_structureClass (resolved : (fields.mapM fun field =>
      ResolvedField.resolve context field.toFieldAttributes) = .ok resolvedFields)
    (distinct : HasDistinctAccessors fields) :
    (structureClass context name versions resolvedFields).DeclaresOnce where
  members := by
    rw [map_name_members_structureClass resolved]
    exact nodup_memberNames distinct.1
  methods := by
    rw [map_name_methods_structureClass resolved]
    exact distinct.1
  notFinal := by
    rw [map_name_methods_structureClass resolved]
    exact distinct.2

/-- The class of a structure whose fields have a conflict is not made. -/
theorem runWith_emitStructure_of_hasConflict (isNew : registry.contains name = false)
    (conflict : HasConflict fields []) :
    ∃ error final, (emitStructure context name versions (emitFields context fields)).runWith
        registry = (.error error, final) ∧
      ∀ resolvedFields middle,
        (emitFields context fields).runWith registry = (.ok resolvedFields, middle) →
          ∃ method, IsFirstConflict (methodNames fields) method ∧
            error = .methodConflict name method := by
  rw [runWith_emitStructure_of_new isNew]
  cases run : (emitFields context fields).runWith registry with
  | mk outcome middle =>
      cases outcome with
      | error error => exact ⟨error, middle, rfl, fun resolvedFields other made => by cases made⟩
      | ok resolvedFields =>
          have methods : (structureClass context name versions resolvedFields).methods.map
              (·.name) = methodNames fields ++ [] := by
            rw [List.append_nil, map_name_methods_structureClass (mapM_resolve_of_emitFields run)]
          rcases checkMethods_of_hasConflict methods conflict with ⟨method, first, checked⟩
          rw [List.append_nil] at first
          refine ⟨.methodConflict name method, middle, ?_, ?_⟩
          · simp only [checked]
            rfl
          · exact fun _ _ _ => ⟨method, first, rfl⟩

namespace ResolvedMessage

variable {message : ResolvedMessage} {output : GenerationOutput}

/-- The names of the methods that the class of a message has by its kind. -/
def kindMethodNames (message : ResolvedMessage) : List String :=
  message.kindMethods.map (·.name)

section MessageClass

variable (resolved : (message.document.fields.mapM fun field =>
  ResolvedField.resolve context field.toFieldAttributes) = .ok resolvedFields)

include resolved

theorem map_name_members_messageClass :
    (message.messageClass context resolvedFields).members.map (·.name) =
      memberNames message.document.fields := by
  rw [← map_member_of_mapM resolved]
  simp [messageClass, ClassDescription.withFields, ResolvedField.memberDeclaration]

theorem map_name_methods_messageClass :
    (message.messageClass context resolvedFields).methods.map (·.name) =
      methodNames message.document.fields ++ message.kindMethodNames := by
  rw [← map_name_accessors_of_mapM resolved message.validVersions context.maxVersion]
  simp [messageClass, ClassDescription.withFields, kindMethodNames]

theorem hasDistinctAccessors_of_checkMethods
    (checked : (message.messageClass context resolvedFields).checkMethods = .ok ()) :
    HasDistinctAccessors message.document.fields := by
  rcases checkMethods_eq_ok_iff.mp checked with ⟨distinct, notFinal⟩
  rw [map_name_methods_messageClass resolved] at distinct notFinal
  exact ⟨distinct.of_append_left, fun isFinal => notFinal (List.mem_append_left _ isFinal)⟩

theorem declaresOnce_messageClass
    (checked : (message.messageClass context resolvedFields).checkMethods = .ok ()) :
    (message.messageClass context resolvedFields).DeclaresOnce := by
  rcases checkMethods_eq_ok_iff.mp checked with ⟨distinct, notFinal⟩
  refine ⟨?_, distinct, notFinal⟩
  rw [map_name_members_messageClass resolved]
  exact nodup_memberNames (hasDistinctAccessors_of_checkMethods resolved checked).1

end MessageClass

/-- The class of a message whose fields have a conflict is not made. -/
theorem runWith_emitMessage_of_hasConflict
    (conflict : HasConflict message.document.fields message.kindMethodNames) :
    ∃ error final, (message.emitMessage context).runWith registry = (.error error, final) ∧
      ∀ afterCommons resolvedFields last,
        (emitCommons context message.document.commonStructures).runWith registry =
          (.ok (), afterCommons) →
        (emitFields context message.document.fields).runWith afterCommons =
          (.ok resolvedFields, last) →
        last.checkReferences = .ok () →
          ∃ method,
            IsFirstConflict (methodNames message.document.fields ++ message.kindMethodNames)
              method ∧
            error = .methodConflict message.document.name method := by
  cases run : (message.emitMessage context).runWith registry with
  | mk outcome final =>
      cases outcome with
      | ok description =>
          rcases emitMessage_eq_ok_iff.mp run with
            ⟨afterCommons, resolvedFields, -, fieldsRun, -, checked, -⟩
          rcases checkMethods_of_hasConflict
            (map_name_methods_messageClass (mapM_resolve_of_emitFields fieldsRun)) conflict with
            ⟨method, -, fails⟩
          rw [checked] at fails
          cases fails
      | error error =>
          refine ⟨error, final, rfl, ?_⟩
          intro afterCommons resolvedFields last commonsRun fieldsRun referencesChecked
          rcases checkMethods_of_hasConflict
            (map_name_methods_messageClass (mapM_resolve_of_emitFields fieldsRun)) conflict with
            ⟨method, first, fails⟩
          rw [runWith_emitMessage commonsRun fieldsRun referencesChecked, fails] at run
          cases run
          exact ⟨method, first, rfl⟩

theorem generate_eq_error_of_emitMessage {error : GenerationError} {final : StructureRegistry}
    (run : (message.emitMessage message.context).runWith ∅ = (.error error, final)) :
    message.generate = .error error := by
  rw [generate, run]

/--
The classes of a run declare nothing twice: not their members, whatever letters the names
of their fields are made of, and not their methods, among which no final one is. A
structure or a message with a conflict is not made; if no other error comes first, the
error names the class and its first method in conflict, in the order of declaration.
-/
theorem classes_declare_once (message : ResolvedMessage) :
    (∀ output, message.generate = .ok output →
      (∃ fields, (message.document.fields.mapM fun field =>
          ResolvedField.resolve message.context field.toFieldAttributes) = .ok fields ∧
        output.message.contents = (message.messageClass message.context fields).source ∧
        (message.messageClass message.context fields).DeclaresOnce) ∧
      ∀ file ∈ output.structures, ∃ definition ∈ message.document.keptStructures,
        ∃ versions fields, (definition.fields.mapM fun field =>
            ResolvedField.resolve message.context field.toFieldAttributes) = .ok fields ∧
          file.className = definition.name ∧
          file.contents =
            (structureClass message.context definition.name versions fields).source ∧
          (structureClass message.context definition.name versions fields).DeclaresOnce) ∧
    (∀ context registry name versions fields, StructureRegistry.contains registry name = false →
      HasConflict fields [] →
      ∃ error final, (emitStructure context name versions (emitFields context fields)).runWith
          registry = (.error error, final) ∧
        ∀ resolvedFields middle,
          (emitFields context fields).runWith registry = (.ok resolvedFields, middle) →
            ∃ method, IsFirstConflict (methodNames fields) method ∧
              error = .methodConflict name method) ∧
    (HasConflict message.document.fields message.kindMethodNames →
      (∃ error final, (message.emitMessage message.context).runWith ∅ = (.error error, final) ∧
        message.generate = .error error) ∧
      ∀ context registry, ∃ error final,
        (message.emitMessage context).runWith registry = (.error error, final) ∧
        ∀ afterCommons resolvedFields last,
          (emitCommons context message.document.commonStructures).runWith registry =
            (.ok (), afterCommons) →
          (emitFields context message.document.fields).runWith afterCommons =
            (.ok resolvedFields, last) →
          last.checkReferences = .ok () →
            ∃ method,
              IsFirstConflict (methodNames message.document.fields ++ message.kindMethodNames)
                method ∧
              error = .methodConflict message.document.name method) := by
  refine ⟨?_, ?_, ?_⟩
  · intro output generated
    rcases generate_eq_ok_iff.mp generated with
      ⟨afterCommons, fields, registry, commonsRun, fieldsRun, -, checked, rfl⟩
    have resolved := mapM_resolve_of_emitFields fieldsRun
    refine ⟨⟨fields, resolved, ?_, declaresOnce_messageClass resolved checked⟩, ?_⟩
    · simp only
    intro file file_mem
    have accounts := accounts_of_run commonsRun fieldsRun
    rcases Except.exists_input_of_mapM accounts.files file_mem with
      ⟨definition, definition_mem, made⟩
    rcases CommonStructure.classFile_eq_ok_iff.mp made with
      ⟨versions, -, fields, resolved, rfl⟩
    exact ⟨definition, definition_mem, versions, fields, resolved, rfl, rfl,
      declaresOnce_structureClass resolved (accounts.accessors definition definition_mem)⟩
  · intro context registry name versions fields isNew conflict
    exact runWith_emitStructure_of_hasConflict isNew conflict
  · intro conflict
    rcases runWith_emitMessage_of_hasConflict conflict with ⟨error, final, run, -⟩
    refine ⟨⟨error, final, run, generate_eq_error_of_emitMessage run⟩, ?_⟩
    exact fun context registry => runWith_emitMessage_of_hasConflict conflict

/-- A request with a field whose getter is a method of every request. -/
def keyRequest : Document :=
  { forestDocument with
    commonStructures := []
    fields := [.declaring "request_api_key" "int16" none] }

/-- A field whose getter no class can declare. -/
def classField : Field :=
  .declaring "__class" "string" none

theorem classes_declare_once_plant :
    (∃ message output fields, resolve forestDocument .standard = .ok message ∧
      message.generate = .ok output ∧
      output.message.contents = (message.messageClass message.context fields).source ∧
      (message.messageClass message.context fields).DeclaresOnce) ∧
    ∃ message, resolve keyRequest .standard = .ok message ∧
      (∃ error final method, (emitStructure (ResolvedField.gappedContext .empty) "Leaf" .empty
          (emitFields (ResolvedField.gappedContext .empty) [classField])).runWith ∅ =
            (.error error, final) ∧
        IsFirstConflict ["getClass", "setClass"] method ∧
        error = .methodConflict "Leaf" method) ∧
      ∃ error method, message.generate = .error error ∧
        IsFirstConflict ["getRequestApiKey", "setRequestApiKey", "getRequestApiKey",
          "getMaxSupportedVersion", "getFlexibleVersions"] method ∧
        error = .methodConflict "PlantRequest" method := by
  refine ⟨?_, ?_⟩
  · have succeeds : (resolve forestDocument .standard >>= generate).isOk = true := by
      decide +kernel
    rcases Except.exists_ok_of_isOk succeeds with ⟨output, run⟩
    rcases Except.bind_eq_ok_iff.mp run with ⟨message, resolved, generated⟩
    rcases ((classes_declare_once message).1 output generated).1 with
      ⟨fields, -, contents, once⟩
    exact ⟨message, output, fields, resolved, generated, contents, once⟩
  have outcomes : ((resolve keyRequest .standard).toOption.map fun message =>
      let run := (emitFields message.context keyRequest.fields).runWith ∅
      (run.1.isOk, run.2.checkReferences.isOk, message.kindMethodNames)) =
      some (true, true, ["getRequestApiKey", "getMaxSupportedVersion", "getFlexibleVersions"]) := by
    decide +kernel
  rcases Except.exists_ok_of_map_toOption outcomes with ⟨message, resolved, computed⟩
  simp only [Prod.mk.injEq] at computed
  rcases computed with ⟨resolves, checks, kindMethods⟩
  refine ⟨message, resolved, ?_, ?_⟩
  · have resolves : ((emitFields (ResolvedField.gappedContext .empty) [classField]).runWith
        ∅).1.isOk = true := by
      decide +kernel
    rcases Except.exists_ok_of_isOk resolves with ⟨fields, run⟩
    rcases (classes_declare_once message).2.1 (ResolvedField.gappedContext .empty) ∅ "Leaf" .empty
      [classField] rfl (by decide +kernel) with ⟨error, final, fails, isConflict⟩
    rcases isConflict fields _ (Prod.ext run rfl) with ⟨method, first, rfl⟩
    rw [show methodNames [classField] = ["getClass", "setClass"] by decide +kernel] at first
    exact ⟨_, final, method, fails, first, rfl⟩
  · have names := document_of_resolve resolved
    rcases Except.exists_ok_of_isOk resolves with ⟨fields, resolves⟩
    rcases Except.exists_ok_of_isOk checks with ⟨_, checked⟩
    have conflict : HasConflict message.document.fields message.kindMethodNames := by
      rw [names, kindMethods]
      decide +kernel
    rcases (classes_declare_once message).2.2 conflict with ⟨⟨error, _, run, fails⟩, made⟩
    rcases made message.context ∅ with ⟨_, _, sameRun, isConflict⟩
    cases run.symm.trans sameRun
    rw [names, kindMethods] at isConflict
    rcases isConflict ∅ fields _ rfl (Prod.ext resolves rfl) checked with ⟨method, first, rfl⟩
    rw [show methodNames keyRequest.fields = ["getRequestApiKey", "setRequestApiKey"] by
      decide +kernel] at first
    exact ⟨_, method, fails, first, rfl⟩

end ResolvedMessage

end MessageGen
