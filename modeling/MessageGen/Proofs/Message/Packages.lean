import MessageGen.Proofs.Class.Identifiers
import MessageGen.Proofs.Message.Kind
import MessageGen.Proofs.Message.Paths
import MessageGen.Proofs.Message.Shadowing

/-!
# Packages of the generated classes

All classes of a run are declared in one package: the base package, and behind it the
lowered family of the message. The settings see to it that the segments of the base
package are identifiers, and the family of a message that is named by an identifier is
one. But neither is compared with the reserved words, which a family can become by being
lowered.
-/

namespace MessageGen

open Text

section Segments

variable {text front : List Char}

theorem isIdentifier_lowerAscii (isName : isIdentifier text = true) :
    isIdentifier (lowerAscii text) = true := by
  cases text with
  | nil => cases isName
  | cons first rest =>
      rcases List.forall_mem_cons.mp (isIdentifierPart_of_mem isName) with ⟨firstPart, restParts⟩
      have isStart := (Bool.and_eq_true_iff.mp isName).1
      have startsLowered := (isIdentifierStart_toLower firstPart).trans isStart
      have areLowered : (lowerAscii rest).all isIdentifierPart = true := by
        rw [List.all_eq_true]
        intro character character_mem
        rcases List.mem_map.mp character_mem with ⟨original, original_mem, rfl⟩
        exact isIdentifierPart_toLower (restParts original original_mem)
      exact Bool.and_eq_true_iff.mpr ⟨startsLowered, areLowered⟩

theorem isIdentifier_front (isFront : front <+: text) (nonempty : front ≠ [])
    (isName : isIdentifier text = true) : isIdentifier front = true := by
  rcases isFront with ⟨rest, rfl⟩
  cases front with
  | nil => exact absurd rfl nonempty
  | cons first front =>
      simp only [isIdentifier, List.cons_append, List.all_append, Bool.and_eq_true] at isName ⊢
      exact ⟨isName.1, isName.2.1⟩

/-- The families of headers end in `header` when they are lowered, and no reserved word does. -/
theorem packageSegment_not_mem_of_header {family : String}
    (isHeader : NameSuffix.header.text.toList <:+ family.toList) :
    packageSegment family ∉ reservedWords := by
  have noneEnds : ∀ word ∈ reservedWords, ¬"header".toList <:+ word.toList := by
    decide
  intro isReserved
  apply noneEnds _ isReserved
  have lowered := isHeader.map Char.toLower
  simpa [packageSegment, lowerAscii, NameSuffix.text] using lowered

end Segments

/-- The text of a class starts with its package. -/
theorem ClassDescription.package_prefix_source (description : ClassDescription) :
    ("package " ++ description.package ++ ";\n").toList <+: description.source.toList := by
  simp [source, sourceLines]

namespace ResolvedMessage

variable {document : Document} {settings : Settings} {message : ResolvedMessage}
  {output : GenerationOutput} {description : ClassDescription} {fields : List ResolvedField}

theorem Makes.package_eq (makes : message.Makes description fields) :
    description.package = message.package := by
  cases makes with
  | ofMessage resolved => rfl
  | ofStructure isKept hasVersions resolved => rfl

/-- A family becomes a reserved word if the stem of a request or a response does. -/
theorem packageSegment_family_mem_iff (resolved : resolve document settings = .ok message) :
    packageSegment message.name.family ∈ reservedWords ↔
      ∃ stem, (document.name = stem ++ "Request" ∨ document.name = stem ++ "Response") ∧
        packageSegment stem ∈ reservedWords := by
  have nameResolved := name_of_resolve resolved
  constructor
  · intro isReserved
    rcases MessageName.exists_suffix_of_resolve nameResolved with ⟨suffix, stem, -, parts, -⟩
    have whole := (parts_of_suffix nameResolved ⟨stem, parts⟩).2
    cases suffix with
    | request => exact ⟨message.name.family, .inl whole, isReserved⟩
    | response => exact ⟨message.name.family, .inr whole, isReserved⟩
    | header =>
        have isFamily : document.name = message.name.family := whole
        rw [← isFamily] at isReserved
        exact absurd isReserved (packageSegment_not_mem_of_header ⟨stem, parts⟩)
  · rintro ⟨stem, isRequest | isResponse, isReserved⟩
    · have isSuffix : NameSuffix.request.text.toList <:+ document.name.toList :=
        ⟨stem.toList, by simp [isRequest, NameSuffix.text]⟩
      have whole : document.name = message.name.family ++ "Request" :=
        (parts_of_suffix nameResolved isSuffix).2
      rwa [(String.append_left_inj "Request").mp (whole.symm.trans isRequest)]
    · have isSuffix : NameSuffix.response.text.toList <:+ document.name.toList :=
        ⟨stem.toList, by simp [isResponse, NameSuffix.text]⟩
      have whole : document.name = message.name.family ++ "Response" :=
        (parts_of_suffix nameResolved isSuffix).2
      rwa [(String.append_left_inj "Response").mp (whole.symm.trans isResponse)]

theorem isIdentifier_of_mem_package (resolved : resolve document settings = .ok message)
    (isName : isIdentifier document.name.toList = true) :
    ∀ segment ∈ Settings.packageSegments message.package,
      isIdentifier segment.toList = true := by
  have pointFree := not_mem_of_isIdentifier isName (by decide : isIdentifierPart '.' = false)
  rw [packageSegments_package resolved pointFree, List.forall_mem_append,
    List.forall_mem_singleton]
  constructor
  · have validated := Settings.validate_eq_ok_iff.mp (settings_of_resolve resolved).2
    exact (Settings.checkPackage_eq_ok_iff.mp validated.1).2
  · rcases MessageName.family_prefix_of_resolve (name_of_resolve resolved) with
      ⟨nonempty, isFront⟩
    rw [packageSegment, String.toList_ofList]
    exact isIdentifier_lowerAscii (isIdentifier_front isFront (by simpa using nonempty) isName)

theorem package_avoids_reservedWords_iff (resolved : resolve document settings = .ok message)
    (isName : isIdentifier document.name.toList = true) :
    (∀ segment ∈ Settings.packageSegments message.package, segment ∉ reservedWords) ↔
      (∀ segment ∈ Settings.packageSegments settings.basePackage, segment ∉ reservedWords) ∧
      ∀ stem, document.name = stem ++ "Request" ∨ document.name = stem ++ "Response" →
        packageSegment stem ∉ reservedWords := by
  have pointFree := not_mem_of_isIdentifier isName (by decide : isIdentifierPart '.' = false)
  rw [packageSegments_package resolved pointFree, List.forall_mem_append,
    List.forall_mem_singleton, packageSegment_family_mem_iff resolved]
  simp only [not_exists, not_and]

theorem package_prefix_of_mem_files (generated : message.generate = .ok output)
    {file : GeneratedFile} (file_mem : file ∈ output.files) :
    ("package " ++ message.package ++ ";\n").toList <+: file.contents.toList := by
  rcases (mem_files_iff_makes generated).mp file_mem with ⟨description, fields, makes, rfl⟩
  rw [← makes.package_eq]
  exact description.package_prefix_source

/--
If a message is named by an identifier, all segments of its package are identifiers. None
of them is a reserved word exactly if no segment of the base package is one, and the stem
of a request or a response, once it is lowered, is none. Every file of a run starts with
the declaration of this package.
-/
theorem package_legal_iff (resolved : resolve document settings = .ok message)
    (isName : isIdentifier document.name.toList = true) :
    (∀ segment ∈ Settings.packageSegments message.package, isIdentifier segment.toList = true) ∧
    ((∀ segment ∈ Settings.packageSegments message.package, segment ∉ reservedWords) ↔
      (∀ segment ∈ Settings.packageSegments settings.basePackage, segment ∉ reservedWords) ∧
      ∀ stem, document.name = stem ++ "Request" ∨ document.name = stem ++ "Response" →
        packageSegment stem ∉ reservedWords) ∧
    ∀ output, message.generate = .ok output → ∀ file ∈ output.files,
      ("package " ++ message.package ++ ";\n").toList <+: file.contents.toList :=
  ⟨isIdentifier_of_mem_package resolved isName, package_avoids_reservedWords_iff resolved isName,
    fun _ generated _ => package_prefix_of_mem_files generated⟩

/-- A request without fields. -/
def plainRequest (name : String) : Document where
  name := name
  type := "request"
  apiKey := 4
  validVersions := "0-1"
  flexibleVersions := none
  commonStructures := []
  fields := []

theorem package_plainRequest : ∀ name ∈ ["NewsRequest", "NewRequest"],
    ((resolve (plainRequest name) .standard).toOption.map (·.package)) =
      some ("org.wiregen.protocol." ++ if name = "NewRequest" then "new" else "news") := by
  decide

/-- A family that is no reserved word, though it starts with one. -/
theorem package_legal_news : ∃ message,
    resolve (plainRequest "NewsRequest") .standard = .ok message ∧
    isIdentifier "NewsRequest".toList = true ∧
    ∀ segment ∈ Settings.packageSegments message.package,
      isIdentifier segment.toList = true ∧ segment ∉ reservedWords := by
  rcases Except.exists_ok_of_map_toOption (package_plainRequest "NewsRequest" (by decide)) with
    ⟨message, resolved, -⟩
  have isName : isIdentifier "NewsRequest".toList = true := by decide
  rcases package_legal_iff resolved isName with ⟨areIdentifiers, avoids_iff, -⟩
  have avoids : ∀ segment ∈ Settings.packageSegments message.package,
      segment ∉ reservedWords := by
    rw [avoids_iff]
    refine ⟨by decide, ?_⟩
    rintro stem (isRequest | isResponse)
    · have isStem : "News" = stem := (String.append_left_inj "Request").mp isRequest
      rw [← isStem]
      decide
    · have isSuffix : "Response".toList <:+ "NewsRequest".toList :=
        ⟨stem.toList, by rw [← String.toList_append]; exact congrArg String.toList isResponse.symm⟩
      exact absurd isSuffix (by decide)
  exact ⟨message, resolved, isName, fun segment segment_mem =>
    ⟨areIdentifiers segment segment_mem, avoids segment segment_mem⟩⟩

/-- A family can become a reserved word when it is lowered. -/
theorem package_not_legal_new : ¬∀ document settings message,
    resolve document settings = .ok message → isIdentifier document.name.toList = true →
      ∀ segment ∈ Settings.packageSegments message.package,
        isIdentifier segment.toList = true ∧ segment ∉ reservedWords := by
  intro alwaysLegal
  rcases Except.exists_ok_of_map_toOption (package_plainRequest "NewRequest" (by decide)) with
    ⟨message, resolved, isPackage⟩
  have new_mem : "new" ∈ Settings.packageSegments message.package := by
    rw [isPackage]
    decide
  have legal := alwaysLegal _ _ message resolved (by decide) "new" new_mem
  exact legal.2 (by decide)

end ResolvedMessage

end MessageGen
