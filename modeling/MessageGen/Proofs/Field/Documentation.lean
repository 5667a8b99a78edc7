import MessageGen.Field.Declaration
import MessageGen.Proofs.Field.Versions
import MessageGen.Proofs.Message.Run
import MessageGen.Proofs.Text.Characters
import MessageGen.Proofs.Version.Description

/-!
# Documented and registered versions

The versions of a field are shown twice in its class: as ranges in the documentation of
its members, and as lists in the statement that registers it. The sets behind both have
no gaps, because valid versions are written as a range and everything else is cut out of
them by ranges. So each documented range can be read, and it stands for the versions that
are registered.
-/

namespace MessageGen

namespace ResolvedField

/-- The line of a registration that calls a method with the given arguments. -/
def clause (name arguments : String) : String :=
  "    ." ++ name ++ "(" ++ arguments ++ ")"

/--
What is written about the versions of a field in one place: all of them, those in which
it may be null and those in which it is tagged. What is absent is not written.
-/
structure VersionTexts where
  versions : Option String
  nullableVersions : Option String
  taggedVersions : Option String

/-- The texts are the ranges in the documentation of the member and of both accessors. -/
structure Documents (field : ResolvedField) (scope : VersionSet) (ceiling : Version)
    (ranges : VersionTexts) : Prop where
  member : (field.memberDeclaration scope ceiling).docs =
    field.attributes.about.elim [] Text.stringLines ++
      (ranges.versions.map ("Versions: " ++ ·)).toList ++
      (ranges.nullableVersions.map ("Nullable versions: " ++ ·)).toList ++
      (ranges.taggedVersions.map ("Tagged versions: " ++ ·)).toList
  accessors : ∀ method ∈ field.accessors scope ceiling, method.docs =
    (ranges.versions.map ("Only encoded in versions " ++ · ++ ".")).toList

/-- The texts are the arguments of the clauses of the statement that registers a field. -/
structure Registers (field : ResolvedField) (arguments : VersionTexts) : Prop where
  statement : field.registration = String.intercalate "\n" field.registrationLines ++ ");"
  versions : ∀ listed, clause "versions" listed ∈ field.registrationLines ↔
    listed ∈ arguments.versions
  nullableVersions : ∀ listed, clause "nullableVersions" listed ∈ field.registrationLines ↔
    listed ∈ arguments.nullableVersions
  taggedVersions : ∀ listed, clause "taggedVersions" listed ∈ field.registrationLines ↔
    listed ∈ arguments.taggedVersions

/-- A range of the documentation stands for the versions that a clause lists. -/
def Denotes (ceiling : Version) (range listed : String) : Prop :=
  ∃ set, VersionRange.resolve range (some ceiling) = .ok set ∧
    VersionSet.readListed? listed = some set.toList

/--
The documented ranges stand for the registered versions. All versions are documented if
some version of the scope is missing from those that are registered.
-/
structure RangesAgree (scope : VersionSet) (ceiling : Version) (ranges arguments : VersionTexts) :
    Prop where
  registered : ∃ listed versions, arguments.versions = some listed ∧
    VersionSet.readListed? listed = some versions ∧
    (ranges.versions.isSome = true ↔ ∃ version ∈ scope, version ∉ versions)
  versions : ∀ range ∈ ranges.versions, ∃ listed ∈ arguments.versions, Denotes ceiling range listed
  nullableVersions :
    Option.Rel (Denotes ceiling) ranges.nullableVersions arguments.nullableVersions
  taggedVersions : Option.Rel (Denotes ceiling) ranges.taggedVersions arguments.taggedVersions

variable {context : ClassContext} {attributes : FieldAttributes} {field : ResolvedField}
  {scope set : VersionSet} {ceiling : Version} {expression name other listed : String}

section Contiguity

theorem not_hasGap_of_resolveWithin (scopeNoGap : ¬scope.HasGap)
    (resolved : resolveWithin context expression scope = .ok set) : ¬set.HasGap := by
  rcases resolveWithin_eq_ok_iff.mp resolved with ⟨range, -, rfl⟩
  apply VersionSet.not_hasGap_inter
  · exact VersionSet.not_hasGap_expand range
  · exact scopeNoGap

theorem not_hasGap_of_resolveOptional {expression? : Option String} (scopeNoGap : ¬scope.HasGap)
    (resolved : resolveOptional context expression? scope = .ok set) : ¬set.HasGap := by
  cases expression? with
  | none =>
      cases resolved
      exact VersionSet.not_hasGap_empty
  | some expression => exact not_hasGap_of_resolveWithin scopeNoGap resolved

/-- Ranges cut no gaps into valid versions without gaps. -/
theorem not_hasGap_of_resolve (validNoGap : ¬context.validVersions.HasGap)
    (resolved : resolve context attributes = .ok field) :
    ¬field.versions.HasGap ∧ ¬field.nullableVersions.HasGap ∧ ¬field.taggedVersions.HasGap := by
  rcases resolve_eq_ok_iff.mp resolved with
    ⟨type, versions, nullableVersions, taggedVersions, initialValue, -, hasVersions, isNullable,
      isTagged, -, rfl⟩
  have versionsNoGap := not_hasGap_of_resolveWithin validNoGap hasVersions
  refine ⟨versionsNoGap, ?_, ?_⟩
  · exact not_hasGap_of_resolveOptional versionsNoGap isNullable
  · exact not_hasGap_of_resolveOptional versionsNoGap (resolveTagged_eq_ok_iff.mp isTagged).1

theorem not_hasGap_validVersions {document : Document} {settings : Settings}
    {message : ResolvedMessage}
    (resolved : ResolvedMessage.resolve document settings = .ok message) :
    ¬message.validVersions.HasGap := by
  rcases ResolvedMessage.resolve_eq_ok_iff.mp resolved with ⟨-, _, _, _, _, -, valid, -, rfl⟩
  simp only [VersionRange.resolve, Except.bind_eq_ok_iff, Except.pure_eq_ok_iff] at valid
  rcases valid with ⟨range, -, rfl⟩
  exact VersionSet.not_hasGap_expand range

end Contiguity

section Texts

/-- A set as it is written where an empty one is left out. -/
def textUnlessEmpty (write : VersionSet → String) (set : VersionSet) : Option String :=
  if set.isEmpty then none else some (write set)

theorem versionDocs_eq (title : String) : versionDocs title set ceiling =
    ((textUnlessEmpty (·.describe ceiling) set).map (title ++ ": " ++ ·)).toList := by
  rw [versionDocs, textUnlessEmpty]
  split <;> rfl

theorem versionClause_eq :
    versionClause name set = ((textUnlessEmpty (·.listed) set).map (clause name)).toList := by
  rw [versionClause, textUnlessEmpty]
  split <;> rfl

/-- The ranges that the documentation of a field shows. -/
def documentedRanges (field : ResolvedField) (scope : VersionSet) (ceiling : Version) :
    VersionTexts where
  versions := if field.isConditional scope then some (field.versions.describe ceiling) else none
  nullableVersions := textUnlessEmpty (·.describe ceiling) field.nullableVersions
  taggedVersions := textUnlessEmpty (·.describe ceiling) field.taggedVersions

/-- The lists that the registration of a field shows. -/
def registeredLists (field : ResolvedField) : VersionTexts where
  versions := some field.versions.listed
  nullableVersions := textUnlessEmpty (·.listed) field.nullableVersions
  taggedVersions := textUnlessEmpty (·.listed) field.taggedVersions

theorem documents_documentedRanges :
    field.Documents scope ceiling (field.documentedRanges scope ceiling) := by
  constructor
  · simp only [memberDeclaration, memberDocs, documentedRanges, versionDocs_eq]
    cases field.isConditional scope <;> rfl
  · intro method method_mem
    have isDocs : method.docs = field.accessorDocs scope ceiling := by
      simp only [accessors, List.mem_cons, List.not_mem_nil, or_false] at method_mem
      rcases method_mem with rfl | rfl <;> rfl
    rw [isDocs, accessorDocs, documentedRanges]
    cases field.isConditional scope <;> rfl

/-- The name and the arguments can be read from a clause: the name has no parenthesis. -/
theorem clause_inj {arguments : String} (nameNoOpen : '(' ∉ name.toList)
    (otherNoOpen : '(' ∉ other.toList) :
    clause name listed = clause other arguments ↔ name = other ∧ listed = arguments := by
  constructor
  · intro same
    have texts : name.toList ++ '(' :: (listed.toList ++ [')']) =
        other.toList ++ '(' :: (arguments.toList ++ [')']) := by
      simpa [clause, ← String.toList_inj] using same
    have sameName : name = other := by
      have names := congrArg (·.takeWhile (· != '(')) texts
      simp only [Text.takeWhile_bne_append nameNoOpen,
        Text.takeWhile_bne_append otherNoOpen] at names
      exact String.toList_inj.mp names
    subst sameName
    simpa [String.toList_inj] using texts
  · rintro ⟨rfl, rfl⟩
    rfl

/-- The methods that the registration of a field may call, with the arguments if it does. -/
def calls (field : ResolvedField) : List (String × Option String) :=
  [("versions", some field.versions.listed),
    ("nullableVersions", textUnlessEmpty (·.listed) field.nullableVersions),
    ("taggedVersions", textUnlessEmpty (·.listed) field.taggedVersions),
    ("tag", field.attributes.tag.map fun tag => String.ofList (Text.signedDecimal tag)),
    ("structType", field.type.structureName?.map (· ++ ".class")),
    ("ignorable", if field.attributes.ignorable then some "" else none),
    ("mapKey", if field.attributes.mapKey then some "" else none)]

theorem flagClause_eq (holds : Bool) : flagClause name holds =
    ((if holds then some "" else none).map (clause name)).toList := by
  cases holds <;> simp [flagClause, clause, ← String.toList_inj]

theorem exists_registrationLines_eq (field : ResolvedField) : ∃ first, field.registrationLines =
    ("registerField(" ++ first) ::
      field.calls.flatMap fun call => (call.2.map (clause call.1)).toList := by
  refine ⟨fieldClass ++ ".of(\"" ++ field.member ++ "\", \"" ++ field.type.wireName ++ "\")", ?_⟩
  have isVersions : "    .versions(" ++ field.versions.listed ++ ")" =
      clause "versions" field.versions.listed := rfl
  have isTag (tag : Int) : "    .tag(" ++ String.ofList (Text.signedDecimal tag) ++ ")" =
      clause "tag" (String.ofList (Text.signedDecimal tag)) := rfl
  have isStructType (name : String) : "    .structType(" ++ name ++ ".class)" =
      clause "structType" (name ++ ".class") := by
    simp [clause, ← String.toList_inj]
  simp only [registrationLines, calls, versionClause_eq, isVersions, isTag, isStructType,
    flagClause_eq, List.flatMap_cons, List.flatMap_nil, Option.map_map, Option.map_some,
    Option.toList_some, Function.comp_def, List.append_assoc, List.cons_append, List.nil_append,
    List.append_nil]
  rfl

theorem open_not_mem_calls : ∀ call ∈ field.calls, '(' ∉ call.1.toList := by
  simp [calls]

theorem clause_mem_registrationLines (noOpen : '(' ∉ name.toList) :
    clause name listed ∈ field.registrationLines ↔ (name, some listed) ∈ field.calls := by
  rcases exists_registrationLines_eq field with ⟨first, lines⟩
  simp only [lines, List.mem_cons, List.mem_flatMap, Option.mem_toList, Option.map_eq_some_iff]
  constructor
  · rintro (isHeader | ⟨⟨other, _⟩, call_mem, arguments, rfl, same⟩)
    · have heads := congrArg (·.toList.head?) isHeader
      simp [clause] at heads
    · rcases (clause_inj (open_not_mem_calls _ call_mem) noOpen).mp same with ⟨rfl, rfl⟩
      exact call_mem
  · intro call_mem
    exact .inr ⟨_, call_mem, listed, rfl, rfl⟩

theorem registers_registeredLists : field.Registers field.registeredLists := by
  constructor
  · rfl
  · intro listed
    rw [clause_mem_registrationLines (by decide)]
    simpa [calls, registeredLists] using eq_comm
  · intro listed
    rw [clause_mem_registrationLines (by decide)]
    simpa [calls, registeredLists] using eq_comm
  · intro listed
    rw [clause_mem_registrationLines (by decide)]
    simpa [calls, registeredLists] using eq_comm

end Texts

section Agreement

theorem denotes_describe_listed (noGap : ¬set.HasGap) (ceiling : Version) :
    Denotes ceiling (set.describe ceiling) set.listed :=
  ⟨set, VersionSet.resolve_describe noGap ceiling, VersionSet.readListed?_listed set⟩

theorem rel_textUnlessEmpty (noGap : ¬set.HasGap) (ceiling : Version) :
    Option.Rel (Denotes ceiling) (textUnlessEmpty (·.describe ceiling) set)
      (textUnlessEmpty (·.listed) set) := by
  rw [textUnlessEmpty, textUnlessEmpty]
  split
  · exact .none
  · exact .some (denotes_describe_listed noGap ceiling)

theorem isConditional_iff :
    field.isConditional scope = true ↔ ∃ version ∈ scope, version ∉ field.versions := by
  rw [isConditional, Bool.not_eq_true', ← Bool.not_eq_true, VersionSet.isSubset_iff]
  simp only [not_forall, exists_prop]

theorem rangesAgree (versionsNoGap : ¬field.versions.HasGap)
    (nullableNoGap : ¬field.nullableVersions.HasGap) (taggedNoGap : ¬field.taggedVersions.HasGap)
    (scope : VersionSet) (ceiling : Version) :
    RangesAgree scope ceiling (field.documentedRanges scope ceiling) field.registeredLists where
  registered := by
    refine ⟨_, _, rfl, VersionSet.readListed?_listed field.versions, ?_⟩
    simp only [← VersionSet.mem_iff_mem_toList, ← isConditional_iff, documentedRanges]
    cases field.isConditional scope <;> simp
  versions := by
    intro range isRange
    rw [documentedRanges] at isRange
    split at isRange
    · cases isRange
      exact ⟨_, rfl, denotes_describe_listed versionsNoGap ceiling⟩
    · cases isRange
  nullableVersions := rel_textUnlessEmpty nullableNoGap ceiling
  taggedVersions := rel_textUnlessEmpty taggedNoGap ceiling

end Agreement

/--
The version sets of a resolved field have no gaps. Its documentation shows ranges that,
read up to the highest version of the message, are the versions that its registration
lists, and it shows them exactly if there is something to say.
-/
theorem documentation_agrees {document : Document} {settings : Settings}
    {message : ResolvedMessage}
    (resolved : ResolvedMessage.resolve document settings = .ok message)
    (fieldResolved : resolve message.context attributes = .ok field) (scope : VersionSet) :
    (¬field.versions.HasGap ∧ ¬field.nullableVersions.HasGap ∧ ¬field.taggedVersions.HasGap) ∧
    ∃ ranges arguments, field.Documents scope message.maxVersion ranges ∧
      field.Registers arguments ∧ RangesAgree scope message.maxVersion ranges arguments := by
  rcases not_hasGap_of_resolve (not_hasGap_validVersions resolved) fieldResolved with
    ⟨versionsNoGap, nullableNoGap, taggedNoGap⟩
  refine ⟨⟨versionsNoGap, nullableNoGap, taggedNoGap⟩, _, _, documents_documentedRanges,
    registers_registeredLists, ?_⟩
  exact rangesAgree versionsNoGap nullableNoGap taggedNoGap scope message.maxVersion

/-- A message whose versions start late and become flexible. -/
def lateRequest : Document where
  name := "OfferRequest"
  type := "request"
  apiKey := 7
  validVersions := "2-9"
  flexibleVersions := some "6+"
  commonStructures := []
  fields := []

/-- A field that comes and goes while its versions may be null and then are tagged. -/
def priceAttributes : FieldAttributes where
  name := "ListPrice"
  type := "[]string"
  versions := "3-8"
  nullableVersions := some "0-4"
  taggedVersions := some "7+"
  tag := some 1
  default := none
  about := some "What is asked."
  ignorable := true
  mapKey := false
  entityType := none

theorem documentation_agrees_price : ∃ message field,
    ResolvedMessage.resolve lateRequest .standard = .ok message ∧
    resolve message.context priceAttributes = .ok field ∧
    (¬field.versions.HasGap ∧ ¬field.nullableVersions.HasGap ∧ ¬field.taggedVersions.HasGap) ∧
    ∃ ranges arguments,
      field.Documents message.validVersions message.maxVersion ranges ∧
      field.Registers arguments ∧
      RangesAgree message.validVersions message.maxVersion ranges arguments := by
  have succeeds : (ResolvedMessage.resolve lateRequest .standard >>= fun message =>
      (resolve message.context priceAttributes).map fun field => (message, field)).isOk = true := by
    decide +kernel
  rcases Except.exists_ok_of_isOk succeeds with ⟨⟨message, field⟩, made⟩
  rcases Except.bind_eq_ok_iff.mp made with ⟨_, resolved, fieldMade⟩
  rcases Except.map_eq_ok_iff.mp fieldMade with ⟨_, fieldResolved, same⟩
  cases same
  exact ⟨message, field, resolved, fieldResolved,
    documentation_agrees resolved fieldResolved message.validVersions⟩

end ResolvedField

end MessageGen
