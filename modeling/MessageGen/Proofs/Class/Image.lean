import MessageGen.Message.Generation
import MessageGen.Proofs.Class.Imports

/-!
# Classes as images of their fields

A class shows each of its fields by a member, a statement of the constructor, a getter
and a setter, in the order of the fields. Its imports are fixed by which types there are
among the fields. This holds of the class of a message, which has further methods by its
kind, and of the class of a structure, which has none.
-/

namespace MessageGen

variable {context : ClassContext} {scope : VersionSet} {fields : List ResolvedField}
  {path : String}

/-- The classes that a class with the given fields imports beside its base class. -/
def FieldsImport (context : ClassContext) (fields : List ResolvedField) (path : String) : Prop :=
  (fields ≠ [] ∧ path = context.runtimeClass fieldClass) ∨
    (∃ field ∈ fields, field.type.arrayDepth ≠ 0 ∧
      (path = "java.util.ArrayList" ∨ path = "java.util.List")) ∨
    ∃ field ∈ fields, field.type.innermost = .primitive .uuid ∧ path = "java.util.UUID"

namespace ClassDescription

/--
A class shows its fields and nothing else, apart from the imports and the methods that
it has without them. Only the latter are overrides.
-/
structure IsImageOf (description : ClassDescription) (context : ClassContext)
    (scope : VersionSet) (fields : List ResolvedField) (baseClass : String)
    (library : List String) (further : List Method) : Prop where
  members : description.members =
    fields.map fun field => field.memberDeclaration scope context.maxVersion
  constructor : description.constructor = fields.map fun field => field.registration
  methods : description.methods = (fields.flatMap fun field =>
    [field.getter scope context.maxVersion, field.setter scope context.maxVersion]) ++ further
  isOverride_iff : ∀ method ∈ description.methods, method.isOverride = true ↔ method ∈ further
  base : description.baseClass = baseClass
  imports_ascending : description.imports.Pairwise (· < ·)
  mem_imports_iff : ∀ path, path ∈ description.imports ↔
    path = context.runtimeClass baseClass ∨ path ∈ library ∨ FieldsImport context fields path

end ClassDescription

theorem FieldType.mem_requiredImports_iff (type : FieldType) : path ∈ type.requiredImports ↔
    (type.arrayDepth ≠ 0 ∧ (path = "java.util.ArrayList" ∨ path = "java.util.List")) ∨
      (type.innermost = .primitive .uuid ∧ path = "java.util.UUID") := by
  induction type with
  | primitive type => cases type <;> simp [requiredImports, arrayDepth, innermost]
  | struct name => simp [requiredImports, arrayDepth, innermost]
  | array element ih =>
      simp only [requiredImports, arrayDepth, innermost, List.mem_append, List.mem_cons,
        List.not_mem_nil, or_false, ih]
      constructor
      · rintro (isList | ⟨-, isList⟩ | isUuid)
        · exact .inl ⟨Nat.succ_ne_zero _, isList⟩
        · exact .inl ⟨Nat.succ_ne_zero _, isList⟩
        · exact .inr isUuid
      · rintro (⟨-, isList⟩ | isUuid)
        · exact .inl isList
        · exact .inr (.inr isUuid)

namespace ClassDescription

variable {start description : ClassDescription} {baseClass : String} {library : List String}

theorem mem_imports_withFields_iff : path ∈ (start.withFields context scope fields).imports ↔
    path ∈ start.imports ∨ FieldsImport context fields path := by
  have ofRuntime : path ∈ (if fields.isEmpty then [] else [context.runtimeClass fieldClass]) ↔
      fields ≠ [] ∧ path = context.runtimeClass fieldClass := by
    cases fields <;> simp
  simp only [withFields, mem_sortNames, List.mem_append, ofRuntime, List.mem_flatMap,
    FieldType.mem_requiredImports_iff, FieldsImport, and_or_left, exists_or]
  exact or_assoc.trans (or_congr_right or_comm)

theorem isOverride_accessors {method : Method} {ceiling : Version}
    (method_mem : method ∈ fields.flatMap fun field => field.accessors scope ceiling) :
    method.isOverride = false := by
  rcases List.mem_flatMap.mp method_mem with ⟨field, -, isAccessor⟩
  simp only [ResolvedField.accessors, List.mem_cons, List.not_mem_nil, or_false] at isAccessor
  rcases isAccessor with rfl | rfl <;> rfl

/-- A class that starts with a base class and imports only is the image of the fields it gets. -/
theorem isImageOf_withFields (noMembers : start.members = [])
    (noStatements : start.constructor = []) (noMethods : start.methods = [])
    (base : start.baseClass = baseClass)
    (mem_imports_iff : ∀ path, path ∈ start.imports ↔
      path = context.runtimeClass baseClass ∨ path ∈ library) :
    (start.withFields context scope fields).IsImageOf context scope fields baseClass library [] where
  members := by
    rw [withFields, noMembers, List.nil_append]
  constructor := by
    rw [withFields, noStatements, List.nil_append]
  methods := by
    rw [withFields, noMethods, List.nil_append, List.append_nil]
    rfl
  isOverride_iff := by
    intro method method_mem
    rw [withFields, noMethods, List.nil_append] at method_mem
    simp [isOverride_accessors method_mem]
  base := base
  imports_ascending := pairwise_sortNames _
  mem_imports_iff := by
    intro path
    rw [mem_imports_withFields_iff, mem_imports_iff, or_assoc]

/-- Methods that override those of the base class can be added to a class that has none. -/
theorem IsImageOf.append_methods {further : List Method}
    (image : description.IsImageOf context scope fields baseClass library [])
    (overrides : ∀ method ∈ further, method.isOverride = true) :
    { description with methods := description.methods ++ further }.IsImageOf context scope fields
      baseClass library further where
  members := image.members
  constructor := image.constructor
  methods := by
    rw [image.methods, List.append_nil]
  isOverride_iff := by
    intro method method_mem
    rcases List.mem_append.mp method_mem with own | isFurther
    · have notOverride := image.isOverride_iff method own
      simp only [List.not_mem_nil, iff_false] at notOverride
      constructor
      · intro isOverride
        exact absurd isOverride notOverride
      · intro isFurther
        exact overrides method isFurther
    · exact iff_of_true (overrides method isFurther) isFurther
  base := image.base
  imports_ascending := image.imports_ascending
  mem_imports_iff := image.mem_imports_iff

end ClassDescription

theorem isImageOf_structureClass (context : ClassContext) (name : String) (versions : VersionSet)
    (fields : List ResolvedField) :
    (structureClass context name versions fields).IsImageOf context versions fields
      structureBaseClass [] [] := by
  apply ClassDescription.isImageOf_withFields
  case noMembers => rfl
  case noStatements => rfl
  case noMethods => rfl
  case base => rfl
  case mem_imports_iff =>
    intro path
    simp

namespace ResolvedMessage

variable {message : ResolvedMessage}

theorem isOverride_kindMethods {method : Method} (method_mem : method ∈ message.kindMethods) :
    method.isOverride = true := by
  have isKindMethod : method = message.apiKeyMethod ∨ method = message.maxVersionMethod ∨
      method = message.flexibleVersionsMethod := by
    cases isKind : message.kind <;>
      simp only [kindMethods, isKind, List.mem_cons, List.not_mem_nil, or_false] at method_mem <;>
        tauto
  rcases isKindMethod with rfl | rfl | rfl <;> rfl

theorem isImageOf_messageClass (message : ResolvedMessage) (context : ClassContext)
    (fields : List ResolvedField) :
    (message.messageClass context fields).IsImageOf context message.validVersions fields
      message.kind.baseClass ["java.util.List"] message.kindMethods := by
  apply ClassDescription.IsImageOf.append_methods
  · apply ClassDescription.isImageOf_withFields
    case noMembers => rfl
    case noStatements => rfl
    case noMethods => rfl
    case base => rfl
    case mem_imports_iff =>
      intro path
      simp [mem_sortNames]
  · intro method method_mem
    exact isOverride_kindMethods method_mem

end ResolvedMessage

end MessageGen
