import MessageGen.Proofs.Class.RealLiterals
import MessageGen.Proofs.Class.StringLiterals
import MessageGen.Proofs.Field.Versions
import MessageGen.Proofs.Structure.Definition

/-!
# Initial values of members

A member is declared with one expression that it starts with, and Java has to accept this
expression for the type of the member. The type, its boxed form, the zero value and the
literal of a default are four tables over the types of fields. Here they are compared with
one table each for the types and for the expressions that Java accepts for them, and with
the rule that only a member of a reference type can start with `null`.
-/

namespace MessageGen

open Text

/-- The types of Java that are no reference types. -/
def primitiveClassTypes : List String :=
  ["boolean", "byte", "short", "char", "int", "long", "float", "double"]

/-- Whether an expression is the literal of an integer of some bits, decorated on both sides. -/
def IntegerLiteral.IsLiteralOf (bits : Nat) (before after expression : String) : Prop :=
  ∃ number : Int, -2 ^ (bits - 1) ≤ number ∧ number < 2 ^ (bits - 1) ∧
    expression = before ++ toString number ++ after ∧
    readLiteral? expression.toList = some number

/-- Whether an expression is one string literal and nothing else. -/
def StringLiteral.IsLiteral (expression : String) : Prop :=
  ∃ text content, UnicodeEscape.translate? expression.toList = some text ∧
    read? text = some (content, [])

namespace FieldType

/-- Whether members of a type can be declared with a type of Java; elements of lists are boxed. -/
def IsDeclaredAs : FieldType → String → Prop
  | .primitive .bool, declared => declared ∈ ["boolean", "Boolean"]
  | .primitive .int8, declared => declared ∈ ["byte", "Byte"]
  | .primitive .int16, declared => declared ∈ ["short", "Short"]
  | .primitive .uint16, declared | .primitive .int32, declared => declared ∈ ["int", "Integer"]
  | .primitive .uint32, declared | .primitive .int64, declared => declared ∈ ["long", "Long"]
  | .primitive .float64, declared => declared ∈ ["double", "Double"]
  | .primitive .string, declared => declared = "String"
  | .primitive .bytes, declared | .primitive .records, declared => declared = "byte[]"
  | .primitive .uuid, declared => declared = "UUID"
  | .struct name, declared => declared = name
  | .array element, declared => ∃ elementType, element.IsDeclaredAs elementType ∧
      elementType ∉ primitiveClassTypes ∧ declared = "List<" ++ elementType ++ ">"

/-- Whether members of a type, boxed or not, can start with an expression other than `null`. -/
def Accepts : FieldType → String → Prop
  | .primitive .bool, expression => expression ∈ ["true", "false"]
  | .primitive .int8, expression => IntegerLiteral.IsLiteralOf 8 "(byte) " "" expression
  | .primitive .int16, expression => IntegerLiteral.IsLiteralOf 16 "(short) " "" expression
  | .primitive .uint16, expression | .primitive .int32, expression =>
    IntegerLiteral.IsLiteralOf 32 "" "" expression
  | .primitive .uint32, expression | .primitive .int64, expression =>
    IntegerLiteral.IsLiteralOf 64 "" "L" expression
  | .primitive .float64, expression => RealLiteral.IsDouble expression.toList
  | .primitive .string, expression => StringLiteral.IsLiteral expression
  | .primitive .bytes, expression | .primitive .records, expression => expression = "new byte[0]"
  | .primitive .uuid, expression => expression = "new UUID(0L, 0L)"
  | .struct name, expression => expression = "new " ++ name ++ "()"
  | .array _, expression => expression = "new ArrayList<>()"

end FieldType

section Declarations

/-- No type with a capital letter in front is primitive. -/
theorem not_mem_primitiveClassTypes {name : String}
    (isCapital : name.toList.head?.elim false Char.isUpper = true) :
    name ∉ primitiveClassTypes := by
  intro name_mem
  have allSmall : ∀ name ∈ primitiveClassTypes,
      name.toList.head?.elim false Char.isUpper = false := by
    decide
  simp [allSmall name name_mem] at isCapital

variable {type : FieldType}

/-- No field type is declared as a primitive where it may be null or is the element of a list. -/
theorem FieldType.boxed_not_mem
    (named : ∀ name, type.structureName? = some name → isStructureName name.toList = true) :
    type.classType.boxed ∉ primitiveClassTypes := by
  cases type with
  | primitive primitive => cases primitive <;> decide
  | struct name =>
      have isName := named name rfl
      simp only [isStructureName, Bool.and_eq_true] at isName
      exact not_mem_primitiveClassTypes isName.2
  | array element =>
      apply not_mem_primitiveClassTypes
      simp [classType, ClassType.reference]

theorem FieldType.declared_true (type : FieldType) :
    type.classType.declared true = type.classType.boxed := by
  cases type with
  | primitive primitive => cases primitive <;> rfl
  | struct name => rfl
  | array element => rfl

theorem FieldType.isDeclaredAs_declared
    (named : ∀ name, type.structureName? = some name → isStructureName name.toList = true)
    (nullable : Bool) : type.IsDeclaredAs (type.classType.declared nullable) := by
  induction type generalizing nullable with
  | primitive primitive =>
      cases primitive <;> cases nullable <;>
        simp [IsDeclaredAs, classType, PrimitiveType.classType, ClassType.declared,
          ClassType.reference]
  | struct name => simp [IsDeclaredAs, classType, ClassType.reference, ClassType.declared]
  | array element ih =>
      refine ⟨element.classType.boxed, ?_, boxed_not_mem named, ?_⟩
      · rw [← declared_true]
        exact ih named true
      · simp [classType, ClassType.reference, ClassType.declared]

end Declarations

section Values

variable {expression : String}

theorem IntegerLiteral.not_isLiteralOf_null {bits : Nat} {before after : String} :
    ¬IsLiteralOf bits before after "null" := by
  rintro ⟨number, -, -, -, isRead⟩
  have notRead : readLiteral? "null".toList = none := by decide
  rw [notRead] at isRead
  cases isRead

theorem StringLiteral.not_isLiteral_null : ¬IsLiteral "null" := by
  rintro ⟨text, content, translated, isRead⟩
  have plain : UnicodeEscape.translate? "null".toList = some (units "null".toList) := by decide
  have notRead : read? (units "null".toList) = none := by decide
  rw [plain, Option.some.injEq] at translated
  rw [← translated, notRead] at isRead
  cases isRead

theorem FieldType.not_accepts_null (type : FieldType) : ¬type.Accepts "null" := by
  cases type with
  | primitive primitive =>
      cases primitive with
      | bool | bytes | records | uuid => simp [Accepts]
      | int8 | int16 | uint16 | int32 | uint32 | int64 => exact IntegerLiteral.not_isLiteralOf_null
      | float64 =>
          intro isDouble
          rcases RealLiteral.IsDouble.exists_isDigit isDouble with ⟨digit, digit_mem, isDigit⟩
          have noDigit : ∀ character ∈ "null".toList, character.isDigit = false := by simp
          simp [noDigit digit digit_mem] at isDigit
      | string => exact StringLiteral.not_isLiteral_null
  | struct name =>
      intro same
      have sameCharacters := congrArg String.toList same
      simp at sameCharacters
  | array element => simp [Accepts]

theorem StringLiteral.isLiteral_stringLiteral (text : String) : IsLiteral (stringLiteral text) := by
  refine ⟨_, _, ?_, read?_quoted text.toList⟩
  rw [toList_stringLiteral, translate?_quoted]

theorem PrimitiveType.accepts_decorated {type : PrimitiveType} {number : Int}
    (holds : type.HoldsInteger number) :
    (FieldType.primitive type).Accepts (type.decorated number) := by
  have isRead := IntegerLiteral.readLiteral?_decorated holds
  cases type with
  | bool | float64 | string | bytes | records | uuid => cases holds
  | int8 | int16 | int32 | int64 =>
      exact ⟨number, holds.1, holds.2, by simp [decorated], isRead⟩
  | uint16 | uint32 =>
      rcases holds with ⟨above, below⟩
      exact ⟨number, by omega, by omega, by simp [decorated], isRead⟩

theorem PrimitiveType.zeroValue_eq_decorated {type : PrimitiveType} (isInteger : type ∈ integers) :
    type.HoldsInteger 0 ∧ type.zeroValue = type.decorated 0 := by
  simp only [integers, List.mem_cons, List.not_mem_nil, or_false] at isInteger
  rcases isInteger with rfl | rfl | rfl | rfl | rfl | rfl
  all_goals exact ⟨by simp [HoldsInteger], rfl⟩

theorem PrimitiveType.accepts_zeroValue (type : PrimitiveType) :
    (FieldType.primitive type).Accepts type.zeroValue := by
  by_cases isInteger : type ∈ integers
  · rcases zeroValue_eq_decorated isInteger with ⟨holds, isZero⟩
    rw [isZero]
    exact accepts_decorated holds
  · cases type with
    | int8 | int16 | uint16 | int32 | uint32 | int64 => exact absurd (by decide) isInteger
    | bool | bytes | records | uuid => simp [FieldType.Accepts, zeroValue]
    | float64 => exact .unsigned (.point RealLiteral.isDigits_zero RealLiteral.isDigits_zero)
    | string => exact StringLiteral.isLiteral_stringLiteral ""

theorem FieldType.accepts_zeroValue (type : FieldType) : type.Accepts type.zeroValue := by
  cases type with
  | primitive primitive => exact primitive.accepts_zeroValue
  | struct name => rfl
  | array element => rfl

theorem PrimitiveType.accepts_literal? {type : PrimitiveType} {value : Json} {text : String}
    (made : type.literal? value text = some expression) :
    (FieldType.primitive type).Accepts expression := by
  by_cases isInteger : type ∈ integers
  · rcases (literal?_eq_some_iff isInteger value).mp made with ⟨number, -, holds, rfl⟩
    exact accepts_decorated holds
  · cases type with
    | int8 | int16 | uint16 | int32 | uint32 | int64 => exact absurd (by decide) isInteger
    | bytes | records | uuid => cases made
    | bool =>
        simp only [literal?, Option.ite_none_right_eq_some, Option.some.injEq] at made
        rcases made with ⟨isValue, rfl⟩
        simpa [FieldType.Accepts] using isValue
    | float64 => exact isDouble_of_realLiteral? made
    | string =>
        cases value with
        | string content =>
            cases made
            exact StringLiteral.isLiteral_stringLiteral text
        | null | boolean | number | array | object => cases made

theorem FieldType.accepts_defaultLiteral? {type : FieldType} {nullable : Bool} {value : Json}
    (made : type.defaultLiteral? nullable value = some expression) :
    nullable = true ∧ expression = "null" ∨ type.Accepts expression := by
  simp only [defaultLiteral?] at made
  cases written : value.defaultText? with
  | none => simp [written] at made
  | some text =>
      simp only [written] at made
      by_cases isNull : text = "null"
      · simp only [if_pos isNull, Option.ite_none_right_eq_some, Option.some.injEq] at made
        exact .inl ⟨made.1, made.2.symm⟩
      · rw [if_neg isNull] at made
        cases type with
        | primitive primitive => exact .inr (PrimitiveType.accepts_literal? made)
        | struct name => cases made
        | array element => cases made

/-- A member starts with `null`, if its field may be null, or with what its type accepts. -/
theorem FieldType.accepts_initializer {field : String} {type : FieldType} {nullable : Bool}
    {default? : Option Json} (made : initializer field type nullable default? = .ok expression) :
    nullable = true ∧ expression = "null" ∨ type.Accepts expression := by
  cases default? with
  | none =>
      cases made
      cases nullable with
      | false => exact .inr type.accepts_zeroValue
      | true => exact .inl ⟨rfl, rfl⟩
  | some value =>
      simp only [initializer] at made
      cases literal : type.defaultLiteral? nullable value with
      | none => simp [literal] at made
      | some accepted =>
          simp only [literal, Except.ok.injEq] at made
          exact accepts_defaultLiteral? (made ▸ literal)

end Values

namespace ResolvedField

variable {context : ClassContext} {attributes : FieldAttributes} {field : ResolvedField}

/--
The member of a resolved field is declared with a type of Java for the type that the field
has in its schema, and starts with an expression that this type accepts, or with `null`. Only
members of fields that may be null in some version start with `null`, and none of these
members is declared with a primitive type.
-/
theorem initial_value_fits (resolved : resolve context attributes = .ok field) :
    FieldType.parse attributes.name attributes.type = .ok field.type ∧
    field.type.IsDeclaredAs field.memberType ∧
    ((∃ version, version ∈ field.nullableVersions) → field.memberType ∉ primitiveClassTypes) ∧
    (field.initialValue = "null" → ∃ version, version ∈ field.nullableVersions) ∧
    (field.initialValue ≠ "null" → field.type.Accepts field.initialValue) := by
  rcases resolve_eq_ok_iff.mp resolved with
    ⟨type, versions, nullableVersions, taggedVersions, initialValue, hasType, -, -, -,
      initialized, rfl⟩
  have named : ∀ name, type.structureName? = some name →
      FieldType.isStructureName name.toList = true :=
    fun name names => FieldType.isStructureName_of_parseText hasType names
  have isNullable : (!nullableVersions.isEmpty) = true ↔
      ∃ version, version ∈ nullableVersions := by
    rw [Bool.not_eq_true', VersionSet.isEmpty_eq_false_iff]
  refine ⟨hasType, type.isDeclaredAs_declared named _, ?_, ?_, ?_⟩
  · intro mayBeNull
    simp only [isNullable.mpr mayBeNull, type.declared_true]
    exact type.boxed_not_mem named
  · intro isNull
    rcases FieldType.accepts_initializer initialized with ⟨nullable, -⟩ | accepts
    · exact isNullable.mp nullable
    · exact absurd (isNull ▸ accepts) type.not_accepts_null
  · intro notNull
    rcases FieldType.accepts_initializer initialized with ⟨-, isNull⟩ | accepts
    · exact absurd isNull notNull
    · exact accepts

/-- A field that may be null in some versions, with a default in hexadecimal digits. -/
def offsetAttributes (default : Json) : FieldAttributes where
  name := "StartOffset"
  type := "uint32"
  versions := "1+"
  nullableVersions := some "3"
  taggedVersions := none
  tag := none
  default := some default
  about := none
  ignorable := false
  mapKey := false
  entityType := none

theorem initial_value_fits_offset : ∃ counted missing,
    resolve (gappedContext .empty) (offsetAttributes (.string "0xFFFFFFFF")) = .ok counted ∧
    (counted.memberType, counted.initialValue) = ("Long", "4294967295L") ∧
    (FieldType.primitive .uint32).Accepts "4294967295L" ∧
    resolve (gappedContext .empty) (offsetAttributes .null) = .ok missing ∧
    (missing.memberType, missing.initialValue) = ("Long", "null") ∧
    "Long" ∉ primitiveClassTypes := by
  have countedResult :
      (resolve (gappedContext .empty) (offsetAttributes (.string "0xFFFFFFFF"))).toOption.map
        (fun field => (field.type, field.memberType, field.initialValue)) =
      some (.primitive .uint32, "Long", "4294967295L") := by
    decide +kernel
  have missingResult :
      (resolve (gappedContext .empty) (offsetAttributes .null)).toOption.map
        (fun field => (field.memberType, field.initialValue)) = some ("Long", "null") := by
    decide +kernel
  rcases Except.exists_ok_of_map_toOption countedResult with ⟨counted, countedMade, isCounted⟩
  rcases Except.exists_ok_of_map_toOption missingResult with ⟨missing, missingMade, isMissing⟩
  simp only [Prod.mk.injEq] at isCounted isMissing
  have countedFits := initial_value_fits countedMade
  have missingFits := initial_value_fits missingMade
  rw [isCounted.1, isCounted.2.1, isCounted.2.2] at countedFits
  rw [isMissing.1, isMissing.2] at missingFits
  refine ⟨counted, missing, countedMade, by rw [isCounted.2.1, isCounted.2.2], ?_, missingMade,
    by rw [isMissing.1, isMissing.2], ?_⟩
  · exact countedFits.2.2.2.2 (by decide)
  · exact missingFits.2.2.1 (missingFits.2.2.2.1 rfl)

end ResolvedField

end MessageGen
