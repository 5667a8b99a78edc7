import MessageGen.Proofs.Outcome
import MessageGen.Proofs.Structure.Definition
import MessageGen.Schema.FieldType

/-!
# Texts of types

A type is written as any number of brackets in front of the name of a primitive type or of
a structure. Exactly these texts are read as types, and a type is written as the text that
it was read from. The names of primitive types are small and those of structures are not,
so no text stands for two types.
-/

namespace MessageGen

namespace TypeText

/-- Whether a text is the name of a primitive type. -/
def IsPrimitiveName (text : List Char) : Prop :=
  ∃ type : PrimitiveType, type.name.toList = text

/-- Whether a character is an ASCII letter or digit, an underscore or a dollar sign. -/
def IsNameCharacter (character : Char) : Prop :=
  'A' ≤ character ∧ character ≤ 'Z' ∨ 'a' ≤ character ∧ character ≤ 'z' ∨
    '0' ≤ character ∧ character ≤ '9' ∨ character = '_' ∨ character = '$'

/-- Whether a text is an ASCII identifier with a capital letter in front. -/
def IsCapitalName (text : List Char) : Prop :=
  (∃ first ∈ text.head?, 'A' ≤ first ∧ first ≤ 'Z') ∧
    ∀ character ∈ text, IsNameCharacter character

/-- Whether a text is the name of a type that is no array. -/
def IsElementName (text : List Char) : Prop :=
  IsPrimitiveName text ∨ IsCapitalName text

/-- A text behind a number of pairs of brackets. -/
def nested (depth : Nat) (element : List Char) : List Char :=
  (List.replicate depth ['[', ']']).flatten ++ element

@[simp]
theorem nested_zero (element : List Char) : nested 0 element = element :=
  rfl

@[simp]
theorem nested_succ (depth : Nat) (element : List Char) :
    nested (depth + 1) element = '[' :: ']' :: nested depth element :=
  rfl

/-- Whether a text is the text of a type. -/
def IsTypeText (text : List Char) : Prop :=
  ∃ depth element, IsElementName element ∧ text = nested depth element

variable {text element : List Char} {character : Char}

section Names

theorem isUpper_iff : character.isUpper = true ↔ 'A' ≤ character ∧ character ≤ 'Z' :=
  decide_eq_true_iff

theorem isLower_iff : character.isLower = true ↔ 'a' ≤ character ∧ character ≤ 'z' :=
  Bool.and_eq_true_iff.trans (and_congr decide_eq_true_iff decide_eq_true_iff)

theorem isDigit_iff : character.isDigit = true ↔ '0' ≤ character ∧ character ≤ '9' :=
  Bool.and_eq_true_iff.trans (and_congr decide_eq_true_iff decide_eq_true_iff)

theorem isAlpha_iff : character.isAlpha = true ↔
    character.isUpper = true ∨ character.isLower = true :=
  Bool.or_eq_true_iff

theorem isIdentifierPart_iff : isIdentifierPart character = true ↔ IsNameCharacter character := by
  simp only [isIdentifierPart, isIdentifierStart, IsNameCharacter, Bool.or_eq_true, beq_iff_eq,
    isAlpha_iff, isUpper_iff, isLower_iff, isDigit_iff]
  tauto

theorem isStructureName_iff : FieldType.isStructureName text = true ↔ IsCapitalName text := by
  cases text with
  | nil => simp [FieldType.isStructureName, isIdentifier, IsCapitalName]
  | cons first rest =>
      have startsName : first.isUpper = true →
          isIdentifierStart first = true ∧ isIdentifierPart first = true := by
        intro isUpper
        simp [isIdentifierPart, isIdentifierStart, isAlpha_iff, isUpper]
      simp only [FieldType.isStructureName, isIdentifier, IsCapitalName, ← isUpper_iff,
        ← isIdentifierPart_iff]
      simp
      tauto

theorem IsCapitalName.not_isPrimitiveName (isName : IsCapitalName text) :
    ¬IsPrimitiveName text := by
  rintro ⟨type, rfl⟩
  rw [← isStructureName_iff] at isName
  cases type <;> exact absurd isName (by decide)

/-- No name of a type starts with a bracket. -/
theorem IsElementName.head_ne_bracket (isName : IsElementName text) (rest : List Char) :
    text ≠ '[' :: rest := by
  rintro rfl
  rcases isName with ⟨type, isPrimitive⟩ | ⟨⟨first, ⟨⟩, isUpper⟩, -⟩
  · cases type <;> simp [PrimitiveType.name] at isPrimitive
  · exact absurd isUpper (by decide)

end Names

end TypeText

open TypeText

namespace FieldType

variable {field : String} {text element : List Char} {type : FieldType}

theorem toList_wireName_array (element : FieldType) :
    (array element).wireName.toList = '[' :: ']' :: element.wireName.toList := by
  simp [wireName]

theorem wireName_of_parseText (parsed : parseText field text = .ok type) :
    type.wireName.toList = text := by
  fun_induction parseText field text generalizing type with
  | case1 element isEmpty => cases parsed
  | case2 element nonempty ih =>
      rcases Except.map_eq_ok_iff.mp parsed with ⟨elementType, elementParsed, rfl⟩
      rw [toList_wireName_array, ih elementParsed]
  | case3 text primitive found notArray =>
      simp only [found, Except.ok.injEq] at parsed
      subst parsed
      simp [wireName, PrimitiveType.name_of_ofName? found]
  | case4 text notPrimitive isName notArray =>
      simp only [notPrimitive, isName, if_true, Except.ok.injEq] at parsed
      subst parsed
      simp [wireName]
  | case5 text notPrimitive notName notArray => simp [notPrimitive, notName] at parsed

/-- The text of a type is read as the type if its structure can have the name that it has. -/
theorem parseText_wireName (named : ∀ name ∈ type.structureName?, IsCapitalName name.toList) :
    parseText field type.wireName.toList = .ok type := by
  induction type with
  | primitive primitive => cases primitive <;> rfl
  | struct name =>
      have isName : IsCapitalName name.toList := named name rfl
      have noBrackets := (show IsElementName name.toList from .inr isName).head_ne_bracket
      rw [wireName]
      unfold parseText
      split
      · rename_i isArray
        exact absurd isArray (noBrackets _)
      · split
        · rename_i primitive found
          rw [String.ofList_toList] at found
          have isPrimitive : IsPrimitiveName name.toList :=
            ⟨primitive, by rw [PrimitiveType.name_of_ofName? found]⟩
          exact absurd isPrimitive isName.not_isPrimitiveName
        · rw [if_pos (isStructureName_iff.mpr isName), String.ofList_toList]
  | array element ih =>
      have parsed := ih named
      have nonempty : element.wireName.toList.isEmpty = false := by
        cases written : element.wireName.toList with
        | nil =>
            rw [written] at parsed
            cases parsed
        | cons first rest => rfl
      rw [toList_wireName_array, parseText, if_neg (by simp [nonempty]), parsed]
      rfl

/-- A text is read as a type exactly if the type is written so, and its structure can be. -/
theorem parseText_eq_ok_iff : parseText field text = .ok type ↔
    type.wireName.toList = text ∧ ∀ name ∈ type.structureName?, IsCapitalName name.toList := by
  constructor
  · intro parsed
    refine ⟨wireName_of_parseText parsed, ?_⟩
    intro name names
    exact isStructureName_iff.mp (isStructureName_of_parseText parsed names)
  · rintro ⟨rfl, named⟩
    exact parseText_wireName named

theorem exists_nested_of_parseText_error {error : GenerationError}
    (refused : parseText field text = .error error) :
    ∃ depth rest, text = nested depth rest ∧
      error = .unsupportedType field (String.ofList rest) := by
  fun_induction parseText field text with
  | case1 element isEmpty => exact ⟨0, _, rfl, (Except.error.inj refused).symm⟩
  | case2 element nonempty ih =>
      rcases ih (Except.map_eq_error_iff.mp refused) with ⟨depth, rest, rfl, isError⟩
      exact ⟨depth + 1, rest, rfl, isError⟩
  | case3 text primitive found notArray => simp [found] at refused
  | case4 text notPrimitive isName notArray => simp [notPrimitive, isName] at refused
  | case5 text notPrimitive notName notArray =>
      simp only [notPrimitive, notName, Bool.false_eq_true, if_false, Except.error.injEq] at refused
      exact ⟨0, text, rfl, refused.symm⟩

theorem isTypeText_wireName (named : ∀ name ∈ type.structureName?, IsCapitalName name.toList) :
    IsTypeText type.wireName.toList := by
  induction type with
  | primitive primitive => exact ⟨0, _, .inl ⟨primitive, rfl⟩, rfl⟩
  | struct name => exact ⟨0, _, .inr (named name rfl), rfl⟩
  | array element ih =>
      rcases ih named with ⟨depth, inner, isName, written⟩
      exact ⟨depth + 1, inner, isName, by rw [toList_wireName_array, written, nested_succ]⟩

/-- Every text of the grammar is written for some type, with as many arrays as brackets. -/
theorem exists_wireName_eq_nested (isName : IsElementName element) (depth : Nat) :
    ∃ type : FieldType, type.wireName.toList = nested depth element ∧ type.arrayDepth = depth ∧
      ∀ name, type.structureName? = some name ↔
        name.toList = element ∧ ¬IsPrimitiveName element := by
  induction depth with
  | zero =>
      rcases isName with ⟨primitive, rfl⟩ | isCapital
      · have isPrimitive : IsPrimitiveName primitive.name.toList := ⟨primitive, rfl⟩
        exact ⟨.primitive primitive, rfl, rfl, by simp [structureName?, isPrimitive]⟩
      · refine ⟨.struct (String.ofList element), by simp [wireName], rfl, ?_⟩
        intro name
        simp [structureName?, isCapital.not_isPrimitiveName, ← String.toList_inj, eq_comm]
  | succ depth ih =>
      rcases ih with ⟨inner, written, isDepth, names⟩
      refine ⟨.array inner, ?_, ?_, names⟩
      · rw [toList_wireName_array, written, nested_succ]
      · rw [arrayDepth, isDepth]

theorem exists_parse_of_nested (field : String) (isName : IsElementName element) (depth : Nat) :
    ∃ type, parseText field (nested depth element) = .ok type ∧ type.arrayDepth = depth ∧
      ∀ name, type.structureName? = some name ↔
        name.toList = element ∧ ¬IsPrimitiveName element := by
  rcases exists_wireName_eq_nested isName depth with ⟨type, written, isDepth, names⟩
  refine ⟨type, parseText_eq_ok_iff.mpr ⟨written, ?_⟩, isDepth, names⟩
  intro name hasName
  rcases (names name).mp hasName with ⟨rfl, notPrimitive⟩
  exact isName.resolve_left notPrimitive

theorem exists_parse_iff : (∃ type, parseText field text = .ok type) ↔ IsTypeText text := by
  constructor
  · rintro ⟨type, parsed⟩
    rcases parseText_eq_ok_iff.mp parsed with ⟨rfl, named⟩
    exact isTypeText_wireName named
  · rintro ⟨depth, element, isName, rfl⟩
    rcases exists_parse_of_nested field isName depth with ⟨type, parsed, -⟩
    exact ⟨type, parsed⟩

/--
Exactly the texts of the grammar are read as types. A type is written as the text that it
was read from, and read from the text that it is written as. Every other text is refused
as the type of the field. The type has as many arrays as its text has brackets, and names
the structure behind them unless a primitive type stands there.
-/
theorem parse_inverts_wireName (field : String) :
    (∀ text : String, (∃ type, parse field text = .ok type) ↔ IsTypeText text.toList) ∧
    (∀ text type, parse field text = .ok type → type.wireName = text) ∧
    (∀ type : FieldType, (∀ name ∈ type.structureName?, IsCapitalName name.toList) →
      parse field type.wireName = .ok type) ∧
    (∀ text : String, ¬IsTypeText text.toList → ∃ depth rest, text.toList = nested depth rest ∧
      parse field text = .error (.unsupportedType field (String.ofList rest))) ∧
    (∀ (text : String) type depth element, parse field text = .ok type →
      text.toList = nested depth element → IsElementName element →
        type.arrayDepth = depth ∧ ∀ name, type.structureName? = some name ↔
          name.toList = element ∧ ¬IsPrimitiveName element) := by
  refine ⟨fun text => exists_parse_iff, ?_, ?_, ?_, ?_⟩
  · intro text type parsed
    exact String.toList_injective (wireName_of_parseText parsed)
  · intro type named
    exact parseText_wireName named
  · intro text notType
    rcases Except.exists_error_iff.mpr (mt exists_parse_iff.mp notType) with ⟨error, refused⟩
    rcases exists_nested_of_parseText_error refused with ⟨depth, rest, isNested, rfl⟩
    exact ⟨depth, rest, isNested, refused⟩
  · intro text type depth element parsed isNested isName
    rcases exists_parse_of_nested field isName depth with ⟨other, otherParsed, shape⟩
    rw [parse, isNested, otherParsed] at parsed
    cases parsed
    exact shape

/-- Arrays of arrays of a structure, and brackets without an element. -/
theorem parse_inverts_wireName_brackets :
    parse "Items" "[][]Topic$1" = .ok (.array (.array (.struct "Topic$1"))) ∧
    (FieldType.array (.array (.struct "Topic$1"))).wireName = "[][]Topic$1" ∧
    ∃ depth rest, "[][]".toList = nested depth rest ∧
      parse "Items" "[][]" = .error (.unsupportedType "Items" (String.ofList rest)) := by
  have inverts := parse_inverts_wireName "Items"
  have named : IsCapitalName "Topic$1".toList := isStructureName_iff.mp (by decide)
  have parsed := inverts.2.2.1 (.array (.array (.struct "Topic$1"))) (by simpa [structureName?])
  refine ⟨parsed, inverts.2.1 _ _ parsed, inverts.2.2.2.1 "[][]" ?_⟩
  rw [← inverts.1]
  rintro ⟨type, isRead⟩
  have refused : parse "Items" "[][]" = .error (.unsupportedType "Items" "[]") := by cbv
  cases refused.symm.trans isRead

end FieldType

end MessageGen
