import MessageGen.Proofs.Class.Names
import MessageGen.Proofs.Schema.TypeTexts
import MessageGen.Proofs.Text.Characters

/-!
# Legal names

Identifiers are made of ASCII characters, and the case mappings keep them so. What
camel-casing can change is the front of a name: the underscores there are dropped, and a
digit behind them comes to stand first. No reserved word has an underscore, so the one
that is put behind a reserved word always leads out of the list.
-/

namespace MessageGen

open Text

variable {character : Char} {text : List Char} {name : String}

section Characters

theorem toNat_lt_of_isIdentifierPart (isPart : isIdentifierPart character = true) :
    character.toNat < 128 := by
  have bound {last : Char} (below : character ≤ last) : character.toNat ≤ last.toNat :=
    UInt32.le_iff_toNat_le.mp below
  rcases TypeText.isIdentifierPart_iff.mp isPart with
    ⟨-, upper⟩ | ⟨-, lower⟩ | ⟨-, digit⟩ | rfl | rfl
  · exact Nat.lt_of_le_of_lt (bound upper) (by decide)
  · exact Nat.lt_of_le_of_lt (bound lower) (by decide)
  · exact Nat.lt_of_le_of_lt (bound digit) (by decide)
  · decide
  · decide

/-- What holds of the characters of identifiers can be seen from the code points of ASCII. -/
@[elab_as_elim]
theorem isIdentifierPart_cases {motive : Char → Prop} (character : Char)
    (isPart : isIdentifierPart character = true)
    (holds : ∀ codePoint < 128, isIdentifierPart (Char.ofNat codePoint) = true →
      motive (Char.ofNat codePoint)) : motive character := by
  have isAscii := toNat_lt_of_isIdentifierPart isPart
  revert isPart
  exact ascii_cases character isAscii holds

theorem isIdentifierPart_toUpper (isPart : isIdentifierPart character = true) :
    isIdentifierPart character.toUpper = true :=
  isIdentifierPart_cases character isPart (by decide)

theorem isIdentifierPart_toLower (isPart : isIdentifierPart character = true) :
    isIdentifierPart character.toLower = true :=
  isIdentifierPart_cases character isPart (by decide)

theorem isIdentifierStart_toLower (isPart : isIdentifierPart character = true) :
    isIdentifierStart character.toLower = isIdentifierStart character :=
  isIdentifierPart_cases character isPart (by decide)

/-- An identifier can start with all characters that it can have, but digits. -/
theorem isIdentifierStart_eq (isPart : isIdentifierPart character = true) :
    isIdentifierStart character = !character.isDigit :=
  isIdentifierPart_cases character isPart (by decide)

end Characters

section Members

theorem isIdentifierPart_of_mem_joinWords (capitalizeNext : Bool)
    (areParts : ∀ character ∈ text, isIdentifierPart character = true) :
    ∀ character ∈ joinWords capitalizeNext text, isIdentifierPart character = true := by
  fun_induction joinWords capitalizeNext text with
  | case1 => exact areParts
  | case2 capitalizeNext rest ih => exact ih (List.forall_mem_cons.mp areParts).2
  | case3 capitalizeNext first rest different ih =>
      rcases List.forall_mem_cons.mp areParts with ⟨isPart, restParts⟩
      rw [upperCase_of_ascii (toNat_lt_of_isIdentifierPart isPart)]
      intro character character_mem
      rcases List.mem_append.mp character_mem with isFirst | inRest
      · split at isFirst
        · rw [List.mem_singleton.mp isFirst]
          exact isIdentifierPart_toUpper isPart
        · rw [List.mem_singleton.mp isFirst]
          exact isPart
      · exact ih restParts character inRest

/-- The camel-case form of an identifier starts with its first character that is no underscore. -/
theorem camelCase_eq (areParts : ∀ character ∈ text, isIdentifierPart character = true) :
    camelCase text = [] ∧ text.find? (· != '_') = none ∨
      ∃ first rest, camelCase text = first.toLower :: rest ∧
        text.find? (· != '_') = some first ∧ isIdentifierPart first = true ∧
        ∀ character ∈ rest, isIdentifierPart character = true := by
  have isFound : text.find? (· != '_') = (text.dropWhile (· == '_')).head? := by
    simp [List.find?_eq_head?_dropWhile_not, bne]
  rw [isFound, camelCase]
  cases words : text.dropWhile (· == '_') with
  | nil => exact .inl ⟨rfl, rfl⟩
  | cons first rest =>
      have wordParts : ∀ character ∈ first :: rest, isIdentifierPart character = true := by
        intro character character_mem
        rw [← words] at character_mem
        exact areParts character (List.dropWhile_subset _ character_mem)
      rcases List.forall_mem_cons.mp wordParts with ⟨isPart, restParts⟩
      refine .inr ⟨first, joinWords false rest, ?_, rfl, isPart, ?_⟩
      · simp [lowerCase_of_ascii (toNat_lt_of_isIdentifierPart isPart)]
      · exact isIdentifierPart_of_mem_joinWords false restParts

theorem isIdentifierPart_of_mem_camelCase
    (areParts : ∀ character ∈ text, isIdentifierPart character = true) :
    ∀ character ∈ camelCase text, isIdentifierPart character = true := by
  rcases camelCase_eq areParts with ⟨isEmpty, -⟩ | ⟨first, rest, isForm, -, isPart, restParts⟩
  · simp [isEmpty]
  · rw [isForm, List.forall_mem_cons]
    exact ⟨isIdentifierPart_toLower isPart, restParts⟩

theorem isIdentifier_camelCase_iff
    (areParts : ∀ character ∈ text, isIdentifierPart character = true) :
    isIdentifier (camelCase text) = true ↔
      ∃ first, text.find? (· != '_') = some first ∧ first.isDigit = false := by
  rcases camelCase_eq areParts with
    ⟨isEmpty, isFound⟩ | ⟨first, rest, isForm, isFound, isPart, restParts⟩
  · simp [isEmpty, isFound, isIdentifier]
  · have allParts : rest.all isIdentifierPart = true := List.all_eq_true.mpr restParts
    simp [isForm, isFound, isIdentifier, isIdentifierStart_toLower isPart,
      isIdentifierStart_eq isPart, allParts]

end Members

section Reserved

theorem reservedWords_plain : ∀ word ∈ reservedWords,
    '_' ∉ word.toList ∧ isIdentifier word.toList = true := by
  decide +kernel

theorem isIdentifier_append_underscore (isName : isIdentifier text = true) :
    isIdentifier (text ++ ['_']) = true := by
  cases text with
  | nil => cases isName
  | cons first rest => simpa [isIdentifier, isIdentifierPart, isIdentifierStart] using isName

theorem isIdentifier_safeIdentifier (name : String) :
    isIdentifier (safeIdentifier name).toList = isIdentifier name.toList := by
  unfold safeIdentifier
  split
  · rename_i isReserved
    have plain := (reservedWords_plain name (List.contains_iff_mem.mp isReserved)).2
    rw [plain, String.toList_append]
    exact isIdentifier_append_underscore plain
  · rfl

theorem safeIdentifier_not_mem_reservedWords (name : String) :
    safeIdentifier name ∉ reservedWords := by
  unfold safeIdentifier
  split
  · intro marked_mem
    exact (reservedWords_plain _ marked_mem).1 (by simp)
  · rename_i notReserved
    simpa using notReserved

theorem mem_safeIdentifier (character_mem : character ∈ (safeIdentifier name).toList) :
    character ∈ name.toList ∨ character = '_' := by
  unfold safeIdentifier at character_mem
  split at character_mem
  · simpa using character_mem
  · exact .inl character_mem

end Reserved

/-- Members of fields that are named by identifiers have no other characters than identifiers. -/
theorem isIdentifierPart_of_mem_memberName (isName : isIdentifier name.toList = true) :
    ∀ character ∈ (memberName name).toList, isIdentifierPart character = true := by
  intro character character_mem
  rcases mem_safeIdentifier character_mem with inForm | rfl
  · rw [camelCaseName, String.toList_ofList] at inForm
    exact isIdentifierPart_of_mem_camelCase (isIdentifierPart_of_mem isName) character inForm
  · decide

/--
The name of a member is never reserved. If its field is named by an identifier, it is made
of the characters of identifiers, and it is one exactly if the name of the field has some
character that is no underscore, and the first of these is no digit.
-/
theorem member_name_legal_iff (isName : isIdentifier name.toList = true) :
    memberName name ∉ reservedWords ∧
    (∀ character ∈ (memberName name).toList, isIdentifierPart character = true) ∧
    (isIdentifier (memberName name).toList = true ↔
      ∃ first, name.toList.find? (· != '_') = some first ∧ first.isDigit = false) := by
  refine ⟨safeIdentifier_not_mem_reservedWords _, isIdentifierPart_of_mem_memberName isName, ?_⟩
  rw [memberName, isIdentifier_safeIdentifier, camelCaseName, String.toList_ofList]
  exact isIdentifier_camelCase_iff (isIdentifierPart_of_mem isName)

/-- A name that becomes a reserved word, and one in which a digit comes to stand first. -/
theorem member_name_legal_class :
    (isIdentifier "_Class".toList = true ∧ memberName "_Class" = "class_" ∧
      memberName "_Class" ∉ reservedWords ∧ isIdentifier (memberName "_Class").toList = true) ∧
    isIdentifier "_1_st".toList = true ∧ memberName "_1_st" = "1St" ∧
      isIdentifier (memberName "_1_st").toList = false := by
  have classLegal := member_name_legal_iff (by decide : isIdentifier "_Class".toList = true)
  have digitLegal := member_name_legal_iff (by decide : isIdentifier "_1_st".toList = true)
  refine ⟨⟨by decide, by decide, classLegal.1, ?_⟩, by decide, by decide, ?_⟩
  · exact classLegal.2.2.mpr ⟨'C', by decide⟩
  · rw [← Bool.not_eq_true, digitLegal.2.2]
    rintro ⟨first, isFirst, notDigit⟩
    cases isFirst
    cases notDigit

/-- The name of a field can be an identifier, and that of its member not. -/
theorem member_name_not_legal_digit : ¬∀ name : String, isIdentifier name.toList = true →
    (∃ character ∈ name.toList, character ≠ '_') →
      isIdentifier (memberName name).toList = true ∧ memberName name ∉ reservedWords := by
  intro alwaysLegal
  have notIdentifier : isIdentifier (memberName "_1").toList = false := by decide
  rw [(alwaysLegal "_1" (by decide) ⟨'1', by decide⟩).1] at notIdentifier
  cases notIdentifier

end MessageGen
