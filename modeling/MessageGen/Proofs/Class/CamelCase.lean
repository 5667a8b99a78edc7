import Mathlib.Data.List.TakeWhile
import MessageGen.Proofs.Class.Names

/-!
# Camel-case forms

The camel-case form of a name is made of its words, which underscores separate: the first
word starts with a small letter, the others with capitals. So it depends on the words
alone, and not on how many underscores stand between them or around them. A form has no
underscores and starts with a small letter already, so that it is its own form.
-/

namespace MessageGen

open Text

variable {name other text first : List Char} {others : List (List Char)} {character : Char}

/-- The words of a name. -/
def words (name : List Char) : List (List Char) :=
  (name.splitOn '_').filter (· ≠ [])

example : words "__foo__Bar_".toList = ["foo".toList, "Bar".toList] := by decide

/-- Makes the first letter of a word small. -/
def uncapitalize : List Char → List Char
  | [] => []
  | first :: rest => lowerCase first ++ rest

/-- Joins words so that all but the first start with a capital. -/
def joinCapitalized : List (List Char) → List Char
  | [] => []
  | first :: others => uncapitalize first ++ others.flatMap capitalize

/-- A text of underscores. -/
def underscores (count : Nat) : String :=
  String.ofList (List.replicate count '_')

section Words

theorem words_append_underscore (front back : List Char) :
    words (front ++ '_' :: back) = words front ++ words back := by
  simp only [words, List.splitOn_append_cons_self, List.filter_append]

@[simp]
theorem words_nil : words [] = [] :=
  rfl

@[simp]
theorem words_underscore_cons (name : List Char) : words ('_' :: name) = words name :=
  words_append_underscore [] name

theorem words_of_not_mem (noUnderscore : '_' ∉ name) (nonempty : name ≠ []) :
    words name = [name] := by
  simp [words, List.splitOn_eq_singleton noUnderscore, nonempty]

theorem words_replicate_append (count : Nat) (name : List Char) :
    words (List.replicate count '_' ++ name) = words name := by
  induction count with
  | zero => rfl
  | succ count ih => rw [List.replicate_succ, List.cons_append, words_underscore_cons, ih]

theorem words_append_replicate (name : List Char) (count : Nat) :
    words (name ++ List.replicate count '_') = words name := by
  cases count with
  | zero => simp
  | succ count =>
      have noWords := words_replicate_append count []
      rw [List.append_nil] at noWords
      rw [List.replicate_succ, words_append_underscore, noWords, words_nil, List.append_nil]

theorem words_append_replicate_append (front back : List Char) (count : Nat) :
    words (front ++ List.replicate (count + 1) '_' ++ back) = words (front ++ '_' :: back) := by
  rw [List.append_assoc, List.replicate_succ, List.cons_append, words_append_underscore,
    words_replicate_append, words_append_underscore]

theorem words_dropWhile (name : List Char) : words (name.dropWhile (· == '_')) = words name := by
  induction name with
  | nil => rfl
  | cons character name ih =>
      by_cases isUnderscore : character = '_'
      · simpa [isUnderscore] using ih
      · simp [isUnderscore]

theorem exists_splitOn_eq_cons (text : List Char) :
    ∃ first others, text.splitOn '_' = first :: others :=
  List.exists_cons_of_ne_nil (List.splitOn_ne_nil '_' text)

theorem splitOn_cons_of_ne (different : character ≠ '_')
    (pieces : text.splitOn '_' = first :: others) :
    (character :: text).splitOn '_' = (character :: first) :: others := by
  rw [List.splitOn_cons_eq_if_modifyHead, if_neg (by simpa using different), pieces,
    List.modifyHead_cons]

theorem words_cons_of_ne (different : character ≠ '_')
    (pieces : text.splitOn '_' = first :: others) :
    words (character :: text) = (character :: first) :: others.filter (· ≠ []) := by
  simp [words, splitOn_cons_of_ne different pieces]

end Words

section Forms

theorem flatMap_capitalize_filter (pieces : List (List Char)) :
    (pieces.filter (· ≠ [])).flatMap capitalize = pieces.flatMap capitalize := by
  induction pieces with
  | nil => rfl
  | cons piece pieces ih =>
      cases piece with
      | nil => simpa [capitalize] using ih
      | cons first rest => simpa using ih

/-- Behind the first piece of a text, every piece starts with a capital. -/
theorem joinWords_eq {capitalizeNext : Bool} (pieces : text.splitOn '_' = first :: others) :
    joinWords capitalizeNext text =
      (if capitalizeNext then capitalize first else first) ++ others.flatMap capitalize := by
  fun_induction joinWords capitalizeNext text generalizing first others with
  | case1 capitalizeNext =>
      obtain ⟨rfl, rfl⟩ : [] = first ∧ [] = others := by simpa using pieces
      cases capitalizeNext <;> rfl
  | case2 capitalizeNext rest ih =>
      rcases exists_splitOn_eq_cons rest with ⟨second, later, laterPieces⟩
      have isEmpty : ('_' :: rest).splitOn '_' = [] :: second :: later := by
        rw [← laterPieces]
        exact List.splitOn_append_cons_self [] rest
      obtain ⟨rfl, rfl⟩ : [] = first ∧ second :: later = others := by
        simpa [pieces] using isEmpty.symm
      rw [ih laterPieces]
      cases capitalizeNext <;> simp [capitalize]
  | case3 capitalizeNext character rest different ih =>
      rcases exists_splitOn_eq_cons rest with ⟨second, later, laterPieces⟩
      obtain ⟨rfl, rfl⟩ : character :: second = first ∧ later = others := by
        simpa [pieces] using (splitOn_cons_of_ne different laterPieces).symm
      rw [ih laterPieces]
      cases capitalizeNext <;> simp [capitalize]

/-- The camel-case form of a name joins its words. -/
theorem camelCase_eq_joinCapitalized (name : List Char) :
    camelCase name = joinCapitalized (words name) := by
  rw [← words_dropWhile, camelCase]
  cases letters : name.dropWhile (· == '_') with
  | nil => rfl
  | cons character rest =>
      rcases exists_splitOn_eq_cons rest with ⟨first, others, pieces⟩
      simp only [words_cons_of_ne (ne_underscore_of_dropWhile letters) pieces, joinWords_eq pieces,
        joinCapitalized, uncapitalize, flatMap_capitalize_filter, Bool.false_eq_true, if_false,
        List.append_assoc]

theorem camelCase_eq_of_words_eq (same : words name = words other) :
    camelCase name = camelCase other := by
  rw [camelCase_eq_joinCapitalized, same, camelCase_eq_joinCapitalized]

/-- A form is empty for want of letters, or it starts with a letter that is small already. -/
theorem camelCase_cases (name : List Char) :
    camelCase name = [] ∧ (∀ character ∈ name, character = '_') ∨
      (∃ character ∈ name, character ≠ '_') ∧
        ∃ first rest, camelCase name = first :: rest ∧ lowerCase first = [first] := by
  cases letters : name.dropWhile (· == '_') with
  | nil =>
      refine .inl ⟨by rw [camelCase, letters], ?_⟩
      simpa using List.dropWhile_eq_nil_iff.mp letters
  | cons character rest =>
      have character_mem : character ∈ name :=
        List.dropWhile_subset _ (letters ▸ List.mem_cons_self)
      rcases exists_lowerCase_eq_cons character with ⟨first, others, mapped, isSmall⟩
      refine .inr ⟨⟨character, character_mem, ne_underscore_of_dropWhile letters⟩,
        first, others ++ joinWords false rest, ?_, isSmall⟩
      rw [camelCase, letters]
      simp only [mapped, List.cons_append]

theorem camelCase_eq_nil_iff : camelCase name = [] ↔ ∀ character ∈ name, character = '_' := by
  rcases camelCase_cases name with
    ⟨isEmpty, noLetter⟩ | ⟨⟨character, character_mem, different⟩, first, rest, isForm, -⟩
  · exact iff_of_true isEmpty noLetter
  · refine iff_of_false (by simp [isForm]) ?_
    intro noLetter
    exact different (noLetter character character_mem)

theorem camelCase_camelCase (name : List Char) : camelCase (camelCase name) = camelCase name := by
  rcases camelCase_cases name with ⟨isEmpty, -⟩ | ⟨-, first, rest, isForm, isSmall⟩
  · rw [isEmpty]
    rfl
  · have noUnderscore := underscore_not_mem_camelCase name
    rw [isForm] at noUnderscore ⊢
    rw [camelCase_eq_joinCapitalized, words_of_not_mem noUnderscore (List.cons_ne_nil first rest)]
    simp [joinCapitalized, uncapitalize, isSmall]

end Forms

section OnePass

/--
Extends a form by a character of its name. A capital is due next if an underscore was met
behind the first letter.
-/
def extendForm (form : List Char × Bool) (character : Char) : List Char × Bool :=
  if character = '_' then (form.1, !form.1.isEmpty)
  else if form.1.isEmpty then (lowerCase character, form.2)
  else if form.2 then (form.1 ++ upperCase character, false)
  else (form.1 ++ [character], form.2)

/-- Once there is some text, the rest of the name is joined to it. -/
theorem foldl_extendForm (nonempty : text ≠ []) (capitalizeNext : Bool) (name : List Char) :
    (name.foldl extendForm (text, capitalizeNext)).1 = text ++ joinWords capitalizeNext name := by
  induction name generalizing text capitalizeNext with
  | nil => simp [joinWords]
  | cons character name ih =>
      have notEmpty : text.isEmpty = false := by simpa using nonempty
      rw [List.foldl_cons, joinWords, extendForm]
      by_cases isUnderscore : character = '_'
      · simp [isUnderscore, notEmpty, ih nonempty]
      · cases capitalizeNext <;> simp [isUnderscore, notEmpty, nonempty, ih]

/--
The camel-case form can be built in one pass. As no lower-case mapping is empty, the text
is empty just as long as only underscores were met.
-/
theorem camelCase_eq_foldl (name : List Char) :
    camelCase name = (name.foldl extendForm ([], false)).1 := by
  induction name with
  | nil => rfl
  | cons character name ih =>
      by_cases isUnderscore : character = '_'
      · rw [List.foldl_cons]
        simpa [extendForm, camelCase, isUnderscore] using ih
      · have filled : lowerCase character ≠ [] := by
          rcases exists_lowerCase_eq_cons character with ⟨first, others, mapped, -⟩
          simp [mapped]
        rw [List.foldl_cons]
        simp [extendForm, camelCase, isUnderscore, foldl_extendForm filled]

end OnePass

/--
The camel-case form of a name joins its words and is a normal form. It has no underscores,
is its own form, and is empty exactly if the name is made of underscores alone. Underscores
make no difference around a name, and between two parts of it any number of them is as good
as one.
-/
theorem camelCaseName_normal_form (name : String) :
    camelCaseName name = String.ofList (joinCapitalized (words name.toList)) ∧
    '_' ∉ (camelCaseName name).toList ∧
    camelCaseName (camelCaseName name) = camelCaseName name ∧
    (camelCaseName name = "" ↔ ∀ character ∈ name.toList, character = '_') ∧
    (∀ before after,
      camelCaseName (underscores before ++ name ++ underscores after) = camelCaseName name) ∧
    ∀ front back count,
      camelCaseName (front ++ underscores (count + 1) ++ back) =
        camelCaseName (front ++ "_" ++ back) := by
  refine ⟨?_, underscore_not_mem_camelCaseName name, ?_, ?_, ?_, ?_⟩
  · rw [camelCaseName, camelCase_eq_joinCapitalized]
  · rw [camelCaseName, camelCaseName, String.toList_ofList, camelCase_camelCase]
  · rw [camelCaseName, String.ofList_eq_empty_iff, camelCase_eq_nil_iff]
  · intro before after
    have sameWords :
        words (List.replicate before '_' ++ name.toList ++ List.replicate after '_') =
          words name.toList := by
      rw [words_append_replicate, words_replicate_append]
    simpa [camelCaseName, underscores] using congrArg String.ofList
      (camelCase_eq_of_words_eq sameWords)
  · intro front back count
    have sameWords := words_append_replicate_append front.toList back.toList count
    simpa [camelCaseName, underscores] using congrArg String.ofList
      (camelCase_eq_of_words_eq sameWords)

end MessageGen
