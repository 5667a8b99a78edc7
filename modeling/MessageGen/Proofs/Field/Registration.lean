import Mathlib.Data.List.Nodup
import MessageGen.Proofs.Class.Identifiers
import MessageGen.Proofs.Class.IntegerLiterals
import MessageGen.Proofs.Field.Documentation
import MessageGen.Proofs.Schema.TypeTexts

/-!
# Statements that register fields

The runtime knows a field from the statement that registers it. No line feed stands in a
line of the statement, so its lines can be told apart. The first shows the member and the
type in quotation marks, and each of the others calls one method, whose name ends at the
parenthesis. As the methods are different, a call that is missing is told from one that
is made, and the arguments of those that are made can be read. So nothing that the
runtime is told about a field is lost in its statement.
-/

namespace MessageGen

open Text TypeText

section Characters

variable {type : FieldType} {text : List Char} {character : Char}

theorem Text.decimal_injective : Function.Injective decimal := by
  have readBack : Function.LeftInverse (Nat.ofDigitChars 10 · 0) decimal :=
    fun _ => Nat.ofDigitChars_ten_toDigits
  exact readBack.injective

theorem Text.signedDecimal_injective : Function.Injective signedDecimal := by
  have noSign (size : Nat) (digits : List Char) : decimal size ≠ '-' :: digits := by
    intro same
    have sign_mem : '-' ∈ decimal size := same ▸ List.mem_cons_self
    exact absurd (Json.isDigit_of_mem_decimal sign_mem) (by decide)
  intro left right same
  cases left with
  | ofNat size =>
      cases right with
      | ofNat other => exact congrArg Int.ofNat (decimal_injective same)
      | negSucc predecessor => exact absurd same (noSign size _)
  | negSucc predecessor =>
      cases right with
      | ofNat size => exact absurd same.symm (noSign size _)
      | negSucc other =>
          have sizes := decimal_injective (List.cons.inj same).2
          exact congrArg Int.negSucc (Nat.succ.inj sizes)

theorem not_mem_intercalate {separator : List Char} {pieces : List (List Char)}
    (notSeparator : character ∉ separator) (notPieces : ∀ piece ∈ pieces, character ∉ piece) :
    character ∉ separator.intercalate pieces := by
  induction pieces with
  | nil => simp
  | cons first rest ih =>
      rcases List.forall_mem_cons.mp notPieces with ⟨notFirst, notRest⟩
      cases rest with
      | nil => simpa using notFirst
      | cons second others =>
          simp only [List.intercalate_cons_cons, List.mem_append, not_or]
          exact ⟨⟨notFirst, notSeparator⟩, ih notRest⟩

/-- Versions are listed in digits, commas and spaces. -/
theorem lineFeed_not_mem_listed (set : VersionSet) : '\n' ∉ set.listed.toList := by
  rw [VersionSet.listed, String.toList_intercalate]
  apply not_mem_intercalate
  · decide
  · intro piece piece_mem
    simp only [List.map_map, List.mem_map, Function.comp_apply] at piece_mem
    rcases piece_mem with ⟨version, -, rfl⟩
    exact version.isNumeral_numeral.not_mem rfl

theorem lineFeed_not_mem_signedDecimal (number : Int) : '\n' ∉ signedDecimal number := by
  intro lineFeed_mem
  rcases mem_signedDecimal lineFeed_mem with isSign | isDigit
  · exact absurd isSign (by decide)
  · exact absurd isDigit (by decide)

theorem TypeText.IsCapitalName.lineFeed_not_mem (isName : IsCapitalName text) : '\n' ∉ text := by
  intro lineFeed_mem
  have isPart := isIdentifierPart_iff.mpr (isName.2 '\n' lineFeed_mem)
  exact absurd isPart (by decide)

theorem lineFeed_not_mem_wireName
    (named : ∀ name ∈ type.structureName?, IsCapitalName name.toList) :
    '\n' ∉ type.wireName.toList := by
  induction type with
  | primitive type => cases type <;> decide
  | struct name => exact (named name rfl).lineFeed_not_mem
  | array element ih =>
      rw [FieldType.toList_wireName_array]
      simpa using ih named

end Characters

namespace ResolvedField

/-- Two fields that share everything the runtime is told about a field. -/
structure RegisteredAlike (left right : ResolvedField) : Prop where
  member : left.member = right.member
  type : left.type = right.type
  versions : left.versions = right.versions
  nullableVersions : left.nullableVersions = right.nullableVersions
  taggedVersions : left.taggedVersions = right.taggedVersions
  tag : left.attributes.tag = right.attributes.tag
  ignorable : left.attributes.ignorable = right.attributes.ignorable
  mapKey : left.attributes.mapKey = right.attributes.mapKey

variable {leftContext rightContext context : ClassContext}
  {leftAttributes rightAttributes attributes : FieldAttributes}
  {left right field : ResolvedField} {leftSet rightSet : VersionSet}

section Lines

theorem lineFeed_not_mem_calls
    (named : ∀ name ∈ field.type.structureName?, IsCapitalName name.toList) :
    ∀ call ∈ field.calls, '\n' ∉ call.1.toList ∧ ∀ arguments ∈ call.2, '\n' ∉ arguments.toList := by
  have ofVersions (set : VersionSet) :
      ∀ arguments ∈ textUnlessEmpty (·.listed) set, '\n' ∉ arguments.toList := by
    intro arguments arguments_mem
    rw [textUnlessEmpty] at arguments_mem
    split at arguments_mem
    · cases arguments_mem
    · cases arguments_mem
      exact lineFeed_not_mem_listed set
  have ofFlag (holds : Bool) :
      ∀ arguments ∈ (if holds then some "" else none), '\n' ∉ arguments.toList := by
    cases holds <;> simp
  have ofTag : ∀ arguments ∈ field.attributes.tag.map fun tag =>
      String.ofList (signedDecimal tag), '\n' ∉ arguments.toList := by
    intro arguments arguments_mem
    rcases Option.map_eq_some_iff.mp arguments_mem with ⟨tag, -, rfl⟩
    rw [String.toList_ofList]
    exact lineFeed_not_mem_signedDecimal tag
  have ofStructure : ∀ arguments ∈ field.type.structureName?.map (· ++ ".class"),
      '\n' ∉ arguments.toList := by
    intro arguments arguments_mem
    rcases Option.map_eq_some_iff.mp arguments_mem with ⟨name, isName, rfl⟩
    simpa using (named name isName).lineFeed_not_mem
  simp only [calls, List.forall_mem_cons, List.not_mem_nil, false_implies, implies_true, and_true]
  exact ⟨⟨by decide, by simpa using lineFeed_not_mem_listed field.versions⟩,
    ⟨by decide, ofVersions _⟩, ⟨by decide, ofVersions _⟩, ⟨by decide, ofTag⟩,
    ⟨by decide, ofStructure⟩, ⟨by decide, ofFlag _⟩, ⟨by decide, ofFlag _⟩⟩

theorem head?_registrationLines (field : ResolvedField) : field.registrationLines.head? =
    some ("registerField(" ++ fieldClass ++ ".of(\"" ++ field.member ++ "\", \"" ++
      field.type.wireName ++ "\")") :=
  rfl

theorem lineFeed_not_mem_registrationLines (memberNoFeed : '\n' ∉ field.member.toList)
    (named : ∀ name ∈ field.type.structureName?, IsCapitalName name.toList) :
    ∀ line ∈ field.registrationLines, '\n' ∉ line.toList := by
  rcases exists_registrationLines_eq field with ⟨first, lines⟩
  have isHead := head?_registrationLines field
  rw [lines] at isHead ⊢
  intro line line_mem
  rcases List.mem_cons.mp line_mem with rfl | line_mem
  · rw [Option.some.inj isHead]
    simp [fieldClass, memberNoFeed, lineFeed_not_mem_wireName named]
  · rcases List.mem_flatMap.mp line_mem with ⟨call, call_mem, isClause⟩
    rw [Option.mem_toList, Option.map_eq_some_iff] at isClause
    rcases isClause with ⟨arguments, arguments_mem, rfl⟩
    rcases lineFeed_not_mem_calls named call call_mem with ⟨nameNoFeed, argumentsNoFeed⟩
    simp [clause, nameNoFeed, argumentsNoFeed arguments arguments_mem]

/-- The lines of a statement are what stands between its line feeds. -/
theorem splitOn_registration (memberNoFeed : '\n' ∉ field.member.toList)
    (named : ∀ name ∈ field.type.structureName?, IsCapitalName name.toList) :
    (String.intercalate "\n" field.registrationLines).toList.splitOn '\n' =
      field.registrationLines.map String.toList := by
  rw [String.toList_intercalate]
  apply List.splitOn_intercalate
  · intro piece piece_mem
    rcases List.mem_map.mp piece_mem with ⟨line, line_mem, rfl⟩
    exact lineFeed_not_mem_registrationLines memberNoFeed named line line_mem
  · simp [registrationLines]

end Lines

section Readings

variable {table other : List (String × Option String)} {entry : String × Option String}

theorem mk_some_mem_iff (distinct : (table.map Prod.fst).Nodup) (entry_mem : entry ∈ table)
    (value : String) : (entry.1, some value) ∈ table ↔ entry.2 = some value := by
  constructor
  · intro value_mem
    have sameEntry := List.inj_on_of_nodup_map distinct value_mem entry_mem rfl
    exact (congrArg Prod.snd sameEntry).symm
  · intro isValue
    rwa [← isValue]

/-- If tables have the same distinct names, those of their values that are present decide. -/
theorem table_eq_of_mem_some_iff (names : table.map Prod.fst = other.map Prod.fst)
    (distinct : (table.map Prod.fst).Nodup)
    (agree : ∀ name value, (name, some value) ∈ table ↔ (name, some value) ∈ other) :
    table = other := by
  have otherDistinct := names ▸ distinct
  apply List.ext_getElem
  · simpa using congrArg List.length names
  · intro index inTable inOther
    have sameName : table[index].1 = other[index].1 := by
      have atIndex := congrArg (·[index]?) names
      simpa [inTable, inOther] using atIndex
    refine Prod.ext sameName (Option.ext fun value => ?_)
    rw [← mk_some_mem_iff distinct (List.getElem_mem inTable), agree, sameName,
      mk_some_mem_iff otherDistinct (List.getElem_mem inOther)]

theorem calls_eq (same : left.registrationLines = right.registrationLines) :
    left.calls = right.calls := by
  apply table_eq_of_mem_some_iff
  · rfl
  · simp [calls]
  · intro name arguments
    by_cases noOpen : '(' ∈ name.toList
    -- No method has a parenthesis in its name, so neither table has an entry.
    · constructor <;> intro call_mem <;> exact absurd noOpen (open_not_mem_calls _ call_mem)
    · rw [← clause_mem_registrationLines noOpen, same, clause_mem_registrationLines noOpen]

theorem member_wireName_eq (same : left.registrationLines = right.registrationLines)
    (leftNoQuote : '"' ∉ left.member.toList) (rightNoQuote : '"' ∉ right.member.toList) :
    left.member = right.member ∧ left.type.wireName = right.type.wireName := by
  have heads := congrArg List.head? same
  rw [head?_registrationLines, head?_registrationLines, Option.some.injEq,
    String.append_left_inj] at heads
  have texts : left.member.toList ++ '"' :: (", \"" ++ left.type.wireName).toList =
      right.member.toList ++ '"' :: (", \"" ++ right.type.wireName).toList := by
    simpa [← String.toList_inj] using heads
  have sameMember : left.member = right.member := by
    have members := congrArg (·.takeWhile (· != '"')) texts
    simp only [takeWhile_bne_append leftNoQuote, takeWhile_bne_append rightNoQuote] at members
    exact String.toList_inj.mp members
  refine ⟨sameMember, ?_⟩
  simpa [sameMember, String.toList_inj] using texts

theorem listed_eq_getD (set : VersionSet) :
    set.listed = (textUnlessEmpty (·.listed) set).getD "" := by
  rw [textUnlessEmpty]
  split
  · rename_i isEmpty
    have noMember : set.toList = [] := by
      simpa [VersionSet.isEmpty, VersionSet.toList] using isEmpty
    exact VersionSet.listed_eq_empty_iff.mpr noMember
  · rfl

theorem set_eq_of_textUnlessEmpty_listed
    (same : textUnlessEmpty (·.listed) leftSet = textUnlessEmpty (·.listed) rightSet) :
    leftSet = rightSet := by
  apply VersionSet.listed_injective
  rw [listed_eq_getD, listed_eq_getD, same]

theorem registeredAlike_of_calls_eq (sameMember : left.member = right.member)
    (sameType : left.type = right.type) (sameCalls : left.calls = right.calls) :
    left.RegisteredAlike right := by
  have ofFlags {leftHolds rightHolds : Bool}
      (same : (if leftHolds then some "" else none) = if rightHolds then some "" else none) :
      leftHolds = rightHolds := by
    cases leftHolds <;> cases rightHolds <;> simp_all
  simp only [calls, List.cons.injEq, Prod.mk.injEq, true_and, and_true] at sameCalls
  rcases sameCalls with ⟨versions, nullableVersions, taggedVersions, tag, -, ignorable, mapKey⟩
  exact {
    member := sameMember
    type := sameType
    versions := VersionSet.listed_injective (Option.some.inj versions)
    nullableVersions := set_eq_of_textUnlessEmpty_listed nullableVersions
    taggedVersions := set_eq_of_textUnlessEmpty_listed taggedVersions
    tag := Option.map_injective
      (fun _ _ same => signedDecimal_injective (String.ofList_injective same)) tag
    ignorable := ofFlags ignorable
    mapKey := ofFlags mapKey }

theorem RegisteredAlike.registration_eq (alike : left.RegisteredAlike right) :
    left.registration = right.registration := by
  simp only [registration, registrationLines, alike.member, alike.type, alike.versions,
    alike.nullableVersions, alike.taggedVersions, alike.tag, alike.ignorable, alike.mapKey]

end Readings

section Resolution

theorem not_mem_member {character : Char} (resolved : resolve context attributes = .ok field)
    (isName : isIdentifier attributes.name.toList = true)
    (excluded : isIdentifierPart character = false) : character ∉ field.member.toList := by
  rw [(names_of_resolve resolved).2]
  intro character_mem
  rw [isIdentifierPart_of_mem_memberName isName character character_mem] at excluded
  cases excluded

theorem isCapitalName_of_resolve (resolved : resolve context attributes = .ok field) :
    ∀ name ∈ field.type.structureName?, IsCapitalName name.toList :=
  (FieldType.parseText_eq_ok_iff.mp (parse_of_resolve resolved)).2

theorem type_eq_of_wireName_eq (leftResolved : resolve leftContext leftAttributes = .ok left)
    (rightResolved : resolve rightContext rightAttributes = .ok right)
    (same : left.type.wireName = right.type.wireName) : left.type = right.type := by
  have leftRead : FieldType.parseText "" left.type.wireName.toList = .ok left.type :=
    FieldType.parseText_wireName (isCapitalName_of_resolve leftResolved)
  have rightRead : FieldType.parseText "" right.type.wireName.toList = .ok right.type :=
    FieldType.parseText_wireName (isCapitalName_of_resolve rightResolved)
  rw [same, rightRead] at leftRead
  exact (Except.ok.inj leftRead).symm

theorem registrationLines_eq_of_registration_eq
    (leftResolved : resolve leftContext leftAttributes = .ok left)
    (rightResolved : resolve rightContext rightAttributes = .ok right)
    (leftName : isIdentifier leftAttributes.name.toList = true)
    (rightName : isIdentifier rightAttributes.name.toList = true)
    (same : left.registration = right.registration) :
    left.registrationLines = right.registrationLines := by
  have sameText := (String.append_left_inj ");").mp same
  have pieces : left.registrationLines.map String.toList =
      right.registrationLines.map String.toList := by
    rw [← splitOn_registration (not_mem_member leftResolved leftName rfl)
        (isCapitalName_of_resolve leftResolved),
      ← splitOn_registration (not_mem_member rightResolved rightName rfl)
        (isCapitalName_of_resolve rightResolved), sameText]
  exact List.map_injective_iff.mpr (fun _ _ => String.toList_injective) pieces

end Resolution

/--
The statement that registers a field is made from what the runtime is told about the
field, and it tells all of it: fields that are named by identifiers have the same
statement exactly if they have the same member, type, versions, tag and flags.
-/
theorem registration_eq_iff (leftResolved : resolve leftContext leftAttributes = .ok left)
    (rightResolved : resolve rightContext rightAttributes = .ok right)
    (leftName : isIdentifier leftAttributes.name.toList = true)
    (rightName : isIdentifier rightAttributes.name.toList = true) :
    left.registration = right.registration ↔ left.RegisteredAlike right := by
  constructor
  · intro same
    have sameLines := registrationLines_eq_of_registration_eq leftResolved rightResolved leftName
      rightName same
    rcases member_wireName_eq sameLines (not_mem_member leftResolved leftName rfl)
      (not_mem_member rightResolved rightName rfl) with ⟨sameMember, sameWireName⟩
    have sameType := type_eq_of_wireName_eq leftResolved rightResolved sameWireName
    exact registeredAlike_of_calls_eq sameMember sameType (calls_eq sameLines)
  · exact RegisteredAlike.registration_eq

/-- The same field with a longer tag. -/
def retaggedAttributes : FieldAttributes :=
  { priceAttributes with tag := some 10 }

theorem registration_eq_iff_price : ∃ message left right,
    ResolvedMessage.resolve lateRequest .standard = .ok message ∧
    resolve message.context priceAttributes = .ok left ∧
    resolve message.context retaggedAttributes = .ok right ∧
    isIdentifier priceAttributes.name.toList = true ∧
    isIdentifier retaggedAttributes.name.toList = true ∧
    left.registration ≠ right.registration := by
  have succeeds : (ResolvedMessage.resolve lateRequest .standard >>= fun message =>
      resolve message.context priceAttributes >>= fun left =>
      (resolve message.context retaggedAttributes).map fun right =>
        (message, left, right)).isOk = true := by
    decide +kernel
  rcases Except.exists_ok_of_isOk succeeds with ⟨⟨message, left, right⟩, made⟩
  rcases Except.bind_eq_ok_iff.mp made with ⟨_, resolved, fieldsMade⟩
  rcases Except.bind_eq_ok_iff.mp fieldsMade with ⟨_, leftResolved, rightMade⟩
  rcases Except.map_eq_ok_iff.mp rightMade with ⟨_, rightResolved, same⟩
  cases same
  have named : isIdentifier priceAttributes.name.toList = true := by decide
  refine ⟨message, left, right, resolved, leftResolved, rightResolved, named, named, ?_⟩
  rw [ne_eq, registration_eq_iff leftResolved rightResolved named named]
  intro alike
  have tags := alike.tag
  rw [(names_of_resolve leftResolved).1, (names_of_resolve rightResolved).1] at tags
  cases tags

end ResolvedField

end MessageGen
