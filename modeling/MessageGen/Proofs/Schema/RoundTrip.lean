import MessageGen.Proofs.Json.Printing
import MessageGen.Proofs.Json.Scanning
import MessageGen.Proofs.Schema.ReadBack
import MessageGen.Proofs.Structure.Run

/-!
# Documents survive a round trip

The compact text of a document that was read is one line without comments, and it is
read as the same document. Only floating-point numbers among the default values are left
out, whose texts are not read back here.
-/

namespace MessageGen

open Json Text

mutual

/-- The default values of fields and of the fields inside them. -/
def fieldDefaults : List Field → List Json
  | [] => []
  | field :: fields => field.defaults ++ fieldDefaults fields

def Field.defaults : Field → List Json
  | ⟨attributes, fields⟩ => attributes.default.toList ++ nestedDefaults fields

def nestedDefaults : Option (List Field) → List Json
  | none => []
  | some fields => fieldDefaults fields

end

/-- The default values of a document, at any depth. -/
def Document.defaults (document : Document) : List Json :=
  document.commonStructures.flatMap (fieldDefaults ·.fields) ++ fieldDefaults document.fields

/-- Whether no number in a list of values is a floating-point number. -/
def AreWhole (values : List Json) : Prop :=
  ∀ value ∈ values, ∀ number ∈ value.numbers, number.IsInteger

instance (values : List Json) : Decidable (AreWhole values) :=
  List.decidableBAll (fun value : Json => ∀ number ∈ value.numbers, number.IsInteger) values

theorem areWhole_append {first second : List Json} :
    AreWhole (first ++ second) ↔ AreWhole first ∧ AreWhole second :=
  List.forall_mem_append

theorem isInteger_ofInteger {value : Int} :
    ∀ number ∈ (ofInteger value).numbers, number.IsInteger := by
  simp [ofInteger, numbers, JsonNumber.IsInteger]

theorem Field.isInteger_toJson {field : Field} (whole : AreWhole field.default.toList)
    (nested : ∀ number ∈ (nestedToJson field.fields).numbers, number.IsInteger) :
    ∀ number ∈ field.toJson.numbers, number.IsInteger := by
  intro number number_mem
  rcases Field.mem_numbers_toJson.mp number_mem with inTag | inDefault | inFields
  · cases hasTag : field.tag with
    | none => simp [hasTag] at inTag
    | some tag =>
        rw [hasTag] at inTag
        exact isInteger_ofInteger number inTag
  · cases hasDefault : field.default with
    | none => simp [hasDefault] at inDefault
    | some value =>
        rw [hasDefault] at inDefault whole
        exact whole value List.mem_cons_self number inDefault
  · exact nested number inFields

theorem isInteger_of_mem_fields {fields : List Field} (whole : AreWhole (fieldDefaults fields)) :
    ∀ field ∈ fields, ∀ number ∈ field.toJson.numbers, number.IsInteger := by
  induction fields using Field.list_induction with
  | nil => simp
  | plain attributes fields ih =>
      rcases areWhole_append.mp whole with ⟨first, others⟩
      rcases areWhole_append.mp first with ⟨default, -⟩
      have absent : ∀ number ∈ (nestedToJson none).numbers, number.IsInteger := by
        simp [nestedToJson]
      exact List.forall_mem_cons.mpr ⟨Field.isInteger_toJson default absent, ih others⟩
  | nested attributes inner fields ihInner ih =>
      rcases areWhole_append.mp whole with ⟨first, others⟩
      rcases areWhole_append.mp first with ⟨default, nested⟩
      have inside : ∀ number ∈ (nestedToJson (some inner)).numbers, number.IsInteger := by
        simp only [nestedToJson, mem_numbers_fields]
        rintro number ⟨field, field_mem, number_mem⟩
        exact ihInner nested field field_mem number number_mem
      exact List.forall_mem_cons.mpr ⟨Field.isInteger_toJson default inside, ih others⟩

theorem isInteger_fieldsToJson {fields : List Field} (whole : AreWhole (fieldDefaults fields)) :
    ∀ number ∈ (Json.array (fieldsToJson fields)).numbers, number.IsInteger := by
  simp only [mem_numbers_fields]
  rintro number ⟨field, field_mem, number_mem⟩
  exact isInteger_of_mem_fields whole field field_mem number number_mem

theorem Document.isInteger_toJson {document : Document} (whole : AreWhole document.defaults) :
    ∀ number ∈ document.toJson.numbers, number.IsInteger := by
  rcases areWhole_append.mp whole with ⟨wholeCommon, wholeFields⟩
  intro number number_mem
  rcases Document.mem_numbers_toJson.mp number_mem with inKey | inCommon | inFields
  · exact isInteger_ofInteger number inKey
  · rcases mem_numbers_array.mp inCommon with ⟨_, json_mem, number_mem⟩
    rcases List.mem_map.mp json_mem with ⟨common, common_mem, rfl⟩
    apply isInteger_fieldsToJson _ number (CommonStructure.mem_numbers_toJson.mp number_mem)
    exact fun value value_mem =>
      wholeCommon value (List.mem_flatMap.mpr ⟨common, common_mem, value_mem⟩)
  · exact isInteger_fieldsToJson wholeFields number inFields

/-- A document that was read is read back, and its numbers can be printed. -/
theorem Document.isReadBack_of_parse {text : String} {document : Document}
    (parsed : Document.parse text = .ok document) :
    Json.IsReadBack (readDocument nestingLimit) document.toJson document := by
  simp only [Document.parse, Json.readText, Except.bind_eq_ok_iff] at parsed
  rcases parsed with ⟨_, isRead, isDone⟩
  split at isDone
  · cases isDone
    have inRange := inRange_ofText (Shape.passOver_of_read isRead)
    exact readsBack_readDocument _ _ inRange isRead
  · cases isDone

theorem withLineFeeds_of_hasNoControls {text : List Char} (noControls : HasNoControls text) :
    withLineFeeds text = text := by
  apply withLineFeeds_of_not_mem
  intro lineFeed_mem
  exact absurd (noControls '\n' lineFeed_mem) (by decide)

theorem finishLine_of_hasNoControls {text : List Char} (noControls : HasNoControls text) :
    finishLine text = text ++ ['\n'] := by
  apply if_neg
  intro isLast
  exact absurd (noControls '\n' (List.mem_of_getLast? isLast)) (by decide)

/-- The compact text of a value has no comments and no line feeds. -/
theorem Json.stripComments_print {json : Json} (printable : json.IsPrintable) :
    stripComments json.print = json.print ++ ['\n'] := by
  have isRead := isReadAsPrinted json printable [] [] isDelimited_nil
  have noControls := hasNoControls_print json printable
  rw [List.append_nil] at isRead
  have nonempty : json.print ≠ [] := by
    intro isEmpty
    rcases exists_next?_of_value isRead with ⟨first, inside, found, -⟩
    simp [isEmpty, next?, skipSpaces] at found
  rw [stripComments_of_passes (passes_of_reflTransGen isRead) nonempty,
    withLineFeeds_of_hasNoControls noControls, finishLine_of_hasNoControls noControls]

theorem Json.ofText_print {json : Json} (printable : json.IsPrintable) :
    Outline.ofText (json.print ++ ['\n']) = (json.outline, ['\n']) := by
  have isRead := isReadAsPrinted json printable [] ['\n']
    (isDelimited_cons (by decide))
  exact (Reading.outcome_eq_of_reflTransGen isRead).trans (Reading.outcome_done _ _)

/--
The compact text of a document that was read is left as it is by the comment remover, up
to a line feed at the end, and it is read as the same document.
-/
theorem Document.parse_print {text : String} {document : Document}
    (parsed : Document.parse text = .ok document) (whole : AreWhole document.defaults) :
    stripLineComments document.print = document.print ++ "\n" ∧
      Document.parse document.print = .ok document := by
  have readBack := Document.isReadBack_of_parse parsed
  have printable : document.toJson.IsPrintable := fun number number_mem =>
    ⟨Document.isInteger_toJson whole number number_mem, readBack.inRange number number_mem⟩
  have stripped := stripComments_print printable
  have characters : document.print.toList = document.toJson.print := String.toList_ofList
  constructor
  · rw [stripLineComments, characters, stripped, String.ofList_append]
    rfl
  · have isDone : (skipSpaces ['\n']).isEmpty = true := by decide
    simp only [Document.parse, characters, stripped, Json.readText, ofText_print printable,
      readBack.isRead, bind, Except.bind, isDone, if_true]

theorem Document.parse_print_nested : ∃ document,
    Document.parse
        "\x7b\"name\":\"A\",\"type\":\"data\",\"validVersions\":\"0\", // b
          \"fields\":[[\"B\",\"int8\",\"0+\",null,null,7,\x7b\"c\":[-1,\"//\\u0001\"]\x7d]]\x7d" =
      .ok document ∧
      stripLineComments document.print = document.print ++ "\n" ∧
        Document.parse document.print = .ok document := by
  have computed : (Document.parse
      "\x7b\"name\":\"A\",\"type\":\"data\",\"validVersions\":\"0\", // b
          \"fields\":[[\"B\",\"int8\",\"0+\",null,null,7,\x7b\"c\":[-1,\"//\\u0001\"]\x7d]]\x7d"
      ).toOption.map (fun document => decide (AreWhole document.defaults)) = some true := by
    decide +kernel
  rcases Except.exists_ok_of_map_toOption computed with ⟨document, parsed, whole⟩
  exact ⟨document, parsed, Document.parse_print parsed (of_decide_eq_true whole)⟩

end MessageGen
