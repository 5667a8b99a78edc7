import MessageGen.Proofs.Message.Name
import MessageGen.Proofs.Message.Run

/-!
# Names and kinds of messages

The kind of a message follows its declared type, and the parts of its name follow the
suffix of the name. Only the type of a header is compared with the name. So a request or
a response has the flag, the suffix and the stem of its kind exactly if its name happens
to end in the suffix of the kind.
-/

namespace MessageGen

/-- The suffix that the names of messages of a kind are meant to have. -/
def MessageKind.suffix : MessageKind → NameSuffix
  | .request => .request
  | .response => .response
  | .requestHeader | .responseHeader => .header

/-- The parts of a name say the same as the kind of the message. -/
structure MessageKind.Agrees (kind : MessageKind) (declared : String) (name : MessageName) :
    Prop where
  header : name.isHeader = kind.isHeader
  ending : kind.suffix.text.toList <:+ declared.toList
  whole : declared = if kind.isHeader then name.family else name.family ++ kind.suffix.text

variable {declared type : String} {name : MessageName} {kind : MessageKind}
  {suffix other : NameSuffix} {text : List Char}

section Suffixes

/-- The suffixes end in different letters, so no text ends in two of them. -/
theorem NameSuffix.eq_of_suffix (isSuffix : suffix.text.toList <:+ text)
    (isOther : other.text.toList <:+ text) : suffix = other := by
  have lastLetter (suffix : NameSuffix) (isSuffix : suffix.text.toList <:+ text) :
      text.getLast? = suffix.text.toList.getLast? := by
    rcases isSuffix with ⟨front, rfl⟩
    apply List.getLast?_append_of_ne_nil
    cases suffix <;> decide
  have sameLetter := (lastLetter suffix isSuffix).symm.trans (lastLetter other isOther)
  revert sameLetter
  cases suffix <;> cases other <;> decide

/-- The suffix of a name decides whether it is that of a header, and leaves the family. -/
theorem parts_of_suffix (resolved : MessageName.resolve declared = .ok name)
    (isSuffix : suffix.text.toList <:+ declared.toList) :
    name.isHeader = (suffix == .header) ∧
      declared = if suffix == .header then name.family else name.family ++ suffix.text := by
  rcases MessageName.exists_suffix_of_resolve resolved with ⟨other, stem, -, parts, rfl⟩
  have same : suffix = other := NameSuffix.eq_of_suffix isSuffix ⟨stem, parts⟩
  subst same
  have isWhole : declared = String.ofList stem ++ suffix.text := by
    simp [← String.toList_inj, parts]
  cases suffix with
  | request => exact ⟨rfl, isWhole⟩
  | response => exact ⟨rfl, isWhole⟩
  | header => exact ⟨rfl, rfl⟩

end Suffixes

namespace MessageKind

/-- The names of the two headers end in the suffix of headers. -/
theorem suffix_of_isHeader (isKind : ofDeclaration declared type = .ok kind)
    (isHeader : kind.isHeader = true) : kind.suffix.text.toList <:+ declared.toList := by
  unfold ofDeclaration at isKind
  split at isKind
  · cases isKind
    cases isHeader
  split at isKind
  · cases isKind
    cases isHeader
  split at isKind
  · split at isKind
    · rename_i isRequestHeader
      cases isKind
      rw [isRequestHeader]
      decide
    split at isKind
    · rename_i isResponseHeader
      cases isKind
      rw [isResponseHeader]
      decide
    · cases isKind
  · cases isKind

theorem suffix_beq_header (kind : MessageKind) : (kind.suffix == .header) = kind.isHeader := by
  cases kind <;> rfl

theorem agrees_of_suffix (resolved : resolve declared type = .ok (kind, name))
    (isSuffix : kind.suffix.text.toList <:+ declared.toList) : kind.Agrees declared name := by
  rcases parts_of_suffix (resolve_eq_ok_iff.mp resolved).1 isSuffix with ⟨header, whole⟩
  rw [suffix_beq_header] at header whole
  exact ⟨header, isSuffix, whole⟩

theorem exists_suffix (resolved : resolve declared type = .ok (kind, name)) :
    ∃ suffix : NameSuffix,
      (∀ other : NameSuffix, other.text.toList <:+ declared.toList ↔ other = suffix) ∧
      name.isHeader = (suffix == .header) ∧
      declared = if suffix == .header then name.family else name.family ++ suffix.text := by
  have nameResolved := (resolve_eq_ok_iff.mp resolved).1
  rcases MessageName.exists_suffix_of_resolve nameResolved with ⟨suffix, stem, -, parts, -⟩
  have isSuffix : suffix.text.toList <:+ declared.toList := ⟨stem, parts⟩
  refine ⟨suffix, ?_, parts_of_suffix nameResolved isSuffix⟩
  intro other
  constructor
  · intro isOther
    exact NameSuffix.eq_of_suffix isOther isSuffix
  · rintro rfl
    exact isSuffix

theorem resolve_mismatched :
    resolve "FetchResponse" "request" = .ok (.request, ⟨"Fetch", false⟩) := by
  cbv

end MessageKind

end MessageGen
